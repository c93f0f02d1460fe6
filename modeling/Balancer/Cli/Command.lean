import Balancer.Cli.Grammar
import Balancer.HealthCheck

/-!
The commands, and how command lines are read as commands.
-/

namespace Balancer.Cli

/-- The names of the commands. -/
inductive Verb where
  | provision
  | setPublic
  | setPrivate
  | addInstances
  | removeInstances
  | existence
  | describe
  | healthCheck
  deriving DecidableEq, Repr

namespace Verb

def all : List Verb :=
  [.provision, .setPublic, .setPrivate, .addInstances, .removeInstances, .existence, .describe,
    .healthCheck]

def name : Verb → String
  | .provision => "provision"
  | .setPublic => "set-public"
  | .setPrivate => "set-private"
  | .addInstances => "add-instances"
  | .removeInstances => "remove-instances"
  | .existence => "exists"
  | .describe => "describe"
  | .healthCheck => "health-check"

def ofName? (name : String) : Option Verb := all.find? fun v => v.name == name

def takesInstances : Verb → Bool
  | .addInstances => true
  | .removeInstances => true
  | _ => false

/-- The options of a command alone, with letters where they have one. -/
def ownOptions : Verb → List OptionRule
  | .provision => [.valued "--subnet", .valued "--port"]
  | .setPublic => [.valued "--port"]
  | .setPrivate => [.valued "--port"]
  | .describe => [⟨"--output", some 'o', true⟩]
  | .healthCheck =>
    [.valued "--protocol", .valued "--path", .valued "--port", .valued "--interval",
      .valued "--timeout", .valued "--healthy-threshold", .valued "--unhealthy-threshold"]
  | _ => []

def options (v : Verb) : List OptionRule :=
  [.valued "--name", .valued "--region", .valued "--endpoint-url"] ++ v.ownOptions ++
    [⟨"--help", none, false⟩]

end Verb

/-- How a description is shown. -/
inductive Format where
  | text
  | json
  deriving DecidableEq, Repr

/-- A command with the values of its own options and arguments. -/
inductive Command where
  | provision (subnets : List String) (port : Port)
  | setPublic (port : Port)
  | setPrivate (port : Port)
  | addInstances (ids : List String)
  | removeInstances (ids : List String)
  | existence
  | describe (format : Format)
  | healthCheck (protocol : Protocol) (path : String) (port : Port)
      (interval timeout healthy unhealthy : Int)
  deriving Repr

/-- A command and the values of the options that all commands have. -/
structure Invocation where
  name : Option String
  region : Option String
  endpoint : Option String
  command : Command
  deriving Repr

/-- What the environment supplies. Variables that are empty count as not set. -/
structure Environment where
  name : Option String
  region : Option String
  endpoint : Option String
  deriving Repr

namespace Command

def formatValue (w : Words) : Except UsageError Format :=
  match w.value? "--output" with
  | none => .ok .text
  | some "text" => .ok .text
  | some "json" => .ok .json
  | some word => .error (.notChoice ["--output", "-o"] word ["text", "json"])

def subnetValues (w : Words) : Except UsageError (List String) :=
  if w.has "--subnet" then .ok (w.values "--subnet") else .error (.missingOption "--subnet")

def tested {α : Type} (name : String) (x : Except UsageError α) :
    String × Except UsageError Unit := (name, x.map fun _ => ())

def readHealthCheck (w : Words) : Except UsageError Command := do
  let protocol := w.protocolValue "--protocol" .http
  let port := w.portValue "--port"
  let interval := w.wholeValue "--interval" 5 300 30
  let timeout := w.wholeValue "--timeout" 2 60 3
  let healthy := w.wholeValue "--healthy-threshold" 2 10 2
  let unhealthy := w.wholeValue "--unhealthy-threshold" 2 10 2
  w.checkAll [tested "--protocol" protocol, tested "--port" port, tested "--interval" interval,
    tested "--timeout" timeout, tested "--healthy-threshold" healthy,
    tested "--unhealthy-threshold" unhealthy]
  return .healthCheck (← protocol) ((w.value? "--path").getD "/") (← port) (← interval)
    (← timeout) (← healthy) (← unhealthy)

/-- The command that a verb and its words say. -/
def ofWords (v : Verb) (w : Words) : Except UsageError Command := do
  match v with
  | .provision =>
    let subnets := subnetValues w
    let port := w.portValue "--port"
    w.checkAll [tested "--subnet" subnets, tested "--port" port]
    return .provision (← subnets) (← port)
  | .setPublic => return .setPublic (← w.portValue "--port")
  | .setPrivate => return .setPrivate (← w.portValue "--port")
  | .addInstances => return .addInstances w.arguments
  | .removeInstances => return .removeInstances w.arguments
  | .existence => return .existence
  | .describe => return .describe (← formatValue w)
  | .healthCheck => readHealthCheck w

end Command

/-- What follows the verb: an invocation, or a wish for help. -/
inductive Reading where
  | help
  | invocation (i : Invocation)
  deriving Repr

/-- Reads what follows the verb. Arguments that are not taken are an error after all others. -/
def readCommand (env : Environment) (v : Verb) (words : List String) :
    Except UsageError Reading := do
  let w ← readWords v.options true words
  if w.has "--help" then return .help
  let command ← Command.ofWords v w
  if !v.takesInstances && !w.arguments.isEmpty then throw (.extraArguments w.arguments)
  let supplied := fun (s : Option String) => s.filter (!·.isEmpty)
  return .invocation ⟨w.value? "--name", (w.value? "--region").or (supplied env.region),
    (w.value? "--endpoint-url").or (supplied env.endpoint), command⟩

/-- What stands before the verb. -/
inductive Opening where
  | nothing
  | help
  | version
  | verb (verbose : Bool) (v : Verb) (words : List String)
  deriving Repr

def openingOptions : List OptionRule :=
  [⟨"--version", none, false⟩, ⟨"--verbose", some 'v', false⟩, ⟨"--help", none, false⟩]

/-- The answer that an option of the group asks for instead of a command: the one given first. -/
def askedFor (w : Words) : Option Opening :=
  w.settings.findSome? fun s =>
    if s.name == "--version" then some .version
    else if s.name == "--help" then some .help
    else none

/-- Reads a command line up to the verb. A word in the verb's place that starts with a hyphen is
read once more as an option. -/
def readOpening (words : List String) : Except UsageError Opening := do
  if words.isEmpty then return .nothing
  let w ← readWords openingOptions false words
  match askedFor w with
  | some opening => return opening
  | none =>
    match w.arguments with
    | [] => throw .missingCommand
    | word :: rest =>
      match Verb.ofName? word with
      | some v => return .verb (w.has "--verbose") v rest
      | none => do
        if word.toList.head? = some '-' then
          match askedFor (← readWords openingOptions false (word :: rest)) with
          | some opening => return opening
          | none => throw (.noSuchCommand word)
        else throw (.noSuchCommand word)

end Balancer.Cli
