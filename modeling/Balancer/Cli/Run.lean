import Balancer.Catalogue
import Balancer.Cli.Command
import Balancer.Json.Layout
import Balancer.Manager
import Balancer.Text.ControlSequence

/-!
What a command does and prints.

A command line that is not understood ends with code 2, as does a question for a load balancer that
does not exist; a failure ends with code 1. Reports are written on one output, errors on the other,
both without control sequences.
-/

namespace Balancer.Cli

/-- What a command prints and how it ends. An error may escape that no command expects. -/
structure Printed where
  exitCode : Nat
  output : String
  errors : String
  escaped : Option Failure
  deriving Repr

/-- All that can be observed of a run. -/
structure Report where
  printed : Printed
  events : List Event
  logs : List LogEntry
  logLevels : List LogLevel
  deriving Repr

def line (s : String) : String := s ++ "\n"

def lines (ss : List String) : String := String.join (ss.map line)

/-- How a command is called. -/
def usage : Option Verb → String
  | none => "apilb [OPTIONS] COMMAND [ARGS]..."
  | some v =>
    "apilb " ++ v.name ++ " [OPTIONS]" ++ (if v.takesInstances then " [INSTANCE_IDS]..." else "")

def commandName : Option Verb → String
  | none => "apilb"
  | some v => "apilb " ++ v.name

def usageError (scope : Option Verb) (e : UsageError) : Printed :=
  let introduction :=
    if e.showsUsage then
      lines ["Usage: " ++ usage scope, "Try '" ++ commandName scope ++ " --help' for help.", ""]
    else ""
  ⟨2, "", introduction ++ line ("Error: " ++ e.message), none⟩

def help (scope : Option Verb) : Printed := ⟨0, line ("Usage: " ++ usage scope), "", none⟩

def succeeded (output : String) : Printed := ⟨0, output, "", none⟩

def escaping (output : String) (r : Rejection) : Printed := ⟨1, output, "", some (.rejected r)⟩

/-- Prints lines one after another, up to one that cannot be made. -/
def tell : List (Checked String) → Printed
  | [] => succeeded ""
  | .error r :: _ => escaping "" r
  | .ok s :: rest =>
    let p := tell rest
    { p with output := line s ++ p.output }

/-- What stands before a value, and the value. -/
def labelled (label : String) (v : Value) : Checked String := (label ++ ·) <$> v.written

/-- What is printed about a failure, which has a text. -/
def failureText (f : Failure) (text : String) : String :=
  line ("✗ " ++ (if f.family?.isSome then "" else "Unexpected error: ") ++ text) ++
    (if f.isPartial then
      line ("  The load balancer was created but is unmonitored. " ++
        "Retry with 'apilb health-check'.")
    else "")

/-- Tells a failure. Telling one without a text fails for that. -/
def failed (f : Failure) : Printed :=
  match f.text? with
  | some text => ⟨1, "", failureText f text, none⟩
  | none => escaping "" .unwritten

def subnetsLine (subnets : List String) : String :=
  let joined := ", ".intercalate subnets
  "  Subnets: " ++ (if joined.isEmpty then "-" else joined)

def listenerLine (l : Listener) : String :=
  "    " ++ toString l.frontend.number ++ "/" ++ l.protocol.name ++ " -> " ++
    toString l.backend.number ++ "/" ++ l.instanceProtocol.name

def listenerLines (d : Description) : List String :=
  if d.listeners.isEmpty then ["    (none)"] else d.listeners.map fun e => listenerLine e.2

/-- A description, line by line. -/
def descriptionLines (d : Description) (instances : List Value) : List (Checked String) :=
  [labelled "Load balancer: " d.name, labelled "  DNS name: " d.dnsName,
    .ok ("  State: " ++ d.standardExposure.text),
    labelled "  Scheme: " (d.scheme.orElse (.text "unknown")),
    subnetsLine <$> Value.texts d.subnets,
    .ok ("  Health check: " ++ (d.healthCheck.map HealthCheck.target).getD "none"),
    .ok "  Listeners:"] ++
    (listenerLines d).map .ok ++
    [.ok ("  Instances (" ++ toString instances.length ++ "):")] ++
    instances.map (labelled "    ")

def showDescription (format : Format) (d : Description) : Printed :=
  match d.toReport, Value.sorted d.instances with
  | .error r, _ => escaping "" r
  | _, .error r => escaping "" r
  | .ok report, .ok instances =>
    match format with
    | .text => tell (descriptionLines d instances)
    | .json => tell [Json.Layout.indented.write report]

/-- What a command prints before it does anything. -/
def announcement (i : Invocation) (name : String) : String :=
  match i.command with
  | .provision subnets port =>
    let forwarded := toString port.number ++ "/TCP"
    lines
      ["Provisioning load balancer: " ++ name,
        "  Region: " ++ (i.region.filter (!·.isEmpty)).getD "default",
        "  Subnets: " ++ ", ".intercalate subnets,
        "  Listener: " ++ forwarded ++ " -> " ++ forwarded,
        ""]
  | _ => ""

def instanceCount (ids : List String) : String := toString ids.eraseDups.length

/-- The operation that a command asks for. -/
def Command.operation (name : String) : Command → Except UsageError Operation
  | .provision subnets port =>
    .ok (.provision (.text name) (.list (subnets.map .text)) port.toValue)
  | .setPublic port => .ok (.setPublic (.text name) port.toValue)
  | .setPrivate _ => .ok (.setPrivate (.text name))
  | .addInstances ids => .ok (.addInstances (.text name) (.list (ids.map .text)))
  | .removeInstances ids => .ok (.removeInstances (.text name) (.list (ids.map .text)))
  | .existence => .ok (.existence (.text name))
  | .describe _ => .ok (.describe (.text name))
  | .healthCheck protocol path port interval timeout healthy unhealthy =>
    match HealthCheck.ofParts protocol.toValue (.text path) port.toValue (.int interval)
        (.int timeout) (.int healthy) (.int unhealthy) with
    | .ok check => .ok (.configureHealthCheck (.text name) (some check))
    | .error r => .error (.badValue r)

/-- The port that a command makes the control plane's. -/
def Command.controlPlanePort : Command → Port
  | .setPublic port => port
  | .setPrivate port => port
  | _ => .controlPlane

def Invocation.settings (i : Invocation) : Settings :=
  ⟨.ofText? i.region, .ofText? i.endpoint, i.command.controlPlanePort, .standard⟩

/-- The name that an invocation is about, and what it asks for. -/
def Invocation.resolve (env : Environment) (i : Invocation) :
    Except UsageError (String × Operation) :=
  match Name.resolve (.ofText? i.name) (.ofText? env.name) with
  | .error r => .error (.badName r)
  | .ok name => (i.command.operation name).map fun o => (name, o)

/-- What a command prints once its operation is done. -/
def conclusion (c : Command) (name : String) (o : Operation) (answer : Outcome) : Printed :=
  match c, o, answer with
  | .provision .., _, .dnsName dnsName =>
    tell [.ok "✓ Load balancer provisioned", labelled "  DNS name: " dnsName]
  | .setPublic port, _, _ =>
    succeeded (line ("✓ " ++ name ++ " is public on port " ++ toString port.number))
  | .setPrivate port, _, _ =>
    succeeded (line ("✓ " ++ name ++ " is private (listener on port " ++ toString port.number ++
      " removed)"))
  | .addInstances ids, _, _ =>
    succeeded (line ("✓ Registered " ++ instanceCount ids ++ " instance(s) with " ++ name))
  | .removeInstances ids, _, _ =>
    succeeded (line ("✓ Deregistered " ++ instanceCount ids ++ " instance(s) from " ++ name))
  | .existence, _, .existence found dnsName =>
    if found then tell [labelled (name ++ ": ") dnsName]
    else ⟨2, line (name ++ ": not found"), "", none⟩
  | .describe format, _, .description (some d) => showDescription format d
  | .healthCheck .., .configureHealthCheck _ (some check), _ =>
    succeeded (line ("✓ Health check " ++ check.target ++ " configured on " ++ name))
  | _, _, _ => succeeded ""

/-- Runs a command. -/
def Invocation.run (env : Environment) (script : Script) (v : Verb) (i : Invocation) :
    Printed × List Event × List LogEntry :=
  match i.resolve env with
  | .error e => (usageError (some v) e, [], [])
  | .ok (name, o) =>
    let front := announcement i name
    let x := (Manager.ofSettings i.settings).useOnce script o
    let printed : Printed := match x.result with
      | .error e => failed e.failure
      | .ok answer => conclusion i.command name o answer
    ({ printed with output := front ++ printed.output }, x.events, x.logs)

/-- What a command prints as its reader sees it. -/
def Printed.readable (p : Printed) : Printed :=
  { p with
    output := Text.ControlSequence.readable p.output
    errors := Text.ControlSequence.readable p.errors }

/-- What a command line comes to, its texts as they are made. -/
def perform (env : Environment) (script : Script) (words : List String) : Report :=
  match readOpening words with
  | .error e => ⟨usageError none e, [], [], []⟩
  | .ok .nothing => ⟨⟨2, "", line ("Usage: " ++ usage none), none⟩, [], [], []⟩
  | .ok .help => ⟨help none, [], [], []⟩
  | .ok .version => ⟨succeeded (line ("apilb, version " ++ Catalogue.version)), [], [], []⟩
  | .ok (.verb verbose v rest) =>
    let levels := [if verbose then .debug else .warning]
    match readCommand env v rest with
    | .error e => ⟨usageError (some v) e, [], [], levels⟩
    | .ok .help => ⟨help (some v), [], [], levels⟩
    | .ok (.invocation i) =>
      let (printed, events, logs) := i.run env script v
      ⟨printed, events, logs, levels⟩

/-- Runs a command line. No control sequence gets into what it prints. -/
def run (env : Environment) (script : Script) (words : List String) : Report :=
  let report := perform env script words
  { report with printed := report.printed.readable }

end Balancer.Cli
