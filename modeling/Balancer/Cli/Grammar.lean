import Balancer.Protocol
import Balancer.Port

/-!
The grammar of command lines: options, their values, and arguments.

A long option has its value after an equals sign or as the next word; a short one has it in the
rest of its word or as the next word. Short options without a value may share a word. Two hyphens
alone end the options. Of an option that is given again the last value counts.
-/

namespace Balancer.Cli

/-- Why a command line is not understood. -/
inductive UsageError where
  | noSuchOption (spelling : String)
  | needsValue (spelling : String)
  | takesNoValue (spelling : String)
  | missingCommand
  | noSuchCommand (name : String)
  | extraArguments (words : List String)
  | missingOption (name : String)
  | notInteger (name word : String)
  | outOfRange (name : String) (n lo hi : Int)
  | notChoice (names : List String) (word : String) (choices : List String)
  | badName (r : Rejection)
  | badValue (r : Rejection)
  deriving Repr

namespace UsageError

def invalid (names : List String) (reason : String) : String :=
  "Invalid value for " ++ " / ".intercalate (names.map Text.inQuotes) ++ ": " ++ reason

def message : UsageError → String
  | .noSuchOption spelling => "No such option " ++ Text.quoted spelling ++ "."
  | .needsValue spelling => "Option " ++ Text.quoted spelling ++ " requires an argument."
  | .takesNoValue spelling => "Option " ++ Text.quoted spelling ++ " does not take a value."
  | .missingCommand => "Missing command."
  | .noSuchCommand name => "No such command " ++ Text.quoted name ++ "."
  | .extraArguments words =>
    "Got unexpected extra argument" ++ (if words.length = 1 then "" else "s") ++ " (" ++
      " ".intercalate words ++ ")"
  | .missingOption name => "Missing option " ++ Text.inQuotes name ++ "."
  | .notInteger name word =>
    invalid [name] (Text.quoted word ++ " is not a valid integer range.")
  | .outOfRange name n lo hi =>
    invalid [name] (toString n ++ " is not in the range " ++ toString lo ++ "<=x<=" ++
      toString hi ++ ".")
  | .notChoice names word choices =>
    invalid names (Text.quoted word ++ " is not one of " ++
      ", ".intercalate (choices.map Text.inQuotes) ++ ".")
  | .badName r => r.message
  | .badValue r => "Invalid value: " ++ r.message

/-- An option with a value too few or too many is reported without the usage of its command. -/
def showsUsage : UsageError → Bool
  | .needsValue _ => false
  | .takesNoValue _ => false
  | _ => true

end UsageError

/-- An option: its long name, its letter if it has one, and whether it has a value. -/
structure OptionRule where
  name : String
  letter : Option Char
  takesValue : Bool
  deriving DecidableEq, Repr

def OptionRule.valued (name : String) : OptionRule := ⟨name, none, true⟩

/-- An option that a command line sets, with its value. -/
structure Setting where
  name : String
  value : String
  deriving DecidableEq, Repr

/-- What a command line says. -/
structure Words where
  settings : List Setting
  arguments : List String
  deriving DecidableEq, Repr

def Words.set (settings : List Setting) (w : Words) : Words :=
  { w with settings := settings ++ w.settings }

/-- The options of one word. The last one may have its value in the next word. -/
structure OptionWord where
  settings : List Setting
  pending : Option Setting
  deriving DecidableEq, Repr

def isOptionWord (word : String) : Bool := word.length > 1 && word.toList.head? == some '-'

/-- The text before the first equals sign, and the one after it. -/
def splitAtEquals (s : List Char) : List Char × Option (List Char) :=
  match s.dropWhile (· != '=') with
  | [] => (s, none)
  | _ :: r => (s.takeWhile (· != '='), some r)

/-- Short options that share a word. -/
def readLetters (rules : List OptionRule) : List Char → Except UsageError OptionWord
  | [] => .ok ⟨[], none⟩
  | c :: r =>
    match rules.find? fun o => o.letter == some c with
    | none => .error (.noSuchOption (.ofList ['-', c]))
    | some o =>
      if o.takesValue then
        if r.isEmpty then .ok ⟨[], some ⟨o.name, .ofList ['-', c]⟩⟩
        else .ok ⟨[⟨o.name, .ofList r⟩], none⟩
      else do
        let w ← readLetters rules r
        return { w with settings := ⟨o.name, ""⟩ :: w.settings }

/-- A word that starts with a hyphen. Its text before an equals sign is looked up as a long option
first. -/
def readOptionWord (rules : List OptionRule) (word : String) : Except UsageError OptionWord :=
  let (front, value) := splitAtEquals word.toList
  let spelling := String.ofList front
  match rules.find? fun o => o.name == spelling with
  | some o =>
    match o.takesValue, value with
    | true, some v => .ok ⟨[⟨o.name, .ofList v⟩], none⟩
    | true, none => .ok ⟨[], some ⟨o.name, spelling⟩⟩
    | false, some _ => .error (.takesNoValue spelling)
    | false, none => .ok ⟨[⟨o.name, ""⟩], none⟩
  | none =>
    if word.toList.take 2 = ['-', '-'] then .error (.noSuchOption spelling)
    else readLetters rules (word.toList.drop 1)

/-- Reads the words of a command line. Unless options and arguments may mix, the first argument ends
the options. -/
def readWords (rules : List OptionRule) (mixed : Bool) : List String → Except UsageError Words
  | [] => .ok ⟨[], []⟩
  | word :: rest =>
    if word = "--" then .ok ⟨[], rest⟩
    else if isOptionWord word then
      match readOptionWord rules word with
      | .error e => .error e
      | .ok ⟨settings, none⟩ => (readWords rules mixed rest).map (·.set settings)
      | .ok ⟨settings, some pending⟩ =>
        match rest with
        | [] => .error (.needsValue pending.value)
        | value :: rest =>
          (readWords rules mixed rest).map (·.set (settings ++ [⟨pending.name, value⟩]))
    else if mixed then
      (readWords rules mixed rest).map fun w => { w with arguments := word :: w.arguments }
    else .ok ⟨[], word :: rest⟩

namespace Words

def values (w : Words) (name : String) : List String :=
  (w.settings.filter (·.name == name)).map (·.value)

def value? (w : Words) (name : String) : Option String := (w.values name).getLast?

def has (w : Words) (name : String) : Bool := w.settings.any (·.name == name)

/-- An integer within bounds, or the one that stands for none. -/
def wholeValue (w : Words) (name : String) (lo hi otherwise : Int) : Except UsageError Int :=
  match w.value? name with
  | none => .ok otherwise
  | some word =>
    match Text.readInteger word with
    | .error _ => .error (.notInteger name word)
    | .ok n => if n < lo ∨ hi < n then .error (.outOfRange name n lo hi) else .ok n

/-- A port, or the control plane's. -/
def portValue (w : Words) (name : String) : Except UsageError Port :=
  match w.wholeValue name 1 65535 Port.controlPlane.number with
  | .error e => .error e
  | .ok n =>
    match Port.ofInt? n with
    | some p => .ok p
    | none => .error (.outOfRange name n 1 65535)

/-- The protocol that a word names in any letter case. -/
def protocolValue (w : Words) (name : String) (otherwise : Protocol) : Except UsageError Protocol :=
  match w.value? name with
  | none => .ok otherwise
  | some word =>
    match Protocol.all.find? fun p => Text.fold p.name == Text.fold word with
    | some p => .ok p
    | none => .error (.notChoice [name] word (Protocol.all.map fun p => Text.fold p.name))

/-- The first error among the tests of options: those that are given come first, in the order in
which they are first given, and then the others in theirs. -/
def checkAll (w : Words) (tests : List (String × Except UsageError Unit)) :
    Except UsageError Unit :=
  let given := w.settings.filterMap fun s => tests.find? fun t => t.1 == s.name
  (given ++ tests).forM (·.2)

end Words

end Balancer.Cli
