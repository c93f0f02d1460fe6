import Balancer.Value.Access

/-!
Names of load balancers: letters, digits and hyphens of ASCII, at most 32, no hyphen at an end.
One line feed at the end of a name is let through.
-/

namespace Balancer.Name

/-- Which rule a text breaks. -/
inductive Fault where
  | empty
  | underscore
  | foreign
  | hyphenAtEnd
  | tooLong
  deriving DecidableEq, Repr

def maxLength : Nat := 32

def Fault.reason : Fault → String
  | .empty => "Name cannot be empty"
  | .underscore => "Contains underscore. Use hyphens instead (e.g., 'api-lb' not 'api_lb')"
  | .foreign => "Only alphanumeric characters and hyphens are allowed."
  | .hyphenAtEnd => "Must not start or end with a hyphen."
  | .tooLong => "Too long. Name exceeds " ++ toString maxLength ++ " character limit."

/-- A text without one line feed at its end. -/
def body (s : List Char) : List Char := if s.getLast? = some '\n' then s.dropLast else s

/-- Letters, digits and hyphens, with a letter or digit at both ends. -/
def isWellFormed (s : List Char) : Bool :=
  s.all (fun c => c.isAlphanum || c == '-') &&
    (s.head?.any Char.isAlphanum) && (s.getLast?.any Char.isAlphanum)

/-- The first rule that a text breaks. -/
def fault? (s : List Char) : Option Fault :=
  if s.isEmpty then some .empty
  else if s.contains '_' then some .underscore
  else if s.contains '.' || s.contains ' ' then some .foreign
  else if s.head? = some '-' ∨ s.getLast? = some '-' then some .hyphenAtEnd
  else if !isWellFormed (body s) then some .foreign
  else if s.length > maxLength then some .tooLong
  else none

def refuse (v : Value) (f : Fault) : Checked String :=
  .error (.breaking "name" v f.reason)

/-- The name that a value is. A list or record is searched as a text would be, and then has no
first character to look at. -/
def check (v : Value) : Checked String :=
  if !v.isGiven then refuse v .empty
  else
    match v with
    | .text s =>
      match fault? s.toList with
      | some f => refuse v f
      | none => .ok s
    | v => do
      if ← v.holds "_" then refuse v .underscore
      else if ← v.holds "." then refuse v .foreign
      else if ← v.holds " " then refuse v .foreign
      else misuse (.noMember v "startswith")

/-- The variable that supplies a name where none is given. -/
def environmentVariable : String := "APILB_NAME"

/-- The name that is given, or else the one that the environment supplies. -/
def resolve (given supplied : Value) : Checked String :=
  check ((given.orElse supplied).orElse (.text ""))

end Balancer.Name
