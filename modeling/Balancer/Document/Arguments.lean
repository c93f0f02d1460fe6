import Balancer.Rejection

/-!
Named arguments, as far as they fit the parameters that are asked for.
-/

namespace Balancer

abbrev Arguments := List (String × Value)

namespace Arguments

/-- The arguments that a document gives. Nothing written is no argument. -/
def ofDocument : Value → Checked Arguments
  | .record fields => .ok fields
  | .null => .ok []
  | _ => misuse .badCall

/-- All the required parameters are given, and nothing else but optional ones. -/
def fits (given : Arguments) (required optional : List String) : Bool :=
  required.all (fun key => given.any (·.1 == key)) &&
    given.all fun p => required.contains p.1 || optional.contains p.1

def check (given : Arguments) (required optional : List String) : Checked Unit :=
  if given.fits required optional then .ok () else misuse .badCall

/-- The argument of a name, or what stands for it when it is not given. -/
def part (given : Arguments) (key : String) (otherwise : Value) : Value :=
  (Value.field? given key).getD otherwise

/-- The argument of a name as something else, if it is given. -/
def read? {α : Type} (given : Arguments) (key : String) (read : Value → Checked α) :
    Checked (Option α) :=
  (Value.field? given key).mapM read

/-- The argument of a name as something else, if it is given and not null. -/
def part? {α : Type} (given : Arguments) (key : String) (read : Value → Checked α) :
    Checked (Option α) :=
  match Value.field? given key with
  | none => .ok none
  | some .null => .ok none
  | some v => some <$> read v

end Arguments

end Balancer
