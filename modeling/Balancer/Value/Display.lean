import Balancer.Text.Numeral
import Balancer.Text.Quoted
import Balancer.Value

/-!
The texts of values: as they stand in a message (`shown?`) and as they stand where a value is quoted
or inside another one (`quoted?`).
-/

namespace Balancer

/-- Numbers with a fraction need no exponent from 10 ^ -4 up to below 10 ^ 16. -/
def numberStyle : Decimal.Style := ⟨-4, 16, 2, "inf", "nan"⟩

namespace Timestamp

/-- An offset in days, seconds and microseconds, the last two never negative. -/
def spanQuoted (micros : Int) : String :=
  let rest := micros % microsPerDay
  let parts := [("days", micros / microsPerDay), ("seconds", rest / 1000000),
    ("microseconds", rest % 1000000)].filter (·.2 ≠ 0)
  let args := parts.map fun (name, n) => name ++ "=" ++ toString n
  "datetime.timedelta(" ++ (if args.isEmpty then "0" else ", ".intercalate args) ++ ")"

/-- The parts of a point in time; seconds and microseconds are left out where they are zero. -/
def quoted (t : Timestamp) : String :=
  let parts := [t.year, t.month, t.day, t.hour, t.minute] ++
    (if t.second = 0 ∧ t.micro = 0 then [] else [t.second]) ++
    (if t.micro = 0 then [] else [t.micro])
  let zone := match t.offset with
    | none => []
    | some 0 => ["tzinfo=datetime.timezone.utc"]
    | some micros => ["tzinfo=datetime.timezone(" ++ spanQuoted micros ++ ")"]
  "datetime.datetime(" ++ ", ".intercalate (parts.map toString ++ zone) ++ ")"

end Timestamp

namespace Value

mutual
/-- The text of a value where it is quoted. An integer with too many digits has none, and neither
has a list or record that holds one. -/
def quoted? : Value → Option String
  | .null => some "None"
  | .bool b => some (if b then "True" else "False")
  | .int n => Text.integer? n
  | .real x => some (numberStyle.text x)
  | .text s => some (Text.quoted s)
  | .list items => do return "[" ++ ", ".intercalate (← quotedItems? items) ++ "]"
  | .record fields => do return "\x7b" ++ ", ".intercalate (← quotedFields? fields) ++ "\x7d"
  | .moment t => some t.quoted

def quotedItems? : List Value → Option (List String)
  | [] => some []
  | v :: r => do
    let first ← quoted? v
    return first :: (← quotedItems? r)

def quotedFields? : List (String × Value) → Option (List String)
  | [] => some []
  | (k, v) :: r => do
    let first ← quoted? v
    return (Text.quoted k ++ ": " ++ first) :: (← quotedFields? r)
end

/-- The text of a value in a message: a text and a point in time stand there unquoted. -/
def shown? : Value → Option String
  | .text s => some s
  | .moment t => some (t.text " ")
  | v => v.quoted?

/-- The text of a value where it is quoted, empty if it has none. -/
def quoted (v : Value) : String := v.quoted?.getD ""

/-- The text of a value in a message, empty if it has none. -/
def shown (v : Value) : String := v.shown?.getD ""

@[simp] theorem shown?_text (s : String) : (Value.text s).shown? = some s := rfl

@[simp] theorem shown_text (s : String) : (Value.text s).shown = s := rfl

end Value

end Balancer
