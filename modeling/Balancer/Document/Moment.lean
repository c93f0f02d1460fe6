import Balancer.Value.Access

/-!
Points in time in documents: a record with the parts of the date and the time of day under one key,
and the offset in seconds under another one.
-/

namespace Balancer.Moment

def partsKey : String := "$datetime"

def offsetKey : String := "offset"

/-- The nearest number of microseconds. The fraction of a second is scaled as a binary number. -/
def microsOfSeconds (x : Binary64) : Checked Int :=
  match x with
  | .infinite _ => .error .infiniteInteger
  | .undefined => .error .undefinedInteger
  | .finite negative e f =>
    let (n, d) := Binary64.magnitude e f
    let scaled :=
      if n % d = 0 then Binary64.zero false else .ofFraction false (n % d * 1000000) d
    let micros := match scaled with
      | .finite _ e f => let (n, d) := Binary64.magnitude e f; Binary64.roundHalfEven n d
      | _ => 0
    let total : Int := n / d * 1000000 + micros
    .ok (if negative then -total else total)

/-- A size that passed its test, or why it is refused. -/
def sized (x : Except Timestamp.SizeError Int) : Checked Int := x.mapError .momentSize

/-- The offset that a document gives in seconds. -/
def readOffset (v : Value) : Checked (Option Int) := do
  let micros ← match v with
    | .null => return none
    | .real x => microsOfSeconds x
    | .int n => pure (n * 1000000)
    | .bool b => pure (if b then 1000000 else 0)
    | v => misuse (.notNumeric v)
  let micros ← sized (Timestamp.trySpan micros)
  if micros.natAbs < Timestamp.microsPerDay then return some micros
  else throw (.momentRange (.offset micros))

def readPart (v : Value) : Checked Int :=
  match v with
  | .int n => sized (Timestamp.tryPart n)
  | .bool b => .ok (if b then 1 else 0)
  | v => misuse (.notNumeric v)

/-- A point in time from its parts. The time of day may be left out from its end on, and is zero
there. -/
def ofParts (parts offset : Value) : Checked Timestamp := do
  let offset ← readOffset offset
  let given ← parts.members
  let parts ← (given.take 7).mapM readPart
  if given.length < 3 || 7 < given.length then misuse .badCall
  let part := fun i => parts.getD i 0
  match Timestamp.ofParts? (part 0) (part 1) (part 2) (part 3) (part 4) (part 5) (part 6)
      offset with
  | .ok t => return t
  | .error e => throw (.momentRange e)

mutual
/-- A value with the points in time that are written in it. -/
def restore : Value → Checked Value
  | .list items => do return .list (← restoreItems items)
  | .record fields =>
    match Value.field? fields partsKey with
    | some parts => do
      return .moment (← ofParts parts (Value.ofOption (Value.field? fields offsetKey)))
    | none => do return .record (← restoreFields fields)
  | v => .ok v

def restoreItems : List Value → Checked (List Value)
  | [] => .ok []
  | v :: r => do
    let first ← restore v
    return first :: (← restoreItems r)

def restoreFields : List (String × Value) → Checked (List (String × Value))
  | [] => .ok []
  | (k, v) :: r => do
    let first ← restore v
    return (k, first) :: (← restoreFields r)
end

end Balancer.Moment
