import Balancer.Rejection

/-!
The parts of a value of unknown shape: each access gives the part or says why there is none.
-/

namespace Balancer.Value

/-- The text of a value in a message, which it must have. -/
def written (v : Value) : Checked String :=
  match v.shown? with
  | some s => .ok s
  | none => .error .unwritten

/-- The part of a record under a key that it must have. -/
def item (v : Value) (key : String) : Checked Value :=
  match v with
  | .record fields =>
    match field? fields key with
    | some w => .ok w
    | none => .error (.missingKey (Text.quoted key))
  | .text _ => misuse .textIndex
  | .list _ => misuse .listIndex
  | v => misuse (.notIndexable v)

/-- The part of a record under a key that it may have. -/
def get? (v : Value) (key : String) : Checked (Option Value) :=
  match v with
  | .record fields => .ok (field? fields key)
  | v => misuse (.noMember v "get")

/-- The first of a list or text. A record has no part under the number 0. -/
def head (v : Value) : Checked Value :=
  match v with
  | .list (w :: _) => .ok w
  | .text s =>
    match s.toList with
    | c :: _ => .ok (.text (String.singleton c))
    | [] => .error (.missingKey "0")
  | .list [] => .error (.missingKey "0")
  | .record _ => .error (.missingKey "0")
  | v => misuse (.notIndexable v)

/-- What a value is made of: a list's items, a text's characters, a record's keys. -/
def members (v : Value) : Checked (List Value) :=
  match v with
  | .list items => .ok items
  | .text s => .ok (s.toList.map fun c => .text (String.singleton c))
  | .record fields => .ok (fields.map fun p => .text p.1)
  | v => misuse (.notIterable v)

/-- Whether a text stands somewhere in another one. -/
def occursIn (part : List Char) : List Char → Bool
  | [] => part.isEmpty
  | c :: r => part.isPrefixOf (c :: r) || occursIn part r

/-- Whether a text is a part of a text, or a member of a list or record. -/
def holds (v : Value) (part : String) : Checked Bool :=
  match v with
  | .text s => .ok (occursIn part.toList s.toList)
  | .list items => .ok (items.any fun w => w.same (.text part))
  | .record fields => .ok (fields.any fun p => p.1 == part)
  | v => misuse (.notSearchable v)

/-- The integer that a value amounts to: a number without its fraction, or a numeral's value. -/
def toInteger (v : Value) : Checked Int :=
  match v with
  | .int n => .ok n
  | .bool b => .ok (if b then 1 else 0)
  | .real .undefined => .error .undefinedInteger
  | .real x =>
    match x.truncate? with
    | some n => .ok n
    | none => .error .infiniteInteger
  | .text s =>
    match Text.readInteger s with
    | .ok n => .ok n
    | .error .malformed => .error (.malformedInteger s)
    | .error (.tooLong digits) => .error (.tooManyDigits (some digits))
  | v => misuse (.notNumeric v)

/-- The texts that values are, the first of them at a position. -/
def textsFrom (position : Nat) : List Value → Checked (List String)
  | [] => .ok []
  | .text s :: r => (s :: ·) <$> textsFrom (position + 1) r
  | v :: _ => misuse (.notText position v)

def texts (items : List Value) : Checked (List String) := textsFrom 0 items

@[simp] theorem texts_map_text (ss : List String) : texts (ss.map .text) = .ok ss := by
  have h : ∀ n, textsFrom n (ss.map .text) = .ok ss := by
    induction ss with
    | nil => exact fun _ => rfl
    | cons s r ih => exact fun n => by simp [textsFrom, ih, Functor.map, Except.map]
  exact h 0

/-- The decimal text of a number without its fraction. A numeral is no number here. -/
def count? (v : Value) : Option String :=
  if v.isNumber then v.toInteger.toOption.bind Text.integer? else none

/-- The order of two values: of numbers, of texts by code points, of points in time. -/
def order? : Value → Value → Option Ordering
  | .text a, .text b => some (compare a b)
  | .moment a, .moment b => a.compare? b
  | v, w => v.compareNumbers? w

/-- Whether two values are of kinds that are ordered together. -/
def isComparable : Value → Value → Bool
  | .text _, .text _ => true
  | .moment a, .moment b => (a.compare? b).isSome
  | v, w => v.isNumber && w.isNumber

/-- A value before the first one that it does not exceed. -/
def insert (v : Value) : List Value → List Value
  | [] => [v]
  | w :: r => if v.order? w == some .gt then w :: insert v r else v :: w :: r

/-- Values in ascending order. Values that are not comparable cannot be sorted. -/
def sorted (items : List Value) : Checked (List Value) :=
  match items.find? fun v => items.any fun w => !w.isComparable v && items.length > 1 with
  | some v => misuse (.unordered "<" v (items.headD .null))
  | none => .ok (items.foldr insert [])

/-- Adds a value to a set, unless it is in it. -/
def adjoin (set : List Value) (v : Value) : Checked (List Value) :=
  if !v.isHashable then misuse (.unhashable v)
  else .ok (if set.any (·.same v) then set else set ++ [v])

/-- The distinct ones of the values, in the order in which they first occur. -/
def distinct (items : List Value) : Checked (List Value) := items.foldlM adjoin []

end Balancer.Value
