import Balancer.Decimal.Shortest
import Balancer.Timestamp

/-!
The values that the provider's answers, a request's parameters and a caller's arguments are made of.

Nothing is promised about the shape of an answer, so it stays a value until it is decoded. A record
keeps the order of its fields and has each key once.
-/

namespace Balancer

inductive Value where
  | null
  | bool (b : Bool)
  | int (n : Int)
  | real (x : Binary64)
  | text (s : String)
  | list (items : List Value)
  | record (fields : List (String × Value))
  | moment (t : Timestamp)
  deriving Repr, Inhabited

namespace Value

/-- The name of a value's kind, as error texts have it. -/
def kind : Value → String
  | .null => "NoneType"
  | .bool _ => "bool"
  | .int _ => "int"
  | .real _ => "float"
  | .text _ => "str"
  | .list _ => "list"
  | .record _ => "dict"
  | .moment _ => "datetime.datetime"

/-- A value counts as given unless it is null, false, zero or empty. -/
def isGiven : Value → Bool
  | .null => false
  | .bool b => b
  | .int n => n != 0
  | .real x => !x.isZero
  | .text s => !s.isEmpty
  | .list items => !items.isEmpty
  | .record fields => !fields.isEmpty
  | .moment _ => true

/-- The first of the two that counts as given, or the second. -/
def orElse (v w : Value) : Value := if v.isGiven then v else w

/-- The value, or null for none. -/
def ofOption (v : Option Value) : Value := v.getD .null

def ofText? (s : Option String) : Value := ofOption (s.map .text)

def isNull : Value → Bool
  | .null => true
  | _ => false

/-- A truth value is a number as well. -/
def isNumber : Value → Bool
  | .bool _ => true
  | .int _ => true
  | .real _ => true
  | _ => false

/-- The order of an integer and a number; a truth value is the number 1 or 0. -/
def compareWith? (a : Int) : Value → Option Ordering
  | .bool b => some (compare a (if b then 1 else 0))
  | .int b => some (compare a b)
  | .real x => (x.compareInt? a).map Ordering.swap
  | _ => none

/-- The order of two numbers. Other values have none, nor does a number that is undefined. -/
def compareNumbers? : Value → Value → Option Ordering
  | .bool a, w => w.compareWith? (if a then 1 else 0)
  | .int a, w => w.compareWith? a
  | .real x, .real y => x.compare? y
  | .real x, .int b => x.compareInt? b
  | .real x, .bool b => x.compareInt? (if b then 1 else 0)
  | _, _ => none

/-- The value under a key. -/
def field? (fields : List (String × Value)) (key : String) : Option Value :=
  (fields.find? fun p => p.1 == key).map (·.2)

/-- Puts a value under a key: in the place of an old one, else at the end. -/
def setField (key : String) (v : Value) : List (String × Value) → List (String × Value)
  | [] => [(key, v)]
  | (k, w) :: r => if k = key then (k, v) :: r else (k, w) :: setField key v r

mutual
/-- Whether two values are equal: numbers by what they amount to, records whatever the order of
their fields. What is undefined is the same as itself. -/
def same : Value → Value → Bool
  | .null, .null => true
  | .text a, .text b => a == b
  | .list a, .list b => sameItems a b
  | .record a, .record b => a.length == b.length && sameFields a b
  | .moment a, .moment b => a.same b
  | .real .undefined, .real .undefined => true
  | v, w => v.compareNumbers? w == some .eq

def sameItems : List Value → List Value → Bool
  | [], [] => true
  | v :: vs, w :: ws => same v w && sameItems vs ws
  | _, _ => false

def sameFields : List (String × Value) → List (String × Value) → Bool
  | [], _ => true
  | (k, v) :: r, b =>
    (match field? b k with
      | some w => same v w
      | none => false) && sameFields r b
end

/-- Whether a value can be a key or a member of a set: lists and records cannot. -/
def isHashable : Value → Bool
  | .list _ => false
  | .record _ => false
  | _ => true

end Value

end Balancer
