import Balancer.Value.Display

/-!
Why a value is refused: it breaks a rule of its field, lacks a part, or is of a kind that does not
support what is asked of it.
-/

namespace Balancer

/-- A use of a value that its kind does not support. -/
inductive Misuse where
  | notIterable (v : Value)
  | notSearchable (v : Value)
  | notIndexable (v : Value)
  | textIndex
  | listIndex
  | noMember (v : Value) (member : String)
  | notNumeric (v : Value)
  | unordered (relation : String) (v w : Value)
  | unhashable (v : Value)
  | notText (position : Nat) (v : Value)
  | notWritable (v : Value)
  | badCall
  | noAnswer
  deriving Repr

/-- The three ways in which a use can go wrong. -/
inductive Misuse.Category where
  | kind
  | member
  | assertion
  deriving DecidableEq, Repr

namespace Misuse

open Text (inQuotes)

def category : Misuse → Category
  | .noMember _ _ => .member
  | .noAnswer => .assertion
  | _ => .kind

def message : Misuse → String
  | .notIterable v => inQuotes v.kind ++ " object is not iterable"
  | .notSearchable v => "argument of type " ++ inQuotes v.kind ++ " is not iterable"
  | .notIndexable v => inQuotes v.kind ++ " object is not subscriptable"
  | .textIndex => "string indices must be integers, not 'str'"
  | .listIndex => "list indices must be integers or slices, not str"
  | .noMember v member =>
    inQuotes v.kind ++ " object has no attribute " ++ inQuotes member
  | .notNumeric v =>
    "int() argument must be a string, a bytes-like object or a real number, not " ++ inQuotes v.kind
  | .unordered relation v w =>
    inQuotes relation ++ " not supported between instances of " ++ inQuotes v.kind ++ " and " ++
      inQuotes w.kind
  | .unhashable v => "unhashable type: " ++ inQuotes v.kind
  | .notText position v =>
    "sequence item " ++ toString position ++ ": expected str instance, " ++ v.kind ++ " found"
  | .notWritable v => "Object of type " ++ v.kind ++ " is not JSON serializable"
  | .badCall => "the parameters do not fit"
  | .noAnswer => ""

end Misuse

/-- Why a value is refused. The text of a rule that is broken is made with the refusal, so all that
it shows can be written. A missing key stands here as it is quoted. How many digits are too many is
told of a numeral that is read, not of an integer that is to be written. -/
inductive Rejection where
  | invalid (field value reason : Value)
      (isWritten : field.shown?.isSome ∧ value.quoted?.isSome ∧ reason.shown?.isSome)
  | missingKey (key : String)
  | malformedInteger (text : String)
  | tooManyDigits (digits : Option Nat)
  | infiniteInteger
  | undefinedInteger
  | momentRange (e : Timestamp.RangeError)
  | momentSize (e : Timestamp.SizeError)
  | misused (m : Misuse)
  deriving Repr

namespace Rejection

def rangeMessage : Timestamp.RangeError → String
  | .year n => "year " ++ toString n ++ " is out of range"
  | .month => "month must be in 1..12"
  | .day => "day is out of range for month"
  | .hour => "hour must be in 0..23"
  | .minute => "minute must be in 0..59"
  | .second => "second must be in 0..59"
  | .micro => "microsecond must be in 0..999999"
  | .offset micros =>
    "offset must be a timedelta strictly between -timedelta(hours=24) and " ++
      "timedelta(hours=24), not " ++ Timestamp.spanQuoted micros ++ "."

def sizeMessage : Timestamp.SizeError → String
  | .above => "signed integer is greater than maximum"
  | .below => "signed integer is less than minimum"
  | .beyondWord => "Python int too large to convert to C long"
  | .daysBeyondWord => "Python int too large to convert to C int"
  | .days n =>
    "days=" ++ toString n ++ "; must have magnitude <= " ++ toString Timestamp.maxSpanDays

def digitsMessage (digits : Option Nat) : String :=
  "Exceeds the limit (" ++ toString Text.maxDigits ++ " digits) for integer string conversion" ++
    (digits.map fun n => ": value has " ++ toString n ++ " digits").getD "" ++
    "; use sys.set_int_max_str_digits() to increase the limit"

/-- The text of a refusal. A text that is no numeral is quoted up to 200 characters. -/
def message : Rejection → String
  | .invalid field value reason _ =>
    "Invalid " ++ field.shown ++ " " ++ value.quoted ++ ": " ++ reason.shown
  | .missingKey key => key
  | .malformedInteger text =>
    "invalid literal for int() with base 10: " ++
      .ofList ((Text.quoted text).toList.take 200)
  | .tooManyDigits digits => digitsMessage digits
  | .infiniteInteger => "cannot convert float infinity to integer"
  | .undefinedInteger => "cannot convert float NaN to integer"
  | .momentRange e => rangeMessage e
  | .momentSize e => sizeMessage e
  | .misused m => m.message

/-- An integer that has too many digits to be written. -/
def unwritten : Rejection := .tooManyDigits none

/-- The refusal of a field's value. Its text shows the value, so a value that cannot be written is
refused for that instead. -/
def ofParts (field value reason : Value) : Rejection :=
  if h : field.shown?.isSome ∧ value.quoted?.isSome ∧ reason.shown?.isSome then
    .invalid field value reason h
  else .unwritten

/-- The refusal of a value that breaks a rule of its field. -/
def breaking (field : String) (v : Value) (reason : String) : Rejection :=
  .ofParts (.text field) v (.text reason)

end Rejection

/-- A value that was tested. -/
abbrev Checked := Except Rejection

def misuse {α : Type} (m : Misuse) : Checked α := .error (.misused m)

end Balancer
