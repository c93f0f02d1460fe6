/-!
Points in time as a calendar date and a time of day, with or without an offset from UTC.

Two points that both have an offset, or both have none, are ordered; a point with an offset and one
without are neither equal nor ordered.
-/

namespace Balancer

/-- The offset is in microseconds, positive east of Greenwich. -/
structure Timestamp where
  year : Nat
  month : Nat
  day : Nat
  hour : Nat
  minute : Nat
  second : Nat
  micro : Nat
  offset : Option Int
  deriving DecidableEq, Repr

namespace Timestamp

/-- Which part of a point in time is out of its range. -/
inductive RangeError where
  | year (n : Int)
  | month
  | day
  | hour
  | minute
  | second
  | micro
  | offset (micros : Int)
  deriving DecidableEq, Repr

/-- A number that is refused before it is tested against any range: a part that takes more than 32
bits or more than 64, or a span of time with more days than one may have. -/
inductive SizeError where
  | above
  | below
  | beyondWord
  | daysBeyondWord
  | days (n : Int)
  deriving DecidableEq, Repr

def isLeap (year : Nat) : Bool := year % 4 == 0 && (year % 100 != 0 || year % 400 == 0)

def monthLength (year month : Nat) : Nat :=
  if month = 2 then (if isLeap year then 29 else 28)
  else if month = 4 || month = 6 || month = 9 || month = 11 then 30 else 31

def microsPerDay : Nat := 86400000000

/-- A number that may be tried as a part. -/
def tryPart (n : Int) : Except SizeError Int :=
  if n < -9223372036854775808 || 9223372036854775807 < n then .error .beyondWord
  else if n < -2147483648 then .error .below
  else if 2147483647 < n then .error .above
  else .ok n

def maxSpanDays : Nat := 999999999

/-- A number of microseconds that a span of time may have. -/
def trySpan (micros : Int) : Except SizeError Int :=
  let days := micros / microsPerDay
  if days < -2147483648 || 2147483647 < days then .error .daysBeyondWord
  else if maxSpanDays < days.natAbs then .error (.days days)
  else .ok micros

/-- The point in time with these parts, each tested against its range in this order. -/
def ofParts? (year month day hour minute second micro : Int) (offset : Option Int) :
    Except RangeError Timestamp := do
  if year < 1 || 9999 < year then throw (.year year)
  if month < 1 || 12 < month then throw .month
  if day < 1 || (monthLength year.toNat month.toNat : Int) < day then throw .day
  if hour < 0 || 23 < hour then throw .hour
  if minute < 0 || 59 < minute then throw .minute
  if second < 0 || 59 < second then throw .second
  if micro < 0 || 999999 < micro then throw .micro
  return ⟨year.toNat, month.toNat, day.toNat, hour.toNat, minute.toNat, second.toNat, micro.toNat,
    offset⟩

/-- Days from the first of January of the year 1. -/
def dayNumber (t : Timestamp) : Nat :=
  let y := t.year - 1
  y * 365 + y / 4 - y / 100 + y / 400 +
    (List.range (t.month - 1)).foldl (fun n m => n + monthLength t.year (m + 1)) 0 + t.day - 1

/-- Microseconds from the first of January of the year 1, in UTC if the offset is known. -/
def instant (t : Timestamp) : Int :=
  (((t.dayNumber * 24 + t.hour) * 60 + t.minute) * 60 + t.second) * 1000000 + t.micro -
    t.offset.getD 0

/-- The order of two points in time, if they have one. -/
def compare? (t u : Timestamp) : Option Ordering :=
  if t.offset.isSome = u.offset.isSome then some (compare t.instant u.instant) else none

def same (t u : Timestamp) : Bool := t.compare? u == some .eq

/-- `n` in decimal digits, at least `width` of them. -/
def padded (width n : Nat) : String :=
  let ds := Nat.toDigits 10 n
  .ofList (List.replicate (width - ds.length) '0' ++ ds)

/-- Six places after the point, unless they are all zero. -/
def microsText (micro : Nat) : String := if micro = 0 then "" else "." ++ padded 6 micro

/-- Hours and minutes; seconds and their places only where they are not zero. -/
def offsetText (micros : Int) : String :=
  let n := micros.natAbs
  let seconds := n / 1000000
  let tail :=
    if n % 60000000 = 0 then "" else ":" ++ padded 2 (seconds % 60) ++ microsText (n % 1000000)
  (if micros < 0 then "-" else "+") ++ padded 2 (seconds / 3600) ++ ":" ++
    padded 2 (seconds / 60 % 60) ++ tail

/-- Date, separator, time of day, offset, as ISO 8601 writes them. -/
def text (separator : String) (t : Timestamp) : String :=
  padded 4 t.year ++ "-" ++ padded 2 t.month ++ "-" ++ padded 2 t.day ++ separator ++
    padded 2 t.hour ++ ":" ++ padded 2 t.minute ++ ":" ++ padded 2 t.second ++
    microsText t.micro ++ (t.offset.map offsetText).getD ""

end Timestamp

end Balancer
