import Balancer.Value

/-!
Reads JSON documents as values.

A numeral with a point or an exponent is a number with a fraction, any other is an integer. There
are words for the infinite numbers and for what is undefined. A key that comes twice keeps its first
place and has its last value.
-/

namespace Balancer.Json

def skipBlanks (s : List Char) : List Char :=
  s.dropWhile fun c => c == ' ' || c == '\n' || c == '\r' || c == '\t'

/-- The value of a hexadecimal digit. -/
def hexDigit? (c : Char) : Option Nat :=
  if c.isDigit then some (c.toNat - '0'.toNat)
  else if 'a' ≤ c && c ≤ 'f' then some (c.toNat - 'a'.toNat + 10)
  else if 'A' ≤ c && c ≤ 'F' then some (c.toNat - 'A'.toNat + 10)
  else none

/-- What a letter after a backslash stands for. -/
def plainEscape? (c : Char) : Option Nat :=
  match c with
  | '"' => some 0x22
  | '\\' => some 0x5C
  | '/' => some 0x2F
  | 'b' => some 0x08
  | 'f' => some 0x0C
  | 'n' => some 0x0A
  | 'r' => some 0x0D
  | 't' => some 0x09
  | _ => none

/-- The characters of a string as code points or units of UTF-16, and what follows the string. -/
def readUnits : List Char → Option (List Nat × List Char)
  | '"' :: r => some ([], r)
  | '\\' :: 'u' :: a :: b :: c :: d :: r => do
    let ds ← [a, b, c, d].mapM hexDigit?
    let (us, rest) ← readUnits r
    return (ds.foldl (fun n d => 16 * n + d) 0 :: us, rest)
  | '\\' :: c :: r => do
    let u ← plainEscape? c
    let (us, rest) ← readUnits r
    return (u :: us, rest)
  | c :: r => do
    let (us, rest) ← readUnits r
    return (c.toNat :: us, rest)
  | [] => none

/-- A code point, or the replacement character for what is none. -/
def charOf (n : Nat) : Char := if n.isValidChar then Char.ofNat n else '\ufffd'

/-- Joins the two units of a pair. -/
def joinUnits : List Nat → List Char
  | hi :: lo :: r =>
    if 0xD800 ≤ hi && hi < 0xDC00 && 0xDC00 ≤ lo && lo < 0xE000 then
      charOf (0x10000 + (hi - 0xD800) * 0x400 + (lo - 0xDC00)) :: joinUnits r
    else charOf hi :: joinUnits (lo :: r)
  | [u] => [charOf u]
  | [] => []

/-- A string after its opening quote. -/
def readString (s : List Char) : Option (String × List Char) :=
  (readUnits s).map fun (us, rest) => (.ofList (joinUnits us), rest)

def decimalValue (ds : List Char) : Nat := ds.foldl (fun n d => 10 * n + (d.toNat - '0'.toNat)) 0

/-- A sign, and what follows it. -/
def readSign : List Char → Bool × List Char
  | '-' :: r => (true, r)
  | '+' :: r => (false, r)
  | r => (false, r)

/-- The digits after a point, and what follows them. -/
def readFraction : List Char → List Char × List Char
  | '.' :: r => (r.takeWhile Char.isDigit, r.dropWhile Char.isDigit)
  | r => ([], r)

/-- The exponent, if there is one, and what follows it. -/
def readExponent (s : List Char) : Option Int × List Char :=
  match s with
  | c :: r =>
    if c == 'e' || c == 'E' then
      let (negative, body) := readSign r
      let n : Int := decimalValue (body.takeWhile Char.isDigit)
      (some (if negative then -n else n), body.dropWhile Char.isDigit)
    else (none, s)
  | [] => (none, [])

def readNumber (s : List Char) : Option (Value × List Char) :=
  let (negative, body) := readSign s
  let whole := body.takeWhile Char.isDigit
  let (fraction, rest) := readFraction (body.dropWhile Char.isDigit)
  let (exponent, rest) := readExponent rest
  if whole.isEmpty then none
  else if fraction.isEmpty && exponent.isNone then
    let n : Int := decimalValue whole
    some (.int (if negative then -n else n), rest)
  else
    some (.real (.ofDecimal negative (decimalValue (whole ++ fraction))
      (exponent.getD 0 - fraction.length)), rest)

/-- The words that stand for values. -/
def words : List (List Char × Value) :=
  [("null".toList, .null), ("true".toList, .bool true), ("false".toList, .bool false),
    ("Infinity".toList, .real (.infinite false)), ("-Infinity".toList, .real (.infinite true)),
    ("NaN".toList, .real .undefined)]

def readWord (s : List Char) : Option (Value × List Char) :=
  words.findSome? fun (word, v) =>
    if word.isPrefixOf s then some (v, s.drop word.length) else none

mutual
/-- A value at the start of a text, and what follows it. The fuel bounds the depth and length. -/
def readValue : Nat → List Char → Option (Value × List Char)
  | 0, _ => none
  | fuel + 1, s =>
    match skipBlanks s with
    | '"' :: r => (readString r).map fun (s, rest) => (.text s, rest)
    | '[' :: r =>
      match skipBlanks r with
      | ']' :: r => some (.list [], r)
      | r => (readItems fuel r).map fun (items, rest) => (.list items, rest)
    | '\x7b' :: r =>
      match skipBlanks r with
      | '\x7d' :: r => some (.record [], r)
      | r => (readFields fuel [] r).map fun (fields, rest) => (.record fields, rest)
    | s => (readWord s).orElse fun _ => readNumber s

def readItems : Nat → List Char → Option (List Value × List Char)
  | 0, _ => none
  | fuel + 1, s => do
    let (v, r) ← readValue fuel s
    match skipBlanks r with
    | ',' :: r =>
      let (vs, r) ← readItems fuel r
      return (v :: vs, r)
    | ']' :: r => return ([v], r)
    | _ => none

def readFields : Nat → List (String × Value) → List Char →
    Option (List (String × Value) × List Char)
  | 0, _, _ => none
  | fuel + 1, fields, s =>
    match skipBlanks s with
    | '"' :: r => do
      let (key, r) ← readString r
      match skipBlanks r with
      | ':' :: r =>
        let (v, r) ← readValue fuel r
        match skipBlanks r with
        | ',' :: r => readFields fuel (Value.setField key v fields) r
        | '\x7d' :: r => return (Value.setField key v fields, r)
        | _ => none
      | _ => none
    | _ => none
end

/-- The value of a document. Every value and every container takes a character at least. -/
def read (s : String) : Option Value :=
  match readValue (2 * s.length + 2) s.toList with
  | some (v, rest) => if (skipBlanks rest).isEmpty then some v else none
  | none => none

end Balancer.Json
