/-!
Integer numerals, and the blanks and digits that texts are made of.

A numeral is written in decimal digits of ASCII. One that is read has blanks, at most one sign,
decimal digits of any script with single low lines between them, and blanks.
-/

namespace Balancer.Text

/-- White space as the Unicode standard has it, and the four information separators. -/
def isBlank (c : Char) : Bool :=
  let n := c.toNat
  (0x09 ≤ n && n ≤ 0x0D) || (0x1C ≤ n && n ≤ 0x20) || n == 0x85 || n == 0xA0 || n == 0x1680 ||
    (0x2000 ≤ n && n ≤ 0x200A) || n == 0x2028 || n == 0x2029 || n == 0x202F || n == 0x205F ||
    n == 0x3000

/-- The text without what `drop` holds of at its two ends. -/
def trimBy (drop : Char → Bool) (s : List Char) : List Char :=
  ((s.dropWhile drop).reverse.dropWhile drop).reverse

/-- The text without the blanks at its two ends. -/
def trim (s : String) : String := .ofList (trimBy isBlank s.toList)

/-! Digits of all scripts (version 14 of the Unicode standard): the decimal ones, which a numeral is
written with, and the wider class that also holds digits in circles, brackets and exponents. -/

/-- The zeros of the scripts; a script's ten digits stand in a row. -/
def zeros : List Nat :=
  [0x30, 0x660, 0x6F0, 0x7C0, 0x966, 0x9E6, 0xA66, 0xAE6, 0xB66, 0xBE6, 0xC66, 0xCE6, 0xD66, 0xDE6,
    0xE50, 0xED0, 0xF20, 0x1040, 0x1090, 0x17E0, 0x1810, 0x1946, 0x19D0, 0x1A80, 0x1A90, 0x1B50,
    0x1BB0, 0x1C40, 0x1C50, 0xA620, 0xA8D0, 0xA900, 0xA9D0, 0xA9F0, 0xAA50, 0xABF0, 0xFF10, 0x104A0,
    0x10D30, 0x11066, 0x110F0, 0x11136, 0x111D0, 0x112F0, 0x11450, 0x114D0, 0x11650, 0x116C0,
    0x11730, 0x118E0, 0x11950, 0x11C50, 0x11D50, 0x11DA0, 0x16A60, 0x16AC0, 0x16B50, 0x1D7CE,
    0x1D7D8, 0x1D7E2, 0x1D7EC, 0x1D7F6, 0x1E140, 0x1E2F0, 0x1E950, 0x1FBF0]

/-- The value of a decimal digit. -/
def decimalDigit? (c : Char) : Option Nat :=
  (zeros.find? fun z => z ≤ c.toNat && c.toNat < z + 10).map fun z => c.toNat - z

/-- Digits that are not written in a decimal numeral, as closed ranges. -/
def ornateDigits : List (Nat × Nat) :=
  [(0xB2, 0xB3), (0xB9, 0xB9), (0x1369, 0x1371), (0x19DA, 0x19DA), (0x2070, 0x2070),
    (0x2074, 0x2079), (0x2080, 0x2089), (0x2460, 0x2468), (0x2474, 0x247C), (0x2488, 0x2490),
    (0x24EA, 0x24EA), (0x24F5, 0x24FD), (0x24FF, 0x24FF), (0x2776, 0x277E), (0x2780, 0x2788),
    (0x278A, 0x2792), (0x10A40, 0x10A43), (0x10E60, 0x10E68), (0x11052, 0x1105A),
    (0x1F100, 0x1F10A)]

def isDigit (c : Char) : Bool :=
  (decimalDigit? c).isSome || ornateDigits.any fun (lo, hi) => lo ≤ c.toNat && c.toNat ≤ hi

theorem decimalDigit?_lt {c : Char} {d : Nat} (h : decimalDigit? c = some d) : d < 10 := by
  simp only [decimalDigit?, Option.map_eq_some_iff] at h
  obtain ⟨z, hz, rfl⟩ := h
  have := List.find?_some hz
  simp only [Bool.and_eq_true, decide_eq_true_eq] at this
  omega

theorem isDigit_of_decimalDigit? {c : Char} {d : Nat} (h : decimalDigit? c = some d) :
    isDigit c := by
  simp [isDigit, h]

/-! Numerals. -/

/-- Why a text is no integer numeral. -/
inductive NumeralError where
  | malformed
  | tooLong (digits : Nat)
  deriving DecidableEq, Repr

/-- The most digits a numeral may have, read or written. -/
def maxDigits : Nat := 4300

/-- The numeral of an integer, if it does not have too many digits. A sign is no digit. -/
def integer? (n : Int) : Option String :=
  if (Nat.toDigits 10 n.natAbs).length ≤ maxDigits then some (toString n) else none

/-- Blanks around a numeral; the information separators are none. -/
def isMargin (c : Char) : Bool := isBlank c && !(0x1C ≤ c.toNat && c.toNat ≤ 0x1F)

/-- Digits with single low lines between them. -/
def isGrouped : List Char → Bool
  | [] => false
  | [c] => c != '_'
  | c :: d :: r => c != '_' && (if d = '_' then isGrouped r else isGrouped (d :: r))

/-- The value of a run of digits; what is no digit is passed over. -/
def digitsValue (s : List Char) : Nat :=
  (s.filterMap decimalDigit?).foldl (fun n d => 10 * n + d) 0

/-- The sign of a numeral, and what follows it. -/
def signed : List Char → Bool × List Char
  | '-' :: r => (true, r)
  | '+' :: r => (false, r)
  | r => (false, r)

/-- The integer that a numeral stands for. A run that is well grouped and too long is refused as
too long, whatever follows it. -/
def readInteger (s : String) : Except NumeralError Int :=
  let (negative, body) := signed (s.toList.dropWhile isMargin)
  let inRun := fun c => (decimalDigit? c).isSome || c == '_'
  let run := body.takeWhile inRun
  let digits := run.filter (· != '_')
  if !isGrouped run then .error .malformed
  else if digits.length > maxDigits then .error (.tooLong digits.length)
  else if !(body.dropWhile inRun).all isMargin then .error .malformed
  else .ok (if negative then -(digitsValue digits : Int) else digitsValue digits)

end Balancer.Text
