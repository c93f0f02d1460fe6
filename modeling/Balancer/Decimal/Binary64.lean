/-!
Binary floating-point numbers of 64 bits, as fields and as exact fractions.

A finite number is held by its sign and its two fields, so each is a number of the format and each
number has one form. Comparing and truncating are exact; a decimal is read as the nearest number,
a half going to the even neighbour. What is undefined has no place in the order of the numbers.
-/

namespace Balancer

/-- A number of the format, or what is undefined; the exponent field 0 holds the subnormal ones. -/
inductive Binary64 where
  | finite (negative : Bool) (exponent : Fin 2047) (fraction : BitVec 52)
  | infinite (negative : Bool)
  | undefined
  deriving DecidableEq, Repr

namespace Binary64

/-- The integer `m` of a magnitude `m · 2 ^ q`. -/
def significand (exponent : Fin 2047) (fraction : BitVec 52) : Nat :=
  if exponent.val = 0 then fraction.toNat else Nat.pow 2 52 + fraction.toNat

/-- The power `q` of a magnitude `m · 2 ^ q`. -/
def scale (exponent : Fin 2047) : Int := max exponent.val 1 - 1075

/-- `m · 2 ^ q` as a fraction. -/
def fractionOf (m : Nat) (q : Int) : Nat × Nat := (m * Nat.pow 2 q.toNat, Nat.pow 2 (-q).toNat)

/-- The magnitude of a finite number as a fraction. -/
def magnitude (exponent : Fin 2047) (fraction : BitVec 52) : Nat × Nat :=
  fractionOf (significand exponent fraction) (scale exponent)

/-- A finite number as a fraction, its numerator signed. -/
def toFraction (negative : Bool) (exponent : Fin 2047) (fraction : BitVec 52) : Int × Nat :=
  let (n, d) := magnitude exponent fraction
  (if negative then -(n : Int) else n, d)

/-- The integer part: the fraction is cut off. Only finite numbers have one. -/
def truncate? : Binary64 → Option Int
  | .finite s e f => let (n, d) := toFraction s e f; some (n.tdiv d)
  | _ => none

def zero (negative : Bool) : Binary64 := .finite negative 0 0

def isZero : Binary64 → Bool
  | .finite _ e f => significand e f == 0
  | _ => false

/-- The order of a number and the fraction `n / d`. -/
def compareFraction? (x : Binary64) (n : Int) (d : Nat) : Option Ordering :=
  match x with
  | .finite s e f => let (a, b) := toFraction s e f; some (compare (a * d) (n * b))
  | .infinite negative => some (if negative then .lt else .gt)
  | .undefined => none

def compareInt? (x : Binary64) (n : Int) : Option Ordering := x.compareFraction? n 1

def compare? : Binary64 → Binary64 → Option Ordering
  | x, .finite s e f => let (n, d) := toFraction s e f; x.compareFraction? n d
  | .infinite negative, .infinite negative' => some (compare negative' negative)
  | .finite .., .infinite negative => some (if negative then .gt else .lt)
  | _, _ => none

/-- `n / d` rounded to an integer, a half to the even one. -/
def roundHalfEven (n d : Nat) : Nat :=
  let q := n / d
  match compare (2 * (n % d)) d with
  | .lt => q
  | .eq => q + q % 2
  | .gt => q + 1

/-- The number of magnitude `m · 2 ^ q`, where `m` has 53 bits, or fewer if `q` is -1074. -/
def assemble (negative : Bool) (m : Nat) (q : Int) : Binary64 :=
  if q > 971 then .infinite negative
  else if m < Nat.pow 2 52 then .finite negative 0 (.ofNat 52 m)
  else .finite negative (Fin.ofNat _ (q + 1075).toNat) (.ofNat 52 (m - Nat.pow 2 52))

/-- The number nearest to `n / d`, for `n` and `d` not zero. -/
def ofFraction (negative : Bool) (n d : Nat) : Binary64 :=
  let e : Int := n.log2 - d.log2
  let e := if d * Nat.pow 2 e.toNat ≤ n * Nat.pow 2 (-e).toNat then e else e - 1
  let q := max (e - 52) (-1074)
  let m := roundHalfEven (n * Nat.pow 2 (-q).toNat) (d * Nat.pow 2 q.toNat)
  if m = Nat.pow 2 53 then assemble negative (Nat.pow 2 52) (q + 1) else assemble negative m q

/-- The number nearest to `± digits · 10 ^ power`. Beyond 10 ^ 310 all is infinite and below
10 ^ -330 all is zero, so that no larger power has to be formed. -/
def ofDecimal (negative : Bool) (digits : Nat) (power : Int) : Binary64 :=
  let top := (Nat.toDigits 10 digits).length + power
  if digits = 0 || top < -330 then zero negative
  else if top > 311 then .infinite negative
  else ofFraction negative (digits * Nat.pow 10 power.toNat) (Nat.pow 10 (-power).toNat)

end Binary64

end Balancer
