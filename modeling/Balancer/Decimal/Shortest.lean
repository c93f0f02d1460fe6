import Balancer.Decimal.Binary64

/-!
The decimal text of a binary number: the fewest digits that read back, and of those with as many
digits the nearest to the number.
-/

namespace Balancer.Decimal

/-- The power of ten of the leading digit of `n / d`, for `n` and `d` not zero. -/
def leadingPower (n d : Nat) : Int :=
  if d ≤ n then (Nat.toDigits 10 (n / d)).length - 1 else -(Nat.toDigits 10 (d / n)).length

/-- The neighbours of `n / d` among the multiples of `10 ^ power`, the nearer one first; of two
equally near the even one is first. -/
def neighbours (n d : Nat) (power : Int) : List Nat :=
  let n' := n * Nat.pow 10 (-power).toNat
  let d' := d * Nat.pow 10 power.toNat
  let lo := n' / d'
  match compare (2 * (n' % d')) d' with
  | .lt => [lo, lo + 1]
  | .gt => [lo + 1, lo]
  | .eq => if lo % 2 = 0 then [lo, lo + 1] else [lo + 1, lo]

/-- The digits without the zeros at their end, and the power that makes up for them. -/
def withoutZeros (digits : Nat) (power : Int) : List Char × Int :=
  let ds := (Nat.toDigits 10 digits).reverse
  let zeros := ds.takeWhile (· == '0')
  ((ds.drop zeros.length).reverse, power + zeros.length)

/-- The fewest digits, and the power of ten of the last of them, that read back as the positive
number with these fields. Seventeen digits always do. -/
def shortest (exponent : Fin 2047) (fraction : BitVec 52) : List Char × Int :=
  let (n, d) := Binary64.magnitude exponent fraction
  let top := leadingPower n d
  let hit := (List.range 17).findSome? fun (k : Nat) =>
    let power := top - k
    (neighbours n d power).findSome? fun digits =>
      if Binary64.ofDecimal false digits power = .finite false exponent fraction then
        some (withoutZeros digits power)
      else none
  hit.getD (['0'], 0)

/-- How a number is written: from which power of ten of the leading digit up to below which one it
needs no exponent, how many digits an exponent has at least, and the words for infinity and for
what is undefined. -/
structure Style where
  least : Int
  limit : Int
  exponentDigits : Nat
  infinity : String
  undefined : String

/-- Digits with a point after the first `places`; at least one digit stands on each side. -/
def positional (ds : List Char) (places : Int) : List Char :=
  if places ≤ 0 then '0' :: '.' :: (List.replicate (-places).toNat '0' ++ ds)
  else
    let whole := ds.take places.toNat
    let rest := ds.drop places.toNat
    whole ++ List.replicate (places.toNat - ds.length) '0' ++
      '.' :: (if rest.isEmpty then ['0'] else rest)

/-- One digit before the point and the others, if any, after it; then the power of ten. -/
def scientific (width : Nat) (ds : List Char) (power : Int) : List Char :=
  let fraction := ds.drop 1
  let digits := Nat.toDigits 10 power.natAbs
  ds.take 1 ++ (if fraction.isEmpty then [] else '.' :: fraction) ++ 'e' ::
    (if power < 0 then '-' else '+') ::
    (List.replicate (width - digits.length) '0' ++ digits)

/-- The text of a number without its sign. -/
def Style.unsigned (style : Style) : Binary64 → List Char
  | .infinite _ => style.infinity.toList
  | .undefined => style.undefined.toList
  | .finite s e f =>
    if (Binary64.finite s e f).isZero then positional ['0'] 1
    else
      let (ds, last) := shortest e f
      let top := last + ds.length - 1
      if style.least ≤ top ∧ top < style.limit then positional ds (top + 1)
      else scientific style.exponentDigits ds top

def isNegative : Binary64 → Bool
  | .infinite negative => negative
  | .finite negative _ _ => negative
  | .undefined => false

def Style.text (style : Style) (x : Binary64) : String :=
  .ofList (if isNegative x then '-' :: style.unsigned x else style.unsigned x)

end Balancer.Decimal
