import Balancer.Proofs.Grammar
import Mathlib.Data.Rat.Cast.Order
import Mathlib.Order.Compare
import Mathlib.Tactic.FieldSimp

/-!
Quantities as rational numbers, and what holds of every health check that was made.

A quantity is an integer or a number of a binary format, and the two are compared as they are. Main
statements: what is within bounds is a rational number within them (`isWithin_iff`), what is below
something is so as a number (`isBelow_iff`), and so a health check that passed its tests has the
numbers and the target that it should have (`IsMade.isSound`).
-/

namespace Balancer

lemma compare_eq_compare {α β : Type} [LinearOrder α] [LinearOrder β] {a b : α} {c d : β}
    (hlt : a < b ↔ c < d) (heq : a = b ↔ c = d) : compare a b = compare c d := by
  rcases lt_trichotomy a b with h | h | h
  · rw [compare_lt_iff_lt.mpr h, compare_lt_iff_lt.mpr (hlt.mp h)]
  · rw [compare_eq_iff_eq.mpr h, compare_eq_iff_eq.mpr (heq.mp h)]
  · have hle : d ≤ c := not_lt.mp (mt hlt.mpr h.not_gt)
    have hcd : d < c := lt_of_le_of_ne hle (Ne.symm (mt heq.mpr h.ne'))
    rw [compare_gt_iff_gt.mpr h, compare_gt_iff_gt.mpr hcd]

lemma compare_mul_eq {a n : Int} {b d : Nat} (hb : 0 < b) (hd : 0 < d) :
    compare (a * d) (n * b) = compare ((a : ℚ) / b) (n / d) := by
  have hb' : (0 : ℚ) < b := Nat.cast_pos.mpr hb
  have hd' : (0 : ℚ) < d := Nat.cast_pos.mpr hd
  apply compare_eq_compare
  · rw [div_lt_div_iff₀ hb' hd']
    exact_mod_cast Iff.rfl
  · rw [div_eq_div_iff hb'.ne' hd'.ne']
    exact_mod_cast Iff.rfl

namespace Binary64

lemma toFraction_snd_pos (s : Bool) (e : Fin 2047) (f : BitVec 52) : 0 < (toFraction s e f).2 :=
  Nat.pow_pos (by decide)

def rational? : Binary64 → Option ℚ
  | .finite s e f => some ((toFraction s e f).1 / (toFraction s e f).2)
  | _ => none

variable {x y : Binary64} {r : ℚ}

lemma compareFraction?_eq (hx : x.rational? = some r) (n : Int) {d : Nat} (hd : 0 < d) :
    x.compareFraction? n d = some (compare r (n / d)) := by
  cases x with
  | finite s e f =>
    cases hx
    exact congrArg some (compare_mul_eq (toFraction_snd_pos s e f) hd)
  | infinite s => cases hx
  | undefined => cases hx

lemma compareInt?_eq (hx : x.rational? = some r) (n : Int) :
    x.compareInt? n = some (compare r n) := by
  rw [compareInt?, compareFraction?_eq hx n one_pos, Nat.cast_one, div_one]

lemma compare?_eq {r' : ℚ} (hx : x.rational? = some r) (hy : y.rational? = some r') :
    x.compare? y = some (compare r r') := by
  cases y with
  | finite s e f =>
    cases hy
    rw [← compareFraction?_eq hx _ (toFraction_snd_pos s e f)]
    cases x <;> rfl
  | infinite s => cases hy
  | undefined => cases hy

end Binary64

namespace Quantity

def rational? : Quantity → Option ℚ
  | .whole n => some n
  | .real x => x.rational?

variable {p q : Quantity} {a b : ℚ}

lemma compareInt?_eq (hq : q.rational? = some a) (n : Int) :
    q.compareInt? n = some (compare a n) := by
  cases q with
  | whole m =>
    cases hq
    exact congrArg some (compare_eq_compare Int.cast_lt.symm Int.cast_inj.symm)
  | real x => exact Binary64.compareInt?_eq hq n

/-- **What is within bounds is a rational number within them.** -/
theorem isWithin_iff {lo hi : Int} :
    q.isWithin lo hi = true ↔ ∃ a : ℚ, q.rational? = some a ∧ lo ≤ a ∧ a ≤ hi := by
  rcases hq : q.rational? with _ | a
  · -- what is infinite lies beyond one of the bounds, what is undefined has no order
    cases q with
    | whole n => cases hq
    | real x =>
      cases x with
      | finite s e f => cases hq
      | infinite s =>
        cases s <;> simp [isWithin, compareInt?, Binary64.compareInt?, Binary64.compareFraction?]
      | undefined => simp [isWithin, compareInt?, Binary64.compareInt?, Binary64.compareFraction?]
  · simp only [isWithin, compareInt?_eq hq, Option.any_some, Bool.and_eq_true, Option.some.injEq,
      exists_eq_left', Ordering.isGE_iff_ne_lt, Ordering.isLE_iff_ne_gt, compare_lt_iff_lt,
      compare_gt_iff_gt, not_lt]

/-- **What is below something is so as a number.** -/
theorem isBelow_iff (hp : p.rational? = some a) (hq : q.rational? = some b) :
    p.isBelow q = true ↔ a < b := by
  have hcompare : p.toValue.compareNumbers? q.toValue = some (compare a b) := by
    cases p with
    | whole m =>
      cases hp
      cases q with
      | whole n =>
        cases hq
        exact congrArg some (compare_eq_compare Int.cast_lt.symm Int.cast_inj.symm)
      | real y =>
        simp only [toValue, Value.compareNumbers?, Value.compareWith?, Binary64.compareInt?_eq hq m,
          Option.map_some]
        exact congrArg some Std.OrientedCmp.eq_swap.symm
    | real x =>
      cases q with
      | whole n =>
        cases hq
        exact Binary64.compareInt?_eq hp n
      | real y => exact Binary64.compare?_eq hp hq
  rw [isBelow, hcompare, beq_iff_eq, Option.some.injEq, compare_lt_iff_lt]

lemma exists_rational_of_check {field reason : String} {lo hi : Int} {v : Value}
    (h : check field lo hi reason v = .ok q) : ∃ a : ℚ, q.rational? = some a ∧ lo ≤ a ∧ a ≤ hi := by
  rw [check] at h
  split at h
  · cases h
  · split at h
    · next hwithin =>
      cases h
      exact isWithin_iff.mp hwithin
    · cases h

end Quantity

namespace HealthCheck

/-- A health check that passed its tests, whatever it was made from. -/
def IsMade (h : HealthCheck) : Prop :=
  ∃ protocol path port interval timeout healthy unhealthy,
    ofParts protocol path port interval timeout healthy unhealthy = .ok h

def HasNumbers (h : HealthCheck) : Prop :=
  ∃ interval timeout healthy unhealthy : ℚ,
    h.interval.rational? = some interval ∧ h.timeout.rational? = some timeout ∧
    h.healthy.rational? = some healthy ∧ h.unhealthy.rational? = some unhealthy ∧
    (5 ≤ interval ∧ interval ≤ 300) ∧ (2 ≤ timeout ∧ timeout ≤ 60) ∧ timeout < interval ∧
    (2 ≤ healthy ∧ healthy ≤ 10) ∧ (2 ≤ unhealthy ∧ unhealthy ≤ 10)

/-- The numbers are within their bounds, and the target is protocol, colon, port and path: a path
from the root on where the protocol asks for one, and else none. -/
structure IsSound (h : HealthCheck) (path : String) : Prop where
  numbers : h.HasNumbers
  target : h.target = h.protocol.name ++ ":" ++ toString h.port.number ++ path
  root : h.protocol.hasPath = true → path.toList.head? = some '/'
  bare : h.protocol.hasPath = false → path = ""

variable {h : HealthCheck} {path : String}

lemma IsMade.hasNumbers (hmade : h.IsMade) : h.HasNumbers := by
  obtain ⟨_, _, _, _, _, _, _, hparts⟩ := hmade
  obtain ⟨-, -, -, hinterval, htimeout, hbelow, hhealthy, hunhealthy⟩ := ofParts_eq_ok_iff.mp hparts
  obtain ⟨i, hi, hi₁, hi₂⟩ := Quantity.exists_rational_of_check hinterval
  obtain ⟨t, ht, ht₁, ht₂⟩ := Quantity.exists_rational_of_check htimeout
  obtain ⟨a, ha, ha₁, ha₂⟩ := Quantity.exists_rational_of_check hhealthy
  obtain ⟨b, hb, hb₁, hb₂⟩ := Quantity.exists_rational_of_check hunhealthy
  have hlt : t < i := (Quantity.isBelow_iff ht hi).mp hbelow
  refine ⟨i, t, a, b, hi, ht, ha, hb, ?_⟩
  exact ⟨by exact_mod_cast And.intro hi₁ hi₂, by exact_mod_cast And.intro ht₁ ht₂, hlt,
    by exact_mod_cast And.intro ha₁ ha₂, by exact_mod_cast And.intro hb₁ hb₂⟩

lemma path_of_checkPath {p : Protocol} {v : Value} (h : checkPath p v = .ok (.text path)) :
    (p.hasPath = true → path.toList.head? = some '/') ∧ (p.hasPath = false → path = "") := by
  rcases hpath : p.hasPath with _ | _
  · refine ⟨by simp, fun _ => ?_⟩
    simp only [checkPath, hpath, Bool.false_eq_true, if_false, Except.ok.injEq] at h
    split at h
    · exact (Value.text.inj h).symm
    · next hgiven =>
      rw [h] at hgiven
      simpa [Value.isGiven] using hgiven
  · refine ⟨fun _ => ?_, by simp⟩
    simp only [checkPath, hpath, if_true] at h
    split at h
    · split at h
      · next hroot =>
        cases h
        exact hroot
      · cases h
    · cases h

/-- **A health check that passed its tests is sound**, if its path is a text. -/
theorem IsMade.isSound (hmade : h.IsMade) (hpath : h.path = .text path) : h.IsSound path := by
  have hnumbers := hmade.hasNumbers
  obtain ⟨_, _, _, _, _, _, _, hparts⟩ := hmade
  obtain ⟨-, -, hkept, -⟩ := ofParts_eq_ok_iff.mp hparts
  rw [hpath] at hkept
  obtain ⟨hroot, hbare⟩ := path_of_checkPath hkept
  exact ⟨hnumbers, by rw [target, hpath, Value.shown_text], hroot, hbare⟩

lemma isMade_standard : standard.IsMade :=
  ⟨.text "HTTP", .text "/", .int 6443, .int 30, .int 3, .int 2, .int 2, rfl⟩

end HealthCheck

end Balancer
