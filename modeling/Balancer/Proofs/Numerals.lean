import Balancer.Text.Numeral
import Mathlib.Algebra.Group.Nat.Defs
import Mathlib.Data.List.TakeWhile
import Mathlib.Tactic.Common

/-!
Numerals: which runs of digits are read as numbers.

A digit is one of a wide class, of which only the decimal ones, of any script, make up a numeral.
Main statement: a run of digits is read exactly if all of them are decimal and they are not too many
(`readInteger_eq_ok_iff`). What is written in digits of ASCII has its usual value
(`digitsValue_of_all`).
-/

namespace Balancer.Text

/-! ### Digits -/

lemma decimalDigit?_of_isDigit {c : Char} (h : c.isDigit) :
    decimalDigit? c = some (c.toNat - 48) := by
  have hrange : 48 ≤ c.toNat ∧ c.toNat ≤ 57 := by
    simpa [Char.isDigit, UInt32.le_iff_toNat_le] using h
  have hfirst : zeros.find? (fun z => z ≤ c.toNat && c.toNat < z + 10) = some 48 := by
    have hzero : zeros = 48 :: zeros.tail := rfl
    rw [hzero, List.find?_cons_of_pos]
    simp only [Bool.and_eq_true, decide_eq_true_eq]
    omega
  rw [decimalDigit?, hfirst]
  rfl

lemma isDigit_of_ascii {c : Char} (h : c.isDigit) : isDigit c = true :=
  isDigit_of_decimalDigit? (decimalDigit?_of_isDigit h)

/-- No digit stands where blanks do: this is where the ranges of digits lie between those of blanks.
-/
def IsBetweenBlanks (lo hi : Nat) : Prop :=
  (0x20 < lo ∧ hi < 0x85) ∨ (0xA0 < lo ∧ hi < 0x1680) ∨ (0x1680 < lo ∧ hi < 0x2000) ∨
    (0x205F < lo ∧ hi < 0x3000) ∨ 0x3000 < lo

instance (lo hi : Nat) : Decidable (IsBetweenBlanks lo hi) :=
  inferInstanceAs (Decidable (_ ∨ _))

lemma isBetweenBlanks_of_isDigit {c : Char} (h : isDigit c = true) :
    ∃ lo hi, lo ≤ c.toNat ∧ c.toNat ≤ hi ∧ IsBetweenBlanks lo hi := by
  have hzeros : ∀ z ∈ zeros, IsBetweenBlanks z (z + 9) := by decide
  have hornate : ∀ p ∈ ornateDigits, IsBetweenBlanks p.1 p.2 := by decide
  rw [isDigit, Bool.or_eq_true, List.any_eq_true] at h
  rcases h with h | ⟨⟨lo, hi⟩, hmem, hrange⟩
  · rw [decimalDigit?, Option.isSome_map] at h
    obtain ⟨z, hz⟩ := Option.isSome_iff_exists.mp h
    have hrange := List.find?_some hz
    simp only [Bool.and_eq_true, decide_eq_true_eq] at hrange
    exact ⟨z, z + 9, hrange.1, by omega, hzeros z (List.mem_of_find?_eq_some hz)⟩
  · simp only [Bool.and_eq_true, decide_eq_true_eq] at hrange
    exact ⟨lo, hi, hrange.1, hrange.2, hornate _ hmem⟩

lemma isMargin_of_isDigit {c : Char} (h : isDigit c = true) : isMargin c = false := by
  obtain ⟨lo, hi, hlo, hhi, hbetween⟩ := isBetweenBlanks_of_isDigit h
  simp only [IsBetweenBlanks] at hbetween
  simp only [isMargin, isBlank, Bool.and_eq_false_iff, Bool.or_eq_false_iff,
    decide_eq_false_iff_not, beq_eq_false_iff_ne]
  omega

lemma ne_of_isDigit {c e : Char} (h : isDigit c = true) (he : isDigit e = false) : c ≠ e := by
  rintro rfl
  rw [h] at he
  cases he

lemma signed_of_isDigit {c : Char} {r : List Char} (h : isDigit c = true) :
    signed (c :: r) = (false, c :: r) := by
  have hminus : c ≠ '-' := ne_of_isDigit h (by decide)
  have hplus : c ≠ '+' := ne_of_isDigit h (by decide)
  unfold signed
  split
  · next heq => exact absurd (List.cons.inj heq).1 hminus
  · next heq => exact absurd (List.cons.inj heq).1 hplus
  · rfl

/-! ### Runs of digits -/

lemma digitsValue_of_all {s : List Char} (h : ∀ c ∈ s, c.isDigit) :
    digitsValue s = Nat.ofDigitChars 10 s 0 := by
  have hfold : ∀ (s : List Char) (n : Nat), (∀ c ∈ s, c.isDigit) →
      (s.filterMap decimalDigit?).foldl (fun n d => 10 * n + d) n = Nat.ofDigitChars 10 s n := by
    intro s
    induction s with
    | nil => intro n _; simp
    | cons c r ih =>
      intro n h
      rw [List.filterMap_cons_some (decimalDigit?_of_isDigit (h c List.mem_cons_self)),
        List.foldl_cons, ih _ fun d hd => h d (List.mem_cons_of_mem _ hd), Nat.ofDigitChars_cons]
      rfl
  exact hfold s 0 h

lemma isGrouped_of_all {s : List Char} (hne : s ≠ []) (h : ∀ c ∈ s, c ≠ '_') :
    isGrouped s = true := by
  induction s using isGrouped.induct with
  | case1 => exact absurd rfl hne
  | case2 c => simpa [isGrouped] using h c
  | case3 c d r _ ih =>
    have hd : d ≠ '_' := h d (by simp)
    rw [isGrouped, if_neg hd, ih (by simp) fun e he => h e (List.mem_cons_of_mem _ he)]
    simpa using h c

/-- A run of decimal digits that is not too long. -/
structure IsNumeral (d : List Char) : Prop where
  digits : ∀ c ∈ d, (decimalDigit? c).isSome = true
  length : d.length ≤ maxDigits

lemma isNumeral_of_all {d : List Char} (h : ∀ c ∈ d, c.isDigit) (hlength : d.length ≤ maxDigits) :
    IsNumeral d :=
  ⟨fun c hc => by rw [decimalDigit?_of_isDigit (h c hc)]; rfl, hlength⟩

lemma digitsValue_lt (s : List Char) : digitsValue s < 10 ^ s.length := by
  have hfold : ∀ (s : List Char) (n : Nat),
      (s.filterMap decimalDigit?).foldl (fun n d => 10 * n + d) n < (n + 1) * 10 ^ s.length := by
    intro s
    induction s with
    | nil => simp
    | cons c s ih =>
      intro n
      rw [List.length_cons, Nat.pow_succ']
      rcases hdigit : decimalDigit? c with _ | d
      · rw [List.filterMap_cons_none hdigit, ← Nat.mul_assoc]
        exact Nat.lt_of_lt_of_le (ih n) (Nat.mul_le_mul_right _ (by omega))
      · rw [List.filterMap_cons_some hdigit, List.foldl_cons]
        have hd := decimalDigit?_lt hdigit
        rw [← Nat.mul_assoc]
        exact Nat.lt_of_lt_of_le (ih (10 * n + d)) (Nat.mul_le_mul_right _ (by omega))
  simpa [digitsValue] using hfold s 0

lemma IsNumeral.length_toDigits_le {d : List Char} (h : IsNumeral d) :
    (Nat.toDigits 10 (digitsValue d)).length ≤ maxDigits :=
  (Nat.length_toDigits_le_iff (by decide) (by decide)).mpr
    (Nat.lt_of_lt_of_le (digitsValue_lt d) (Nat.pow_le_pow_right (by decide) h.length))

section Run

variable {d : List Char} (hne : d ≠ []) (hd : ∀ c ∈ d, isDigit c = true)

include hne hd

lemma signed_dropWhile_isMargin : signed (d.dropWhile isMargin) = (false, d) := by
  obtain ⟨c, r, rfl⟩ := List.exists_cons_of_ne_nil hne
  have hc : isDigit c = true := hd c List.mem_cons_self
  rw [List.dropWhile_cons_of_neg (by simp [isMargin_of_isDigit hc]), signed_of_isDigit hc]

lemma readInteger_of_decimal (hall : ∀ c ∈ d, (decimalDigit? c).isSome = true) :
    readInteger (.ofList d) = if d.length > maxDigits then .error (.tooLong d.length)
      else .ok (digitsValue d : Nat) := by
  have hline : ∀ c ∈ d, c ≠ '_' := fun c hc => ne_of_isDigit (hd c hc) (by decide)
  have hrun : ∀ c ∈ d, ((decimalDigit? c).isSome || c == '_') = true := fun c hc => by
    rw [hall c hc]
    rfl
  have hfilter : d.filter (· != '_') = d := by
    rw [List.filter_eq_self]
    intro c hc
    simpa using hline c hc
  simp only [readInteger, String.toList_ofList, signed_dropWhile_isMargin hne hd,
    List.takeWhile_eq_self_iff.mpr hrun, List.dropWhile_eq_nil_iff.mpr hrun, hfilter,
    isGrouped_of_all hne hline]
  rfl

/-- Where digits stop to be decimal stands none that may follow a numeral. -/
lemma readInteger_of_not_decimal (hnot : ¬ ∀ c ∈ d, (decimalDigit? c).isSome = true) (n : Int) :
    readInteger (.ofList d) ≠ .ok n := by
  have hmargin :
      (d.dropWhile fun c => (decimalDigit? c).isSome || c == '_').all isMargin = false := by
    rcases hdrop : d.dropWhile (fun c => (decimalDigit? c).isSome || c == '_') with _ | ⟨c, r⟩
    · refine absurd (fun c hc => ?_) hnot
      have hrun := List.dropWhile_eq_nil_iff.mp hdrop c hc
      rw [Bool.or_eq_true, beq_iff_eq] at hrun
      exact hrun.resolve_right (ne_of_isDigit (hd c hc) (by decide))
    · have hmem : c ∈ d := (List.dropWhile_suffix _).subset (hdrop ▸ List.mem_cons_self)
      rw [List.all_cons, isMargin_of_isDigit (hd c hmem), Bool.false_and]
  simp only [readInteger, String.toList_ofList, signed_dropWhile_isMargin hne hd, hmargin]
  split_ifs <;> simp_all

/-- **A run of digits is read exactly if it is a numeral.** -/
theorem readInteger_eq_ok_iff {n : Int} :
    readInteger (.ofList d) = .ok n ↔ IsNumeral d ∧ n = (digitsValue d : Nat) := by
  by_cases hall : ∀ c ∈ d, (decimalDigit? c).isSome = true
  · rw [readInteger_of_decimal hne hd hall]
    split_ifs with hlong
    · simp only [false_iff]
      exact fun h => absurd h.1.length (by omega)
    · simp only [Except.ok.injEq]
      exact ⟨fun h => ⟨⟨hall, by omega⟩, h.symm⟩, fun h => h.2.symm⟩
  · exact ⟨fun h => absurd h (readInteger_of_not_decimal hne hd hall n),
      fun h => absurd h.1.digits hall⟩

end Run

lemma readInteger_toDigits {n : Nat} (h : (Nat.toDigits 10 n).length ≤ maxDigits) :
    readInteger (.ofList (Nat.toDigits 10 n)) = .ok n := by
  have hdigits : ∀ c ∈ Nat.toDigits 10 n, c.isDigit := fun c hc =>
    Nat.isDigit_of_mem_toDigits (by omega) (by omega) hc
  have hvalue : digitsValue (Nat.toDigits 10 n) = n := by
    rw [digitsValue_of_all hdigits, Nat.ofDigitChars_ten_toDigits]
  rw [readInteger_eq_ok_iff Nat.toDigits_ne_nil fun c hc => isDigit_of_ascii (hdigits c hc), hvalue]
  exact ⟨isNumeral_of_all hdigits h, rfl⟩

end Balancer.Text
