import Balancer.Operation.Plan
import Mathlib.Data.List.Basic

/-!
Writing: which values have a text, and what becomes of a refusal that shows one without.

A numeral has a limited number of digits. A longer integer has no text, and neither has a value that
it stands in. Main statements: these are the only values without a text (`quoted?_eq_none_iff`,
`shown?_eq_none_iff`), and a value that breaks a rule is refused as invalid unless it is one of them
(`refuses_breaking`).
-/

namespace Balancer

namespace Value

/-- A value of some kind stands somewhere in a value. -/
inductive Holds (p : Value → Prop) : Value → Prop
  | self {v : Value} (h : p v) : Holds p v
  | item {items : List Value} {v : Value} (hv : v ∈ items) (h : Holds p v) : Holds p (.list items)
  | field {fields : List (String × Value)} {key : String} {v : Value} (hv : (key, v) ∈ fields)
      (h : Holds p v) : Holds p (.record fields)

/-- An integer that has more digits than a numeral may have. -/
def IsLong (v : Value) : Prop :=
  ∃ n : Int, v = .int n ∧ Text.maxDigits < (Nat.toDigits 10 n.natAbs).length

section Holds

variable {p : Value → Prop}

lemma holds_list_iff {items : List Value} :
    (Value.list items).Holds p ↔ p (.list items) ∨ ∃ v ∈ items, v.Holds p := by
  constructor
  · rintro (h | ⟨hv, h⟩)
    · exact .inl h
    · exact .inr ⟨_, hv, h⟩
  · rintro (h | ⟨v, hv, h⟩)
    · exact .self h
    · exact .item hv h

lemma holds_record_iff {fields : List (String × Value)} :
    (Value.record fields).Holds p ↔ p (.record fields) ∨ ∃ f ∈ fields, f.2.Holds p := by
  constructor
  · rintro (h | _ | ⟨hv, h⟩)
    · exact .inl h
    · exact .inr ⟨_, hv, h⟩
  · rintro (h | ⟨f, hf, h⟩)
    · exact .self h
    · exact .field hf h

@[simp] lemma holds_null_iff : Value.null.Holds p ↔ p .null :=
  ⟨fun | .self h => h, .self⟩

@[simp] lemma holds_bool_iff {b : Bool} : (Value.bool b).Holds p ↔ p (.bool b) :=
  ⟨fun | .self h => h, .self⟩

@[simp] lemma holds_int_iff {n : Int} : (Value.int n).Holds p ↔ p (.int n) :=
  ⟨fun | .self h => h, .self⟩

@[simp] lemma holds_real_iff {x : Binary64} : (Value.real x).Holds p ↔ p (.real x) :=
  ⟨fun | .self h => h, .self⟩

@[simp] lemma holds_text_iff {s : String} : (Value.text s).Holds p ↔ p (.text s) :=
  ⟨fun | .self h => h, .self⟩

@[simp] lemma holds_moment_iff {t : Timestamp} : (Value.moment t).Holds p ↔ p (.moment t) :=
  ⟨fun | .self h => h, .self⟩

end Holds

lemma isLong_int_iff {n : Int} : (Value.int n).IsLong ↔ Text.integer? n = none := by
  simp [IsLong, Text.integer?]

mutual

/-- **Only a long integer has no text**, and what it stands in. -/
theorem quoted?_eq_none_iff : ∀ v : Value, v.quoted? = none ↔ v.Holds IsLong
  | .null => by simp [quoted?, IsLong]
  | .bool _ => by simp [quoted?, IsLong]
  | .int _ => by simp [quoted?, isLong_int_iff]
  | .real _ => by simp [quoted?, IsLong]
  | .text _ => by simp [quoted?, IsLong]
  | .moment _ => by simp [quoted?, IsLong]
  | .list items => by
    have hlong : ¬ (Value.list items).IsLong := by simp [IsLong]
    rw [holds_list_iff, or_iff_right hlong, ← quotedItems?_eq_none_iff items, quoted?]
    cases quotedItems? items <;> simp
  | .record fields => by
    have hlong : ¬ (Value.record fields).IsLong := by simp [IsLong]
    rw [holds_record_iff, or_iff_right hlong, ← quotedFields?_eq_none_iff fields, quoted?]
    cases quotedFields? fields <;> simp

lemma quotedItems?_eq_none_iff : ∀ items : List Value,
    quotedItems? items = none ↔ ∃ v ∈ items, v.Holds IsLong
  | [] => by simp [quotedItems?]
  | v :: r => by
    rw [List.exists_mem_cons_iff, ← quoted?_eq_none_iff v, ← quotedItems?_eq_none_iff r,
      quotedItems?]
    cases v.quoted? <;> cases quotedItems? r <;> simp

lemma quotedFields?_eq_none_iff : ∀ fields : List (String × Value),
    quotedFields? fields = none ↔ ∃ f ∈ fields, f.2.Holds IsLong
  | [] => by simp [quotedFields?]
  | (k, v) :: r => by
    rw [List.exists_mem_cons_iff, ← quoted?_eq_none_iff v, ← quotedFields?_eq_none_iff r,
      quotedFields?]
    cases v.quoted? <;> cases quotedFields? r <;> simp

end

lemma shown?_eq_none_iff {v : Value} : v.shown? = none ↔ v.Holds IsLong := by
  cases v with
  | text s => simp [shown?, IsLong]
  | moment t => simp [shown?, IsLong]
  | _ => rw [← quoted?_eq_none_iff]; rfl

lemma isSome_shown?_iff {v : Value} : v.shown?.isSome ↔ ¬ v.Holds IsLong := by
  rw [← shown?_eq_none_iff, Option.isSome_iff_ne_none]

lemma written_eq_ok_iff {v : Value} : (∃ s, v.written = .ok s) ↔ ¬ v.Holds IsLong := by
  rw [← isSome_shown?_iff, written]
  cases v.shown? <;> simp

lemma isGiven_of_holds_isLong {v : Value} (h : v.Holds IsLong) : v.isGiven = true := by
  cases v with
  | int n =>
    rw [holds_int_iff, isLong_int_iff] at h
    have hzero : n ≠ 0 := by
      rintro rfl
      cases h
    simpa [isGiven] using hzero
  | list items =>
    cases items with
    | nil => simp [holds_list_iff, IsLong] at h
    | cons => rfl
  | record fields =>
    cases fields with
    | nil => simp [holds_record_iff, IsLong] at h
    | cons => rfl
  | _ => simp [IsLong] at h

lemma lt_length_toDigits_pow {k : Nat} (hk : 0 < k) :
    k < (Nat.toDigits 10 (Nat.pow 10 k)).length := by
  refine Nat.lt_of_not_le fun h => ?_
  rw [Nat.length_toDigits_le_iff (by decide) hk] at h
  exact Nat.lt_irrefl _ h

lemma not_isLong_of_natAbs_le {n : Int} (h : n.natAbs ≤ 65535) : ¬ (Value.int n).IsLong := by
  rintro ⟨m, ⟨⟩, hm⟩
  have hfive : (Nat.toDigits 10 n.natAbs).length ≤ 5 :=
    (Nat.length_toDigits_le_iff (by decide) (by decide)).mpr (by omega)
  exact absurd (Nat.lt_of_lt_of_le hm hfive) (by decide)

lemma not_isLong_port (p : Port) : ¬ p.toValue.IsLong :=
  not_isLong_of_natAbs_le p.le_max

def leastLong : Int := Nat.pow 10 Text.maxDigits

lemma isLong_leastLong : (Value.int leastLong).IsLong := by
  refine ⟨leastLong, rfl, ?_⟩
  rw [leastLong, Int.natAbs_natCast]
  exact lt_length_toDigits_pow (by decide)

end Value

namespace Rejection

def IsInvalid (e : Rejection) : Prop :=
  ∃ field value reason isWritten, e = .invalid field value reason isWritten

/-- How a value that breaks a rule is refused: as invalid, or because it cannot be written. -/
structure Refuses (e : Rejection) (v : Value) : Prop where
  invalid : ¬ v.Holds Value.IsLong → e.IsInvalid
  unwritten : v.Holds Value.IsLong → e = .unwritten

lemma not_isInvalid_unwritten : ¬ unwritten.IsInvalid := by
  rintro ⟨_, _, _, _, ⟨⟩⟩

lemma refuses_ofParts {field v reason : Value} (hfield : field.shown?.isSome)
    (hreason : reason.shown?.isSome) : (ofParts field v reason).Refuses v := by
  rw [ofParts]
  constructor
  · intro hv
    rw [← Value.quoted?_eq_none_iff, ← ne_eq, ← Option.isSome_iff_ne_none] at hv
    rw [dif_pos ⟨hfield, hv, hreason⟩]
    exact ⟨_, _, _, _, rfl⟩
  · intro hv
    rw [← Value.quoted?_eq_none_iff] at hv
    rw [dif_neg fun h => by simp [hv] at h]

lemma refuses_breaking (field : String) (v : Value) (reason : String) :
    (breaking field v reason).Refuses v :=
  refuses_ofParts rfl rfl

lemma isInvalid_breaking_text (field s reason : String) :
    (breaking field (.text s) reason).IsInvalid :=
  (refuses_breaking field _ reason).invalid (by simp [Value.IsLong])

end Rejection

/-! ### Failures -/

namespace ServiceFault

variable {g : ServiceFault} {v : Value}

lemma not_holds_code (h : g.code = some v) : ¬ v.Holds Value.IsLong := by
  have hall := g.isWritten
  simp only [h, List.all_cons, Option.all_some, Bool.and_eq_true] at hall
  exact Value.isSome_shown?_iff.mp hall.1

lemma not_holds_message (h : g.message = some v) : ¬ v.Holds Value.IsLong := by
  have hall := g.isWritten
  simp only [h, List.all_cons, Option.all_some, Bool.and_eq_true] at hall
  exact Value.isSome_shown?_iff.mp hall.2.1

end ServiceFault

namespace ServiceFailure

lemma isSome_text?_iff {e : ServiceFailure} : e.text?.isSome ↔
    ¬ e.operation.Holds Value.IsLong ∧ ¬ e.code.Holds Value.IsLong ∧
      ¬ e.message.Holds Value.IsLong ∧ ¬ e.balancer.Holds Value.IsLong := by
  simp only [← Value.isSome_shown?_iff]
  rw [text?]
  cases e.operation.shown? <;> cases e.code.shown? <;> cases e.message.shown? <;> try simp
  split
  · cases e.balancer.shown? <;> simp
  · next hgiven =>
    have hbalancer : ¬ e.balancer.Holds Value.IsLong :=
      fun hlong => hgiven (Value.isGiven_of_holds_isLong hlong)
    simpa using Value.isSome_shown?_iff.mpr hbalancer

lemma isSome_text?_ofError_iff {operation balancer : Value} {f : RemoteFault} :
    (ofError operation balancer (.fault f)).text?.isSome ↔
      ¬ operation.Holds Value.IsLong ∧ ¬ balancer.Holds Value.IsLong := by
  have htext : ∀ s, ¬ (Value.text s).Holds Value.IsLong := by simp [Value.IsLong]
  rw [isSome_text?_iff]
  cases f with
  | transport t => exact ⟨fun h => ⟨h.1, h.2.2.2⟩, fun h => ⟨h.1, htext _, htext _, h.2⟩⟩
  | service g =>
    have hcode : ¬ (g.code.getD (.text "Unknown")).Holds Value.IsLong := by
      rcases h : g.code with _ | v
      · exact htext _
      · exact ServiceFault.not_holds_code h
    have hmessage : ¬ (g.message.getD (.text g.text)).Holds Value.IsLong := by
      rcases h : g.message with _ | v
      · exact htext _
      · exact ServiceFault.not_holds_message h
    exact ⟨fun h => ⟨h.1, h.2.2.2⟩, fun h => ⟨h.1, hcode, hmessage, h.2⟩⟩

end ServiceFailure

namespace Failure

lemma isSome_aside_iff {front : String} {v : Value} :
    (aside front v).isSome ↔ ¬ v.Holds Value.IsLong := by
  rw [← Value.isSome_shown?_iff, aside]
  split
  · cases v.shown? <;> simp
  · next h =>
    have hv : ¬ v.Holds Value.IsLong := fun hlong => h (Value.isGiven_of_holds_isLong hlong)
    simpa using Value.isSome_shown?_iff.mpr hv

lemma isSome_text?_healthCheck {n reason : String} {code dnsName : Value} :
    (text? (.healthCheck (.text n) (.text reason) code dnsName)).isSome ↔
      ¬ dnsName.Holds Value.IsLong := by
  rw [← @isSome_aside_iff "load balancer exists at ", text?]
  cases aside "load balancer exists at " dnsName <;> simp

end Failure

namespace Plan

variable {q : Request} {f : RemoteFault} {dnsName : Value}

lemma unchecked_of_not_holds (h : ¬ dnsName.Holds Value.IsLong) :
    unchecked q f dnsName = ⟨.healthCheck (.text q.balancer) (.text (f.code ++ ": " ++ f.message))
      (.text f.code) dnsName, some (.service (report q f))⟩ := by
  rw [unchecked, Raised.ofFailure, Failure.checked,
    if_pos (Failure.isSome_text?_healthCheck.mpr h)]

lemma unchecked_of_holds (h : dnsName.Holds Value.IsLong) :
    unchecked q f dnsName = .bare (.rejected .unwritten) := by
  rw [unchecked, Raised.ofFailure, Failure.checked,
    if_neg fun hsome => Failure.isSome_text?_healthCheck.mp hsome h]

lemma unchecked_text (d : String) :
    unchecked q f (.text d) = ⟨.healthCheck (.text q.balancer)
      (.text (f.code ++ ": " ++ f.message)) (.text f.code) (.text d),
      some (.service (report q f))⟩ :=
  unchecked_of_not_holds (by simp [Value.IsLong])

end Plan

end Balancer
