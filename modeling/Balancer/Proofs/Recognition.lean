import Balancer.Operation.Plan
import Mathlib.Tactic.Common

/-!
Recognised faults: which faults have a meaning, said of the code in the service's own report, and
what is reported of the others.

A code is looked up by its text. The text of a value that is no text begins with none of the
letters that a known code begins with, so only a text is ever recognised.
-/

namespace Balancer

/-! ### How the text of a value begins -/

namespace Decimal

lemma isDigit_withoutZeros {n : Nat} {p : Int} {c : Char} (h : c ∈ (withoutZeros n p).1) :
    c.isDigit := by
  simp only [withoutZeros, List.mem_reverse] at h
  have hmem := List.mem_reverse.mp (List.mem_of_mem_drop h)
  exact Nat.isDigit_of_mem_toDigits (by omega) (by omega) hmem

lemma isDigit_shortest {e : Fin 2047} {f : BitVec 52} {c : Char} (h : c ∈ (shortest e f).1) :
    c.isDigit := by
  unfold shortest at h
  simp only at h
  rcases hhit : (List.range 17).findSome? _ with _ | ds
  · rw [hhit] at h
    simp only [Option.getD_none, List.mem_singleton] at h
    subst h
    rfl
  · rw [hhit, Option.getD_some] at h
    obtain ⟨k, -, hk⟩ := List.exists_of_findSome?_eq_some hhit
    obtain ⟨m, -, hm⟩ := List.exists_of_findSome?_eq_some hk
    split at hm
    · obtain rfl := Option.some.inj hm
      exact isDigit_withoutZeros h
    · cases hm

lemma mem_positional {ds : List Char} {places : Int} {c : Char} (h : c ∈ positional ds places) :
    c ∈ ds ∨ c = '0' ∨ c = '.' := by
  unfold positional at h
  split at h
  · simp only [List.mem_cons, List.mem_append, List.mem_replicate] at h
    tauto
  · simp only [List.mem_cons, List.mem_append, List.mem_replicate] at h
    rcases h with (h | h) | h | h
    · exact .inl (List.mem_of_mem_take h)
    · exact .inr (.inl h.2)
    · exact .inr (.inr h)
    · split at h
      · simp only [List.mem_singleton] at h
        exact .inr (.inl h)
      · exact .inl (List.mem_of_mem_drop h)

lemma mem_scientific {w : Nat} {ds : List Char} {power : Int} {c : Char}
    (h : c ∈ scientific w ds power) : c ∈ ds ∨ c.isDigit ∨ c ∈ ['.', 'e', '-', '+'] := by
  simp only [scientific, List.mem_append, List.mem_cons, List.mem_replicate] at h
  rcases h with (h | h) | h | h | h | h
  · exact .inl (List.mem_of_mem_take h)
  · split at h
    · simp at h
    · rcases List.mem_cons.mp h with rfl | h
      · simp
      · exact .inl (List.mem_of_mem_drop h)
  · simp [h]
  · split at h <;> simp [h]
  · simp [h.2]
  · exact .inr (.inl (Nat.isDigit_of_mem_toDigits (by omega) (by omega) h))

end Decimal

lemma not_isUpper_of_isDigit {c : Char} (h : c.isDigit) : c.isUpper = false := by
  have hupper : c.isUpper = decide (c.val ≥ 'A'.val ∧ c.val ≤ 'Z'.val) := rfl
  simp only [Char.isDigit, Bool.and_eq_true, decide_eq_true_eq, UInt32.le_iff_toNat_le, ge_iff_le]
    at h
  rw [hupper, decide_eq_false_iff_not]
  simp only [UInt32.le_iff_toNat_le, ge_iff_le]
  have h9 : '9'.val.toNat = 57 := rfl
  have hA : 'A'.val.toNat = 65 := rfl
  omega

def numberSigns : List Char := ['0', '.', 'e', '-', '+', 'i', 'n', 'f', 'a']

lemma not_isUpper_of_mem_numberSigns {c : Char} (h : c ∈ numberSigns) : c.isUpper = false := by
  have hall : (numberSigns.all fun d => !d.isUpper) = true := rfl
  simpa using List.all_eq_true.mp hall c h

lemma not_isUpper_of_mem_unsigned {x : Binary64} {c : Char} (h : c ∈ numberStyle.unsigned x) :
    c.isUpper = false := by
  have hinf : ['i', 'n', 'f'] ⊆ numberSigns := by decide
  have hnan : ['n', 'a', 'n'] ⊆ numberSigns := by decide
  have hpower : ['.', 'e', '-', '+'] ⊆ numberSigns := by decide
  cases x with
  | infinite s => exact not_isUpper_of_mem_numberSigns (hinf h)
  | undefined => exact not_isUpper_of_mem_numberSigns (hnan h)
  | finite s e f =>
    simp only [Decimal.Style.unsigned] at h
    split at h
    · rcases Decimal.mem_positional h with h | rfl | rfl
      · obtain rfl := List.mem_singleton.mp h
        rfl
      · rfl
      · rfl
    · split at h
      · rcases Decimal.mem_positional h with h | rfl | rfl
        · exact not_isUpper_of_isDigit (Decimal.isDigit_shortest h)
        · rfl
        · rfl
      · rcases Decimal.mem_scientific h with h | h | h
        · exact not_isUpper_of_isDigit (Decimal.isDigit_shortest h)
        · exact not_isUpper_of_isDigit h
        · exact not_isUpper_of_mem_numberSigns (hpower h)

lemma not_isUpper_of_mem_text {x : Binary64} {c : Char} (h : c ∈ (numberStyle.text x).toList) :
    c.isUpper = false := by
  simp only [Decimal.Style.text, String.toList_ofList] at h
  split at h
  · rcases List.mem_cons.mp h with rfl | h
    · rfl
    · exact not_isUpper_of_mem_unsigned h
  · exact not_isUpper_of_mem_unsigned h

lemma isDigit_of_mem_padded {w n : Nat} {c : Char} (h : c ∈ (Timestamp.padded w n).toList) :
    c.isDigit := by
  simp only [Timestamp.padded, String.toList_ofList, List.mem_append, List.mem_replicate] at h
  rcases h with h | h
  · rw [h.2]; rfl
  · exact Nat.isDigit_of_mem_toDigits (by omega) (by omega) h

lemma padded_ne_nil (w n : Nat) : (Timestamp.padded w n).toList ≠ [] := by
  simp [Timestamp.padded, String.toList_ofList, Nat.toDigits_ne_nil]

namespace Value

def wordInitials : List Char := ['N', 'T', 'F']

lemma not_isUpper_of_mem_shown_int {n : Int} {c : Char} (h : c ∈ (Value.int n).shown.toList) :
    c.isUpper = false := by
  have hdigits : ∀ m : Nat, c ∈ m.repr.toList → c.isUpper = false := fun m hm =>
    not_isUpper_of_isDigit (Nat.isDigit_of_mem_toDigits (by omega) (by omega)
      (Nat.toList_repr ▸ hm))
  simp only [shown, shown?, quoted?, Text.integer?] at h
  split at h
  case isFalse => cases h
  rw [Option.getD_some, Int.toString_eq_repr, Int.repr_eq_if] at h
  split at h
  · exact hdigits _ h
  · rw [String.toList_append, List.mem_append] at h
    rcases h with hsign | hdigit
    · obtain rfl := List.mem_singleton.mp hsign
      rfl
    · exact hdigits _ hdigit

lemma not_isUpper_of_head_moment {t : Timestamp} {c : Char}
    (h : (Value.moment t).shown.toList.head? = some c) : c.isUpper = false := by
  have hshown : (Value.moment t).shown = t.text " " := rfl
  rw [hshown] at h
  simp only [Timestamp.text, String.toList_append, List.append_assoc] at h
  rcases hyear : (Timestamp.padded 4 t.year).toList with _ | ⟨d, ds⟩
  · exact absurd hyear (padded_ne_nil _ _)
  · have hdigit : d.isDigit := isDigit_of_mem_padded (hyear ▸ List.mem_cons_self)
    rw [hyear] at h
    cases h
    exact not_isUpper_of_isDigit hdigit

/-- **Only a text begins with a capital letter**, the words for null and the truth values apart. -/
theorem eq_text_of_shown {v : Value} {c : Char} {r : List Char} (hc : c.isUpper)
    (hw : c ∉ wordInitials) (h : v.shown.toList = c :: r) : v = .text v.shown := by
  have hhead : v.shown.toList.head? = some c := by rw [h]; rfl
  cases v with
  | text s => rfl
  | null => cases hhead; exact absurd (by decide) hw
  | bool b => cases b <;> cases hhead <;> exact absurd (by decide) hw
  | int n =>
    rw [not_isUpper_of_mem_shown_int (List.mem_of_mem_head? hhead)] at hc; cases hc
  | real x =>
    rw [not_isUpper_of_mem_text (List.mem_of_mem_head? hhead)] at hc; cases hc
  | list items =>
    simp only [shown, shown?, quoted?] at hhead
    rcases hitems : quotedItems? items with _ | ss
    · rw [hitems] at hhead; cases hhead
    · simp only [hitems, Option.bind_eq_bind, Option.bind_some, Option.pure_def, Option.getD_some,
        String.toList_append] at hhead
      cases hhead; cases hc
  | record fields =>
    simp only [shown, shown?, quoted?] at hhead
    rcases hfields : quotedFields? fields with _ | ss
    · rw [hfields] at hhead; cases hhead
    · simp only [hfields, Option.bind_eq_bind, Option.bind_some, Option.pure_def, Option.getD_some,
        String.toList_append] at hhead
      cases hhead; cases hc
  | moment t => rw [not_isUpper_of_head_moment hhead] at hc; cases hc

end Value

/-! ### The codes of a kind -/

namespace FaultKind

lemma codes_disjoint {k l : FaultKind} {c : String} (hk : c ∈ k.codes) (hl : c ∈ l.codes) :
    k = l := by
  have hdisj : ∀ d ∈ k.codes, d ∈ l.codes → k = l := by
    cases k <;> cases l <;> decide
  exact hdisj c hk hl

lemma mem_recognised {k : FaultKind} (hk : k ≠ .other) : k ∈ recognised := by
  cases k <;> first | decide | exact absurd rfl hk

lemma ofCode_eq_iff {k : FaultKind} (hk : k ≠ .other) {c : String} :
    ofCode c = k ↔ c ∈ k.codes := by
  unfold ofCode
  rcases hfind : recognised.find? fun l => l.codes.contains c with _ | l
  · have hnone := List.find?_eq_none.mp hfind k (mem_recognised hk)
    rw [List.contains_iff_mem] at hnone
    rw [hfind]
    exact ⟨fun h => absurd h.symm hk, fun h => absurd h hnone⟩
  · have hl := List.find?_some hfind
    rw [List.contains_iff_mem] at hl
    rw [hfind]
    exact ⟨fun h => h ▸ hl, fun h => codes_disjoint hl h⟩

/-- A code begins with a capital letter that no word for null or a truth value begins with. -/
lemma exists_initial {k : FaultKind} {c : String} (h : c ∈ k.codes) :
    ∃ d r, c.toList = d :: r ∧ d.isUpper ∧ d ∉ Value.wordInitials := by
  have hall : ∀ c ∈ k.codes, c.toList.head?.any fun d => d.isUpper && !Value.wordInitials.contains d
    := by cases k <;> decide
  have hc := hall c h
  rcases hlist : c.toList with _ | ⟨d, r⟩
  · rw [hlist] at hc; cases hc
  · rw [hlist] at hc
    simp only [List.head?_cons, Option.any_some, Bool.and_eq_true, Bool.not_eq_true',
      List.contains_eq_mem, decide_eq_false_iff_not] at hc
    exact ⟨d, r, rfl, hc⟩

end FaultKind

lemma ServiceFault.codeText_mem_iff {g : ServiceFault} {k : FaultKind} :
    g.codeText ∈ k.codes ↔ ∃ c ∈ k.codes, g.code = some (.text c) := by
  constructor
  · intro h
    refine ⟨g.codeText, h, ?_⟩
    obtain ⟨d, r, hlist, hupper, hword⟩ := FaultKind.exists_initial h
    unfold codeText at hlist ⊢
    rcases hcode : g.code with _ | v
    · rw [hcode] at hlist; cases hlist
    · rw [hcode, Option.getD_some] at hlist
      rw [Option.getD_some, ← Value.eq_text_of_shown hupper hword hlist]
  · rintro ⟨c, hc, hcode⟩
    unfold codeText
    rw [hcode]
    exact hc

namespace RemoteFault

def Says (f : RemoteFault) (k : FaultKind) : Prop :=
  ∃ g, f = .service g ∧ ∃ c ∈ k.codes, g.code = some (.text c)

/-- **Recognition**: a fault has a meaning exactly if the service reports it under a code of that
meaning. -/
theorem kind_eq_iff {f : RemoteFault} {k : FaultKind} (hk : k ≠ .other) :
    f.kind = k ↔ f.Says k := by
  cases f with
  | service g =>
    have hcode : (RemoteFault.service g).kind = k ↔ g.codeText ∈ k.codes :=
      FaultKind.ofCode_eq_iff hk
    rw [hcode, ServiceFault.codeText_mem_iff]
    exact ⟨fun h => ⟨g, rfl, h⟩, fun ⟨_, hg, h⟩ => by cases hg; exact h⟩
  | transport t =>
    exact ⟨fun h => absurd h.symm hk, fun ⟨_, hg, _⟩ => by cases hg⟩

lemma Says.kind_eq {f : RemoteFault} {k : FaultKind} (h : f.Says k) : f.kind = k := by
  refine (kind_eq_iff ?_).mpr h
  rintro rfl
  obtain ⟨_, _, c, hc, _⟩ := h
  cases hc

lemma Says.unique {f : RemoteFault} {k l : FaultKind} (hk : f.Says k) (hl : f.Says l) : k = l :=
  hk.kind_eq.symm.trans hl.kind_eq

end RemoteFault

/-! ### Faults without a meaning -/

/-- A fault that is passed on: the report names the request and the load balancer, and the fault is
kept as its origin and as the cause. -/
def Raised.PassesOn (e : Raised) (q : Request) (f : RemoteFault) : Prop :=
  ∃ w : ServiceFailure, e = ⟨.service w, some (.remote (.fault f))⟩ ∧
    w.operation = .text q.operation ∧ w.balancer = .text q.balancer ∧ w.origin = some (.fault f)

namespace Plan

variable (q : Request) (f : RemoteFault)

@[simp] lemma report_operation : (report q f).operation = .text q.operation := by cases f <;> rfl

@[simp] lemma report_balancer : (report q f).balancer = .text q.balancer := by cases f <;> rfl

@[simp] lemma report_origin : (report q f).origin = some (.fault f) := by cases f <;> rfl

lemma passesOn_report :
    Raised.PassesOn ⟨.service (report q f), some (.remote (.fault f))⟩ q f :=
  ⟨_, rfl, report_operation q f, report_balancer q f, report_origin q f⟩

end Plan

end Balancer
