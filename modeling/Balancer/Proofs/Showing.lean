import Balancer.Cli.Run
import Balancer.Proofs.Reading
import Balancer.Proofs.Writing

/-!
Showing: which of the descriptions that can be read can be shown.

A description is read as it comes, whatever its parts are. To be shown it has to be more: its
instances have an order, its creation time is a moment, no integer in it has too many digits, its
subnets are texts that can be joined, and a document has no moments in it. Main statements: what can
be sorted (`sorted_eq_ok_iff`) and written (`writeAt_eq_ok_iff`), and that a description is shown
exactly if this holds of its parts (`escaped_eq_none_iff`).
-/

namespace Balancer

/-! ### What can be sorted, joined and written -/

namespace Value

/-- Values are of kinds that are ordered together: there is at most one, or they are texts, or
numbers, or moments all with an offset or all without. -/
def AreOrdered (items : List Value) : Prop :=
  items.length ≤ 1 ∨ (∀ v ∈ items, ∃ s, v = .text s) ∨ (∀ v ∈ items, v.isNumber = true) ∨
    ∃ known, ∀ v ∈ items, ∃ t : Timestamp, v = .moment t ∧ t.offset.isSome = known

/-- What no document has a form for: a moment, or an integer with too many digits. -/
def IsUndocumented (v : Value) : Prop := (∃ t, v = .moment t) ∨ v.IsLong

lemma isComparable_text_iff {v : Value} {s : String} :
    v.isComparable (.text s) = true ↔ ∃ t, v = .text t := by
  cases v <;> simp [isComparable, isNumber]

lemma isComparable_moment_iff {v : Value} {t : Timestamp} :
    v.isComparable (.moment t) = true ↔
      ∃ u, v = .moment u ∧ u.offset.isSome = t.offset.isSome := by
  cases v with
  | moment u =>
    simp only [isComparable, Timestamp.compare?, Value.moment.injEq, exists_eq_left']
    split <;> simp_all
  | _ => simp [isComparable, isNumber]

lemma isComparable_number_iff {v w : Value} (hw : w.isNumber = true) :
    v.isComparable w = true ↔ v.isNumber = true := by
  cases w <;> cases v <;> simp_all [isComparable, isNumber]

lemma areOrdered_iff {items : List Value} :
    AreOrdered items ↔ items.length ≤ 1 ∨ ∀ v ∈ items, ∀ w ∈ items, w.isComparable v = true := by
  constructor
  · rintro (hone | htexts | hnumbers | ⟨known, hmoments⟩)
    · exact .inl hone
    · refine .inr fun v hv w hw => ?_
      obtain ⟨s, rfl⟩ := htexts v hv
      exact isComparable_text_iff.mpr (htexts w hw)
    · exact .inr fun v hv w hw => (isComparable_number_iff (hnumbers v hv)).mpr (hnumbers w hw)
    · refine .inr fun v hv w hw => ?_
      obtain ⟨t, rfl, ht⟩ := hmoments v hv
      obtain ⟨u, rfl, hu⟩ := hmoments w hw
      exact isComparable_moment_iff.mpr ⟨u, rfl, hu.trans ht.symm⟩
  · rintro (hone | hall)
    · exact .inl hone
    rcases items with _ | ⟨v, r⟩
    · exact .inl (by simp)
    have hfirst : ∀ w ∈ v :: r, w.isComparable v = true := hall v List.mem_cons_self
    have hself := hfirst v List.mem_cons_self
    cases v with
    | text s => exact .inr (.inl fun w hw => isComparable_text_iff.mp (hfirst w hw))
    | moment t =>
      exact .inr (.inr (.inr ⟨_, fun w hw => isComparable_moment_iff.mp (hfirst w hw)⟩))
    | bool b =>
      exact .inr (.inr (.inl fun w hw => (isComparable_number_iff rfl).mp (hfirst w hw)))
    | int n =>
      exact .inr (.inr (.inl fun w hw => (isComparable_number_iff rfl).mp (hfirst w hw)))
    | real x =>
      exact .inr (.inr (.inl fun w hw => (isComparable_number_iff rfl).mp (hfirst w hw)))
    | null => cases hself
    | list items => cases hself
    | record fields => cases hself

/-- **Values can be sorted if they are ordered together.** -/
theorem sorted_eq_ok_iff {items : List Value} :
    (∃ r, sorted items = .ok r) ↔ AreOrdered items := by
  have hnone : (items.find? fun v => items.any fun w => !w.isComparable v && items.length > 1) =
      none ↔ AreOrdered items := by
    rw [areOrdered_iff, List.find?_eq_none]
    by_cases hone : items.length ≤ 1
    · simp [hone]
    · simp [hone, Nat.lt_of_not_le hone]
  rw [← hnone, sorted]
  cases items.find? fun v => items.any fun w => !w.isComparable v && items.length > 1 <;>
    simp [misuse]

lemma mem_insert {v w : Value} {items : List Value} :
    w ∈ v.insert items ↔ w = v ∨ w ∈ items := by
  induction items with
  | nil => simp [insert]
  | cons u r ih =>
    rw [insert]
    split
    · rw [List.mem_cons, ih, List.mem_cons]
      tauto
    · rw [List.mem_cons]

lemma mem_of_sorted {items r : List Value} (h : sorted items = .ok r) (w : Value) :
    w ∈ r ↔ w ∈ items := by
  have hfold : ∀ items : List Value, w ∈ items.foldr insert [] ↔ w ∈ items := by
    intro items
    induction items with
    | nil => rfl
    | cons v items ih => rw [List.foldr_cons, mem_insert, ih, List.mem_cons]
  unfold sorted at h
  split at h
  · cases h
  · cases h
    exact hfold items

lemma texts_eq_ok_iff {items : List Value} :
    (∃ ss, texts items = .ok ss) ↔ ∀ v ∈ items, ∃ s, v = .text s := by
  have hfrom : ∀ n, (∃ ss, textsFrom n items = .ok ss) ↔ ∀ v ∈ items, ∃ s, v = .text s := by
    induction items with
    | nil => exact fun n => by simp [textsFrom]
    | cons v items ih =>
      intro n
      cases v with
      | text s =>
        simp only [textsFrom, List.forall_mem_cons, Value.text.injEq, exists_eq', true_and,
          ← ih (n + 1)]
        cases textsFrom (n + 1) items <;> simp [Functor.map, Except.map]
      | _ => simp [textsFrom, misuse]
  exact hfrom 0

end Value

lemma exists_bind_bind_iff {ε α β γ : Type} {x : Except ε α} {y : Except ε β} {g : α → β → γ} :
    (∃ c, (x >>= fun a => y >>= fun b => pure (g a b)) = .ok c) ↔
      (∃ a, x = .ok a) ∧ ∃ b, y = .ok b := by
  cases x <;> cases y <;> simp [pure, Except.pure]

namespace Json.Layout

open Value (IsUndocumented)

variable (l : Layout)

mutual

/-- **All but moments and long integers can be written.** -/
theorem writeAt_eq_ok_iff : ∀ (depth : Nat) (v : Value),
    (∃ s, l.writeAt depth v = .ok s) ↔ ¬ v.Holds IsUndocumented
  | _, .null => by simp [writeAt, IsUndocumented, Value.IsLong]
  | _, .bool _ => by simp [writeAt, IsUndocumented, Value.IsLong]
  | _, .int n => by
    have hlong : (Value.int n).Holds IsUndocumented ↔ (Value.int n).Holds Value.IsLong := by
      simp [IsUndocumented]
    rw [writeAt, Value.written_eq_ok_iff, hlong]
  | _, .real _ => by simp [writeAt, IsUndocumented, Value.IsLong]
  | _, .text _ => by simp [writeAt, IsUndocumented, Value.IsLong]
  | depth, .list items => by
    have ih := writeItems_eq_ok_iff (depth + 1) items
    have hself : ¬ IsUndocumented (.list items) := by simp [IsUndocumented, Value.IsLong]
    simp only [writeAt, bind_eq_ok_iff, Value.holds_list_iff, or_iff_right hself, not_exists,
      not_and, ← ih]
    simp [pure, Except.pure]
  | depth, .record fields => by
    have ih := writeFields_eq_ok_iff (depth + 1) fields
    have hself : ¬ IsUndocumented (.record fields) := by simp [IsUndocumented, Value.IsLong]
    simp only [writeAt, bind_eq_ok_iff, Value.holds_record_iff, or_iff_right hself, not_exists,
      not_and, ← ih]
    simp [pure, Except.pure]
  | _, .moment t => by simp [writeAt, IsUndocumented, misuse]

lemma writeItems_eq_ok_iff : ∀ (depth : Nat) (items : List Value),
    (∃ ss, l.writeItems depth items = .ok ss) ↔ ∀ v ∈ items, ¬ v.Holds IsUndocumented
  | _, [] => by simp [writeItems]
  | depth, v :: r => by
    rw [writeItems, exists_bind_bind_iff, writeAt_eq_ok_iff depth v, writeItems_eq_ok_iff depth r,
      List.forall_mem_cons]

lemma writeFields_eq_ok_iff : ∀ (depth : Nat) (fields : List (String × Value)),
    (∃ ss, l.writeFields depth fields = .ok ss) ↔ ∀ f ∈ fields, ¬ f.2.Holds IsUndocumented
  | _, [] => by simp [writeFields]
  | depth, (k, v) :: r => by
    rw [writeFields, exists_bind_bind_iff, writeAt_eq_ok_iff depth v, writeFields_eq_ok_iff depth r,
      List.forall_mem_cons]

end

end Json.Layout

/-! ### Which descriptions can be shown -/

namespace Description

variable {d : Description}

/-- The creation time is a moment, if there is one. -/
def IsDated (d : Description) : Prop := (∃ t, d.created = .moment t) ∨ d.created.isGiven = false

lemma createdText_eq_ok_iff : (∃ v, createdText d.created = .ok v) ↔ d.IsDated := by
  constructor
  · rintro ⟨v, hv⟩
    cases hcreated : d.created with
    | moment t => exact .inl ⟨t, hcreated⟩
    | _ =>
      rw [hcreated, createdText] at hv
      · split at hv
        · cases hv
        · next hgiven => exact .inr (by rw [hcreated]; simpa using hgiven)
      · rintro _ ⟨⟩
  · rintro (⟨t, ht⟩ | hgiven)
    · rw [ht]
      exact ⟨_, rfl⟩
    · refine ⟨.null, ?_⟩
      cases hcreated : d.created <;> simp_all [createdText, Value.isGiven]

lemma isDated_of_ofWire {v : Value} (h : ofWire v = .ok d) (hv : v.get? "CreatedTime" = .ok none) :
    d.IsDated := by
  simp only [ofWire, bind_eq_ok_iff] at h
  obtain ⟨ls, -, check, -, name, -, dnsName, -, instances, -, subnets, -, zones, -, scheme, -,
    created, hcreated, h⟩ := h
  cases h
  right
  cases hv.symm.trans hcreated
  rfl

lemma not_holds_createdText {v w : Value} (h : createdText v = .ok w) :
    ¬ w.Holds Value.IsUndocumented := by
  unfold createdText at h
  split at h
  · cases h
    simp [Value.IsUndocumented, Value.IsLong]
  · split at h
    · cases h
    · cases h
      simp [Value.IsUndocumented, Value.IsLong]

lemma toReport_eq_ok_iff : (∃ report, d.toReport = .ok report) ↔
    Value.AreOrdered d.instances ∧ d.IsDated := by
  rw [← Value.sorted_eq_ok_iff, ← createdText_eq_ok_iff]
  exact exists_bind_bind_iff

lemma not_holds_toReport_listener (l : Listener) : ¬ l.toReport.Holds Value.IsUndocumented := by
  have hport (p : Port) : ¬ p.toValue.Holds Value.IsUndocumented := by
    rw [Port.toValue, Value.holds_int_iff]
    rintro (⟨_, ⟨⟩⟩ | h)
    exact Value.not_isLong_port p h
  have hprotocol (p : Protocol) : ¬ p.toValue.Holds Value.IsUndocumented := by
    simp [Protocol.toValue, Value.IsUndocumented, Value.IsLong]
  simp [Listener.toReport, Value.holds_record_iff, hport, hprotocol, Value.IsUndocumented,
    Value.IsLong]

/-- The values that a report shows as they are. -/
def shownAsRead (d : Description) : List Value :=
  [d.name, d.dnsName] ++ d.instances ++ d.subnets ++ d.zones ++ [d.scheme]

lemma holds_toReport_iff {report : Value} (h : d.toReport = .ok report) :
    report.Holds Value.IsUndocumented ↔ ∃ v ∈ d.shownAsRead, v.Holds Value.IsUndocumented := by
  obtain ⟨instances, hinstances, h⟩ := bind_eq_ok_iff.mp h
  obtain ⟨created, hcreated, h⟩ := bind_eq_ok_iff.mp h
  cases h
  have hlist (items : List Value) : (Value.list items).Holds Value.IsUndocumented ↔
      ∃ v ∈ items, v.Holds Value.IsUndocumented := by
    simp [Value.holds_list_iff, Value.IsUndocumented, Value.IsLong]
  have htext (s : String) : ¬ (Value.text s).Holds Value.IsUndocumented := by
    simp [Value.IsUndocumented, Value.IsLong]
  have hcheck : ¬ (Value.ofText? (d.healthCheck.map HealthCheck.target)).Holds
      Value.IsUndocumented := by
    cases d.healthCheck
    · simp [Value.ofText?, Value.ofOption, Value.IsUndocumented, Value.IsLong]
    · exact htext _
  have hlisteners : ¬ (Value.list (d.listeners.map fun e => e.2.toReport)).Holds
      Value.IsUndocumented := by
    simp [hlist, not_holds_toReport_listener]
  have hsorted : (Value.list instances).Holds Value.IsUndocumented ↔
      ∃ v ∈ d.instances, v.Holds Value.IsUndocumented := by
    simp only [hlist, Value.mem_of_sorted hinstances]
  have hself (fields : List (String × Value)) : ¬ Value.IsUndocumented (.record fields) := by
    simp [Value.IsUndocumented, Value.IsLong]
  simp only [Value.holds_record_iff, hself, List.exists_mem_cons_iff, List.not_mem_nil, false_and,
    exists_false, or_false, hsorted, hlisteners, hcheck, not_holds_createdText hcreated,
    htext, false_or, hlist, shownAsRead, List.mem_append, or_and_right, exists_or, or_assoc]

end Description

namespace Cli

/-! ### Lines -/

lemma escaped_tell_eq_none_iff {lines : List (Checked String)} :
    (tell lines).escaped = none ↔ ∀ x ∈ lines, ∃ s, x = .ok s := by
  induction lines with
  | nil => simp [tell, succeeded]
  | cons x r ih => cases x <;> simp [tell, escaping, ih]

lemma tell_cases (lines : List (Checked String)) :
    (∃ s, tell lines = succeeded s) ∨ ∃ s r, tell lines = escaping s r := by
  induction lines with
  | nil => exact .inl ⟨"", rfl⟩
  | cons x r ih =>
    cases x with
    | error e => exact .inr ⟨"", e, rfl⟩
    | ok s =>
      obtain ⟨t, ht⟩ | ⟨t, e, ht⟩ := ih
      · exact .inl ⟨line s ++ t, by rw [tell, ht]; rfl⟩
      · exact .inr ⟨line s ++ t, e, by rw [tell, ht]; rfl⟩

lemma labelled_eq_ok_iff {label : String} {v : Value} :
    (∃ s, labelled label v = .ok s) ↔ ¬ v.Holds Value.IsLong := by
  rw [← Value.written_eq_ok_iff, labelled]
  cases v.written <;> simp [Functor.map, Except.map]

lemma holds_orElse_unknown_iff {v : Value} :
    (v.orElse (.text "unknown")).Holds Value.IsLong ↔ v.Holds Value.IsLong := by
  rw [Value.orElse]
  split
  · rfl
  · next h => exact ⟨fun hlong => by simp [Value.IsLong] at hlong,
      fun hlong => absurd (Value.isGiven_of_holds_isLong hlong) h⟩

/-- A description is shown in lines, or in one where that fails. -/
lemma exists_showDescription_eq (format : Format) (d : Description) :
    ∃ lines, showDescription format d = tell lines := by
  rw [showDescription]
  split
  · next r _ => exact ⟨[.error r], rfl⟩
  · next r _ _ => exact ⟨[.error r], rfl⟩
  · cases format <;> exact ⟨_, rfl⟩

/-- A description can be shown: its instances have an order, its creation time is a moment if there
is one, and all that is shown can be written. In lines, the subnets are joined as texts; a document
has no moments either. -/
structure IsPresentable (format : Format) (d : Description) : Prop where
  instances : Value.AreOrdered d.instances
  created : d.IsDated
  shown : match format with
    | .text => (∀ v ∈ [d.name, d.dnsName, d.scheme] ++ d.instances, ¬ v.Holds Value.IsLong) ∧
      ∀ v ∈ d.subnets, ∃ s, v = .text s
    | .json => ∀ v ∈ d.shownAsRead, ¬ v.Holds Value.IsUndocumented

lemma escaped_descriptionLines {d : Description} {instances : List Value}
    (h : Value.sorted d.instances = .ok instances) :
    (tell (descriptionLines d instances)).escaped = none ↔
      (∀ v ∈ [d.name, d.dnsName, d.scheme] ++ d.instances, ¬ v.Holds Value.IsLong) ∧
        ∀ v ∈ d.subnets, ∃ s, v = .text s := by
  have hsubnets : (∃ s, subnetsLine <$> Value.texts d.subnets = .ok s) ↔
      ∀ v ∈ d.subnets, ∃ s, v = .text s := by
    rw [← Value.texts_eq_ok_iff]
    cases Value.texts d.subnets <;> simp [Functor.map, Except.map]
  rw [escaped_tell_eq_none_iff, descriptionLines]
  simp only [List.forall_mem_append, List.forall_mem_cons, List.forall_mem_map, labelled_eq_ok_iff,
    holds_orElse_unknown_iff, hsubnets, Value.mem_of_sorted h]
  simp
  tauto

/-- **An error escapes exactly from a description that cannot be shown.** -/
theorem escaped_eq_none_iff {format : Format} {d : Description} :
    (showDescription format d).escaped = none ↔ IsPresentable format d := by
  rcases hreport : d.toReport with r | report
  · have hnot : ¬ (Value.AreOrdered d.instances ∧ d.IsDated) := by
      rw [← Description.toReport_eq_ok_iff, hreport]
      simp
    have hshown : showDescription format d = escaping "" r := by
      simp only [showDescription, hreport]
    rw [hshown]
    exact ⟨fun h => (nomatch h), fun h => absurd ⟨h.instances, h.created⟩ hnot⟩
  obtain ⟨hordered, hdated⟩ := Description.toReport_eq_ok_iff.mp ⟨report, hreport⟩
  obtain ⟨instances, hinstances⟩ := Value.sorted_eq_ok_iff.mpr hordered
  simp only [showDescription, hreport, hinstances]
  cases format with
  | text =>
    simp only [escaped_descriptionLines hinstances]
    exact ⟨fun h => ⟨hordered, hdated, h⟩, fun h => h.shown⟩
  | json =>
    have hwrite : (∃ s, Json.Layout.indented.write report = .ok s) ↔
        ∀ v ∈ d.shownAsRead, ¬ v.Holds Value.IsUndocumented := by
      rw [Json.Layout.write, Json.Layout.writeAt_eq_ok_iff, Description.holds_toReport_iff hreport]
      simp
    simp only [escaped_tell_eq_none_iff, List.forall_mem_singleton, hwrite]
    exact ⟨fun h => ⟨hordered, hdated, h⟩, fun h => h.shown⟩

end Cli

end Balancer
