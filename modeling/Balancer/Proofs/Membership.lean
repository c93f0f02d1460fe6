import Balancer.Proofs.Ascending
import Balancer.Proofs.Grammar
import Balancer.Proofs.Mutation
import Mathlib.Data.List.DropRight

/-!
Members: which instances a collection of ids names, and what is asked for them.

Ids are given in any order, more than once, and with blanks around them. What counts is which ids
are left without the blanks. Main statements: a text has one part that blanks surround and that
none begins or ends (`strips_iff`); a collection is read as the ascending list of the ids that it
names, or refused for an item that is none (`read_eq_ok_iff`); and so what is asked depends on
nothing but the set of these ids (`ids_count_as_set`).
-/

namespace Balancer

/-! ### Blanks around a text -/

namespace Text

def IsTrimmed (t : List Char) : Prop :=
  (∀ c, t.head? = some c → isBlank c = false) ∧ ∀ c, t.getLast? = some c → isBlank c = false

/-- A text has blanks around another one, which no blank begins or ends. -/
def Strips (s t : String) : Prop :=
  IsTrimmed t.toList ∧ ∃ front back : List Char, s.toList = front ++ (t.toList ++ back) ∧
    (∀ c ∈ front, isBlank c = true) ∧ ∀ c ∈ back, isBlank c = true

variable {s t : List Char}

lemma trimBy_eq (s : List Char) : trimBy isBlank s = (s.dropWhile isBlank).rdropWhile isBlank := rfl

lemma isTrimmed_trimBy (s : List Char) : IsTrimmed (trimBy isBlank s) := by
  rw [trimBy_eq]
  constructor
  · intro c hc
    obtain ⟨back, hback⟩ := List.rdropWhile_prefix isBlank (s.dropWhile isBlank)
    have hhead : (s.dropWhile isBlank).head? = some c := by
      rw [← hback, List.head?_append, hc]
      rfl
    have hfirst := List.head?_dropWhile_not isBlank s
    rw [hhead] at hfirst
    exact hfirst
  · intro c hc
    have hne : (s.dropWhile isBlank).rdropWhile isBlank ≠ [] := by
      intro hnil
      rw [hnil] at hc
      cases hc
    have hlast := List.rdropWhile_last_not isBlank (s.dropWhile isBlank) hne
    rw [List.getLast?_eq_getLast_of_ne_nil hne, Option.some.injEq] at hc
    rw [hc] at hlast
    exact Bool.not_eq_true _ ▸ hlast

lemma exists_margins (s : List Char) : ∃ front back, s = front ++ (trimBy isBlank s ++ back) ∧
    (∀ c ∈ front, isBlank c = true) ∧ ∀ c ∈ back, isBlank c = true := by
  refine ⟨s.takeWhile isBlank, (s.dropWhile isBlank).rtakeWhile isBlank, ?_,
    fun c hc => List.mem_takeWhile_imp hc, fun c hc => List.mem_rtakeWhile_imp hc⟩
  rw [trimBy_eq, List.rdropWhile_append_rtakeWhile, List.takeWhile_append_dropWhile]

lemma trimBy_of_margins {front back : List Char} (hfront : ∀ c ∈ front, isBlank c = true)
    (hback : ∀ c ∈ back, isBlank c = true) (ht : IsTrimmed t) :
    trimBy isBlank (front ++ (t ++ back)) = t := by
  have hrest : (t ++ back).rdropWhile isBlank = t := by
    rw [List.rdropWhile, List.reverse_append,
      List.dropWhile_append_of_pos fun c hc => hback c (List.mem_reverse.mp hc),
      ← List.rdropWhile, List.rdropWhile_eq_self_iff]
    intro hne
    rw [ht.2 _ (List.getLast?_eq_getLast_of_ne_nil hne)]
    exact Bool.false_ne_true
  rw [trimBy_eq, List.dropWhile_append_of_pos hfront]
  rcases t with _ | ⟨c, r⟩
  · rw [List.nil_append, List.dropWhile_eq_nil_iff.mpr hback, List.rdropWhile_nil]
  · rw [List.cons_append, List.dropWhile_cons_of_neg (by simp [ht.1 c rfl]), ← List.cons_append,
      hrest]

/-- **A text strips to one other text.** -/
theorem strips_iff {s t : String} : Strips s t ↔ t = trim s := by
  constructor
  · rintro ⟨ht, front, back, hs, hfront, hback⟩
    rw [trim, hs, trimBy_of_margins hfront hback ht, String.ofList_toList]
  · rintro rfl
    rw [Strips, trim, String.toList_ofList]
    exact ⟨isTrimmed_trimBy _, exists_margins _⟩

lemma trim_eq_self {s : String} (h : IsTrimmed s.toList) : trim s = s :=
  (strips_iff.mp ⟨h, [], [], by simp, by simp, by simp⟩).symm

lemma trim_ne_empty_iff {s : String} : trim s ≠ "" ↔ ∃ c ∈ s.toList, isBlank c = false := by
  obtain ⟨-, front, back, hs, hfront, hback⟩ := strips_iff.mpr (rfl : trim s = trim s)
  constructor
  · intro h
    by_contra hnone
    push Not at hnone
    have hblank : ∀ c ∈ s.toList, isBlank c = true := fun c hc => by
      simpa using hnone c hc
    refine h (strips_iff.mp ⟨?_, s.toList, [], by simp, hblank, by simp⟩).symm
    exact ⟨nofun, nofun⟩
  · rintro ⟨c, hc, hblank⟩ hempty
    rw [hs, hempty, List.mem_append, String.toList_empty, List.nil_append] at hc
    rcases hc with hc | hc
    · rw [hfront c hc] at hblank
      cases hblank
    · rw [hback c hc] at hblank
      cases hblank

end Text

/-! ### Ids -/

namespace Instances

/-- An id is a text that is not all blank. -/
def IsId (v : Value) : Prop := ∃ s : String, v = .text s ∧ ∃ c ∈ s.toList, Text.isBlank c = false

/-- One of the items is a text with blanks around the id, or with none. -/
def Names (items : List Value) (id : String) : Prop := ∃ s, .text s ∈ items ∧ Text.Strips s id

/-- The value is a collection of the items, and no text. -/
def Collects (v : Value) (items : List Value) : Prop :=
  v.members = .ok items ∧ ∀ s, v ≠ .text s

variable {v w : Value} {items : List Value} {ids : List String} {id : String}

@[simp] lemma not_names_nil : ¬ Names [] id := by simp [Names]

@[simp] lemma names_text_cons {s : String} :
    Names (.text s :: items) id ↔ id = Text.trim s ∨ Names items id := by
  simp only [Names, List.mem_cons, Value.text.injEq, or_and_right, exists_or, exists_eq_left,
    Text.strips_iff]

lemma readId_eq_ok_iff : readId v = .ok id ↔ IsId v ∧ ∃ s, v = .text s ∧ Text.Strips s id := by
  cases v with
  | text s =>
    have hid : IsId (.text s) ↔ Text.trim s ≠ "" := by simp [IsId, Text.trim_ne_empty_iff]
    simp only [readId, hid, Value.text.injEq, exists_eq_left', Text.strips_iff]
    by_cases hempty : Text.trim s = ""
    · simp [hempty]
    · simp only [String.isEmpty_iff, hempty, if_false, Except.ok.injEq, ne_eq, not_false_eq_true,
        true_and]
      exact eq_comm
  | _ => simp [readId, IsId]

lemma refuses_of_readId {e : Rejection} (h : readId v = .error e) : e.Refuses v := by
  unfold readId at h
  split at h
  · split at h <;> cases h
    exact Rejection.refuses_breaking ..
  · cases h
    exact Rejection.refuses_breaking ..

lemma exists_readId_iff : (∃ id, readId v = .ok id) ↔ IsId v := by
  simp only [readId_eq_ok_iff]
  constructor
  · rintro ⟨id, h, -⟩
    exact h
  · intro h
    obtain ⟨s, rfl, -⟩ := id h
    exact ⟨_, h, s, rfl, Text.strips_iff.mpr rfl⟩

lemma mapM_readId_of_ids (h : ∀ w ∈ items, IsId w) :
    ∃ ids, items.mapM readId = .ok ids ∧ ∀ id, id ∈ ids ↔ Names items id := by
  induction items with
  | nil => exact ⟨[], rfl, by simp⟩
  | cons w r ih =>
    obtain ⟨ids, hids, hmem⟩ := ih fun w hw => h w (List.mem_cons_of_mem _ hw)
    obtain ⟨id, hid⟩ := exists_readId_iff.mpr (h w List.mem_cons_self)
    obtain ⟨-, s, rfl, hs⟩ := readId_eq_ok_iff.mp hid
    refine ⟨id :: ids, by rw [List.mapM_cons, hid, ok_bind, hids]; rfl, fun t => ?_⟩
    rw [Text.strips_iff] at hs
    rw [List.mem_cons, hmem, names_text_cons, hs]

/-- The first of the items that is no id. -/
inductive FirstNoId : List Value → Value → Prop
  | head {w : Value} {r : List Value} (hw : ¬ IsId w) : FirstNoId (w :: r) w
  | tail {w w' : Value} {r : List Value} (hw : IsId w) (h : FirstNoId r w') : FirstNoId (w :: r) w'

lemma exists_firstNoId (h : ∃ w ∈ items, ¬ IsId w) : ∃ w, FirstNoId items w := by
  induction items with
  | nil => simp at h
  | cons w r ih =>
    by_cases hw : IsId w
    · obtain ⟨w', hw', hnot⟩ := h
      rcases List.mem_cons.mp hw' with rfl | hw'
      · exact absurd hw hnot
      · obtain ⟨u, hu⟩ := ih ⟨w', hw', hnot⟩
        exact ⟨u, .tail hw hu⟩
    · exact ⟨w, .head hw⟩

/-- The first item that is no id is refused, and nothing is read after it. -/
lemma FirstNoId.mapM_readId (h : FirstNoId items w) :
    ∃ e, items.mapM readId = .error e ∧ e.Refuses w := by
  induction h with
  | @head w r hw =>
    rcases hid : readId w with e | id
    · exact ⟨e, by rw [List.mapM_cons, hid, error_bind], refuses_of_readId hid⟩
    · exact absurd (exists_readId_iff.mp ⟨id, hid⟩) hw
  | tail hw _ ih =>
    obtain ⟨id, hid⟩ := exists_readId_iff.mpr hw
    obtain ⟨e, he, hrefuses⟩ := ih
    exact ⟨e, by rw [List.mapM_cons, hid, ok_bind, he, error_bind], hrefuses⟩

lemma read_of_collects (hv : Collects v items) :
    read v = (items.mapM readId >>= fun ids => .ok (ofList ids)) := by
  obtain ⟨hmembers, htext⟩ := hv
  cases v with
  | text s => exact absurd rfl (htext s)
  | _ => simp only [read, hmembers, ok_bind]; rfl

theorem read_of_ids (hv : Collects v items) (h : ∀ w ∈ items, IsId w) :
    ∃ ids, read v = .ok ids ∧ ids.Pairwise (· < ·) ∧ ∀ id, id ∈ ids ↔ Names items id := by
  obtain ⟨ids, hids, hmem⟩ := mapM_readId_of_ids h
  refine ⟨ofList ids, by rw [read_of_collects hv, hids, ok_bind], pairwise_ofList ids, fun id => ?_⟩
  rw [mem_ofList, hmem]

lemma read_of_firstNoId (hv : Collects v items) (h : FirstNoId items w) :
    ∃ e, read v = .error e ∧ e.Refuses w := by
  obtain ⟨e, he, hrefuses⟩ := h.mapM_readId
  exact ⟨e, by rw [read_of_collects hv, he, error_bind], hrefuses⟩

/-- **A collection of ids is read as the ascending list of them.** -/
theorem read_eq_ok_iff (hv : Collects v items) :
    read v = .ok ids ↔
      (∀ w ∈ items, IsId w) ∧ ids.Pairwise (· < ·) ∧ ∀ id, id ∈ ids ↔ Names items id := by
  by_cases h : ∀ w ∈ items, IsId w
  · obtain ⟨ids', hread, hascends, hmem⟩ := read_of_ids hv h
    rw [hread]
    constructor
    · rintro ⟨⟩
      exact ⟨h, hascends, hmem⟩
    · rintro ⟨-, hascends', hmem'⟩
      rw [eq_of_ascending hascends hascends' fun id => by rw [hmem, hmem']]
  · push Not at h
    obtain ⟨w, hw⟩ := exists_firstNoId h
    obtain ⟨e, he, -⟩ := read_of_firstNoId hv hw
    rw [he]
    refine ⟨nofun, fun ⟨hall, _⟩ => ?_⟩
    obtain ⟨w, hw, hnot⟩ := h
    exact absurd (hall w hw) hnot

lemma collects_map_text (ids : List String) : Collects (.list (ids.map .text)) (ids.map .text) :=
  ⟨rfl, nofun⟩

lemma names_map_text (h : ∀ id ∈ ids, Names items id) {id : String} :
    Names (ids.map .text) id ↔ id ∈ ids := by
  have hself : ∀ t ∈ ids, Text.trim t = t := by
    intro t ht
    obtain ⟨s, -, hs⟩ := h t ht
    exact Text.trim_eq_self hs.1
  simp only [Names, List.mem_map, Value.text.injEq, exists_eq_right, Text.strips_iff]
  constructor
  · rintro ⟨t, ht, rfl⟩
    rwa [hself t ht]
  · intro hid
    exact ⟨id, hid, (hself id hid).symm⟩

lemma isId_of_names (hitems : ∀ w ∈ items, IsId w) (h : Names items id) : IsId (.text id) := by
  obtain ⟨s, hmem, hs⟩ := h
  obtain ⟨t, ht, hblank⟩ := hitems _ hmem
  cases ht
  rw [Text.strips_iff] at hs
  have hself : Text.trim id = id := hs ▸ Text.trim_eq_self (Text.strips_iff.mpr rfl).1
  refine ⟨id, rfl, Text.trim_ne_empty_iff.mp ?_⟩
  rw [hself, hs]
  exact Text.trim_ne_empty_iff.mpr hblank

lemma read_again (hv : Collects v items) (h : read v = .ok ids) :
    read (.list (ids.map .text)) = .ok ids := by
  obtain ⟨hitems, hascends, hmem⟩ := (read_eq_ok_iff hv).mp h
  refine (read_eq_ok_iff (collects_map_text ids)).mpr ⟨fun w hw => ?_, hascends, fun id => ?_⟩
  · obtain ⟨id, hid, rfl⟩ := List.mem_map.mp hw
    exact isId_of_names hitems ((hmem id).mp hid)
  · exact (names_map_text fun id hid => (hmem id).mp hid).symm

lemma eq_nil_iff (hv : Collects v items) (h : read v = .ok ids) : ids = [] ↔ items = [] := by
  obtain ⟨hitems, -, hmem⟩ := (read_eq_ok_iff hv).mp h
  constructor
  · rintro rfl
    rcases items with _ | ⟨w, r⟩
    · rfl
    · obtain ⟨s, rfl, -⟩ := hitems w List.mem_cons_self
      cases (hmem (Text.trim s)).mpr ⟨s, List.mem_cons_self, Text.strips_iff.mpr rfl⟩
  · rintro rfl
    rw [List.eq_nil_iff_forall_not_mem]
    intro id hid
    obtain ⟨s, hs, -⟩ := (hmem id).mp hid
    cases hs

end Instances

/-! ### Requests -/

def Request.entries (q : Request) : List Value :=
  match Value.field? q.parameters "Instances" with
  | some (.list vs) => vs
  | _ => []

def Instances.entry (id : String) : Value := .record [("InstanceId", .text id)]

/-- The two operations that change which instances a load balancer has, each with the request that
it makes for ids. -/
inductive ChangesMembers (n : String) (v : Value) : Operation → (List String → Request) → Prop
  | add : ChangesMembers n v (.addInstances (.text n) v) (.register n)
  | remove : ChangesMembers n v (.removeInstances (.text n) v) (.deregister n)

namespace ChangesMembers

variable {n : String} {v : Value} {o : Operation} {ask : List String → Request} {ids : List String}
  {m : Manager} {script : Script}

lemma entries_eq (h : ChangesMembers n v o ask) (ids : List String) :
    (ask ids).entries = ids.map Instances.entry := by
  cases h <;> rfl

lemma read_eq (h : ChangesMembers n v o ask) (s : Settings) (hn : Name.IsValid n)
    (hids : Instances.read v = .ok ids) :
    ∃ i, o.read s = .ok i ∧ i.plan s = Plan.changeMembership (ask ids) ids ∧
      (ids ≠ [] → i.change? = some (ask ids)) := by
  have hname : Name.check (.text n) = .ok n := hn
  cases h with
  | add =>
    refine ⟨.register n ids, ?_, rfl, fun hne => ?_⟩
    · simp only [Operation.read, hname, hids, ok_bind]
      rfl
    · cases ids with
      | nil => exact absurd rfl hne
      | cons id r => rfl
  | remove =>
    refine ⟨.deregister n ids, ?_, rfl, fun hne => ?_⟩
    · simp only [Operation.read, hname, hids, ok_bind]
      rfl
    · cases ids with
      | nil => exact absurd rfl hne
      | cons id r => rfl

lemma ne_bind (h : ChangesMembers n v o ask) (m : String) (l : Listener) : ask ids ≠ .bind m l := by
  cases h <;> nofun

lemma ne_unbind (h : ChangesMembers n v o ask) (m : String) (port : Value) :
    ask ids ≠ .unbind m port := by
  cases h <;> nofun

lemma events_of_nil (h : ChangesMembers n v o ask) (hn : Name.IsValid n)
    (hids : Instances.read v = .ok []) : (m.act script (.operate o)).events = [] := by
  obtain ⟨i, hread, hplan, -⟩ := h.read_eq m.settings hn hids
  rw [Manager.act_of_read_ok hread, hplan]
  rfl

lemma requests_of_ne_nil (h : ChangesMembers n v o ask) (hn : Name.IsValid n)
    (hids : Instances.read v = .ok ids) (hne : ids ≠ []) :
    (m.act script (.operate o)).requests = m.sent script (ask ids) := by
  obtain ⟨i, hread, -, hchange⟩ := h.read_eq m.settings hn hids
  exact Manager.requests_of_change hread (hchange hne) h.ne_bind

lemma reaches_of_result_ok (h : ChangesMembers n v o ask) (hn : Name.IsValid n)
    (hids : Instances.read v = .ok ids) (hne : ids ≠ []) {a : Outcome}
    (hresult : (m.act script (.operate o)).result = .ok a) :
    m.connection.reaches script.openError = true := by
  obtain ⟨i, hread, -, hchange⟩ := h.read_eq m.settings hn hids
  exact Manager.reaches_of_change hread (hchange hne) h.ne_bind h.ne_unbind hresult

end ChangesMembers

namespace Instances

lemma exists_isInvalid_iff {v : Value} {items : List Value} (hv : Collects v items) :
    (∃ e, read v = .error e ∧ e.IsInvalid) ↔
      ∃ w, FirstNoId items w ∧ ¬ w.Holds Value.IsLong := by
  constructor
  · rintro ⟨e, he, hinvalid⟩
    have hnone : ∃ w ∈ items, ¬ IsId w := by
      by_contra hall
      push Not at hall
      obtain ⟨ids, hids, -⟩ := read_of_ids hv hall
      cases he.symm.trans hids
    obtain ⟨w, hw⟩ := exists_firstNoId hnone
    obtain ⟨e', he', hrefuses⟩ := read_of_firstNoId hv hw
    obtain rfl : e = e' := Except.error.inj (he.symm.trans he')
    refine ⟨w, hw, fun hlong => Rejection.not_isInvalid_unwritten ?_⟩
    exact hrefuses.unwritten hlong ▸ hinvalid
  · rintro ⟨w, hw, hwritten⟩
    obtain ⟨e, he, hrefuses⟩ := read_of_firstNoId hv hw
    exact ⟨e, he, hrefuses.invalid hwritten⟩

/-- **Ids count as a set.** A collection is read exactly if all of its items are ids. The first item
that is none decides how another one is refused: as a value that breaks a rule, if the item can be
written, and otherwise for that alone. What is read is the ascending list of the ids that are named.
That list is read as itself, and every collection that names the same is read as it too. Adding or
removing the ids does nothing where there are none, and else makes one request, the same for all
such collections, which lists each id once. -/
theorem ids_count_as_set {v : Value} {items : List Value} (hv : Collects v items) :
    ((∃ e, read v = .error e ∧ e.IsInvalid) ↔
      ∃ w, FirstNoId items w ∧ ¬ w.Holds Value.IsLong) ∧
    (∀ w, FirstNoId items w → w.Holds Value.IsLong → read v = .error .unwritten) ∧
    ((∃ ids, read v = .ok ids) ↔ ∀ w ∈ items, IsId w) ∧
    ∀ ids, read v = .ok ids →
      ids.Pairwise (· < ·) ∧ (∀ id, id ∈ ids ↔ Names items id) ∧
      read (.list (ids.map .text)) = .ok ids ∧
      ∀ w items', Collects w items' → (∀ x ∈ items', IsId x) →
        (∀ id, Names items' id ↔ Names items id) →
        read w = .ok ids ∧
        ∀ (m : Manager) (script : Script) (n : String) (o : Operation)
          (ask : List String → Request), Name.IsValid n →
          m.connection.reaches script.openError = true → ChangesMembers n w o ask →
          let x := m.act script (.operate o)
          (items' = [] → x.events = []) ∧
          (items' ≠ [] →
            x.requests = [ask ids] ∧ (ask ids).entries = ids.map entry ∧ ids.Nodup) := by
  refine ⟨exists_isInvalid_iff hv, ?unwritten, ?accepted, fun ids hread => ?_⟩
  case unwritten =>
    intro w hw hlong
    obtain ⟨e, he, hrefuses⟩ := read_of_firstNoId hv hw
    exact he.trans (congrArg _ (hrefuses.unwritten hlong))
  case accepted =>
    constructor
    · rintro ⟨ids, hids⟩
      exact ((read_eq_ok_iff hv).mp hids).1
    · intro h
      obtain ⟨ids, hids, -⟩ := read_of_ids hv h
      exact ⟨ids, hids⟩
  obtain ⟨-, hascends, hmem⟩ := (read_eq_ok_iff hv).mp hread
  refine ⟨hascends, hmem, read_again hv hread, fun w items' hw hitems hsame => ?_⟩
  have hread' : read w = .ok ids :=
    (read_eq_ok_iff hw).mpr ⟨hitems, hascends, fun id => (hmem id).trans (hsame id).symm⟩
  refine ⟨hread', fun m script n o ask hn hreaches ho => ⟨fun hnone => ?_, fun hsome => ?_⟩⟩
  · obtain rfl := (eq_nil_iff hw hread').mpr hnone
    exact ho.events_of_nil hn hread'
  · have hne : ids ≠ [] := mt (eq_nil_iff hw hread').mp hsome
    refine ⟨?_, ho.entries_eq ids, hascends.imp fun hlt => Std.ne_of_lt hlt⟩
    rw [ho.requests_of_ne_nil hn hread' hne, Manager.sent, if_pos hreaches]

/-- Ids that are named twice and with blanks around them, and the keys of a record. -/
theorem same_ids_of_record :
    let v : Value := .list [.text " i-2 ", .text "i-1", .text "i-2\n"]
    let w : Value := .record [("i-1", .null), ("\x1ci-2", .int 0)]
    let m := Manager.ofSettings ⟨.null, .null, .controlPlane, .standard⟩
    let o : Operation := .addInstances (.text "api-lb") w
    read v = .ok ["i-1", "i-2"] ∧ read w = .ok ["i-1", "i-2"] ∧
      (m.act ⟨[], none, none⟩ (.operate o)).requests = [.register "api-lb" ["i-1", "i-2"]] := by
  intro v w m o
  have hv : Collects v [.text " i-2 ", .text "i-1", .text "i-2\n"] := ⟨rfl, nofun⟩
  have hw : Collects w [.text "i-1", .text "\x1ci-2"] := ⟨rfl, nofun⟩
  have hids : ∀ x ∈ [Value.text "i-1", .text "\x1ci-2"], IsId x := by
    simp only [List.forall_mem_cons]
    exact ⟨⟨_, rfl, 'i', by decide, rfl⟩, ⟨_, rfl, 'i', by decide, rfl⟩, by simp⟩
  have hfirst : Text.trim " i-2 " = "i-2" := by decide
  have hlast : Text.trim "i-2\n" = "i-2" := by decide
  have hother : Text.trim "\x1ci-2" = "i-2" := by decide
  have hplain : Text.trim "i-1" = "i-1" := by decide
  have hsame : ∀ id, Names [.text "i-1", .text "\x1ci-2"] id ↔
      Names [.text " i-2 ", .text "i-1", .text "i-2\n"] id := by
    intro id
    simp only [names_text_cons, not_names_nil, hfirst, hlast, hother, hplain, or_false]
    tauto
  have hread : read v = .ok ["i-1", "i-2"] := rfl
  obtain ⟨-, -, -, hall⟩ := (ids_count_as_set hv).2.2.2 _ hread
  obtain ⟨hw', hrun⟩ := hall w _ hw hids hsame
  obtain ⟨-, hsent⟩ := hrun m ⟨[], none, none⟩ "api-lb" o (.register "api-lb") rfl rfl .add
  exact ⟨hread, hw', (hsent (by simp)).1⟩

/-- An integer is no id, and one that is too long is not refused as a value that breaks a rule. -/
theorem long_id_breaks_no_rule :
    let v : Value := .list [.int Value.leastLong]
    Collects v [.int Value.leastLong] ∧ ¬ IsId (.int Value.leastLong) ∧
      read v = .error .unwritten ∧ ¬ Rejection.unwritten.IsInvalid := by
  intro v
  have hv : Collects v [.int Value.leastLong] := ⟨rfl, by simp [v]⟩
  have hnot : ¬ IsId (.int Value.leastLong) := by simp [IsId]
  obtain ⟨e, he, hrefuses⟩ := read_of_firstNoId hv (.head hnot)
  have hunwritten := hrefuses.unwritten (.self Value.isLong_leastLong)
  exact ⟨hv, hnot, he.trans (congrArg _ hunwritten), Rejection.not_isInvalid_unwritten⟩

end Instances

end Balancer
