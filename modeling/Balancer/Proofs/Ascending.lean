import Balancer.Instances
import Balancer.Proofs.Decoding

/-!
Ascending lists: listeners by their ports, and ids.

Listeners that are bound one after the other stand in the ascending order of their ports, and it
does not matter in which order they came, as long as they have ports of their own. Texts are sorted
to the ascending list of what they are. Main statements: `ascends_bindAll`, `bindAll_eq_of_perm`,
and `sorted_texts`.
-/

namespace Balancer

namespace Listener

/-- The listeners stand in the order of their ports, of which no two are the same. -/
def Ascends (ls : List Listener) : Prop :=
  ls.Pairwise fun l m => l.frontend.number < m.frontend.number

def bindAll (ls : List Listener) : List Listener := ls.foldl (fun bound l => l.bind bound) []

variable {l m : Listener} {ls bound : List Listener}

lemma number_lt_of_not (hlt : ¬ l.frontend.number < m.frontend.number)
    (hne : ¬ l.frontend = m.frontend) : m.frontend.number < l.frontend.number := by
  have hnumber : l.frontend.number ≠ m.frontend.number := fun h => hne (by
    obtain ⟨⟨p, _, _⟩, _, _, _⟩ := l
    obtain ⟨⟨q, _, _⟩, _, _, _⟩ := m
    cases h
    rfl)
  omega

lemma mem_of_mem_bind (h : m ∈ l.bind bound) : m = l ∨ m ∈ bound := by
  induction bound with
  | nil => exact .inl (List.mem_singleton.mp h)
  | cons k r ih =>
    rw [bind] at h
    split at h
    · exact List.mem_cons.mp h
    · split at h
      · exact (List.mem_cons.mp h).imp_right (List.mem_cons_of_mem k)
      · rcases List.mem_cons.mp h with rfl | h
        · exact .inr List.mem_cons_self
        · exact (ih h).imp_right (List.mem_cons_of_mem k)

lemma Ascends.bind (h : Ascends bound) : Ascends (l.bind bound) := by
  induction bound with
  | nil => exact List.pairwise_singleton _ _
  | cons k r ih =>
    obtain ⟨hk, hr⟩ := List.pairwise_cons.mp h
    rw [Listener.bind]
    split
    · next hlt =>
      refine List.pairwise_cons.mpr ⟨fun m hm => ?_, h⟩
      rcases List.mem_cons.mp hm with rfl | hm
      · exact hlt
      · exact hlt.trans (hk m hm)
    · split
      · next hsame =>
        rw [← hsame] at hk
        exact List.pairwise_cons.mpr ⟨hk, hr⟩
      · next hlt hne =>
        refine List.pairwise_cons.mpr ⟨fun m hm => ?_, ih hr⟩
        rcases mem_of_mem_bind hm with rfl | hm
        · exact number_lt_of_not hlt hne
        · exact hk m hm

lemma ascends_foldl_bind (ls : List Listener) (h : Ascends bound) :
    Ascends (ls.foldl (fun bound l => l.bind bound) bound) := by
  induction ls generalizing bound with
  | nil => exact h
  | cons l r ih => exact ih h.bind

/-- **Bound listeners ascend.** -/
theorem ascends_bindAll (ls : List Listener) : Ascends (bindAll ls) :=
  ascends_foldl_bind ls List.Pairwise.nil

lemma bind_perm (h : ∀ m ∈ bound, l.frontend ≠ m.frontend) : (l.bind bound).Perm (l :: bound) := by
  induction bound with
  | nil => exact .refl _
  | cons k r ih =>
    rw [bind]
    split
    · exact .refl _
    · rw [if_neg (h k List.mem_cons_self)]
      exact ((ih fun m hm => h m (List.mem_cons_of_mem k hm)).cons k).trans (.swap l k r)

lemma bind_eq_map (hbound : Ascends bound) (h : ∃ m ∈ bound, l.frontend = m.frontend) :
    l.bind bound = bound.map fun m => if m.frontend = l.frontend then l else m := by
  induction bound with
  | nil =>
    obtain ⟨m, hm, -⟩ := h
    cases hm
  | cons k r ih =>
    obtain ⟨hk, hr⟩ := List.pairwise_cons.mp hbound
    obtain ⟨m, hm, hsame⟩ := h
    have hle : k.frontend.number ≤ l.frontend.number := by
      rw [hsame]
      rcases List.mem_cons.mp hm with rfl | hm
      · exact Nat.le_refl _
      · exact (hk m hm).le
    rw [bind, if_neg (by omega), List.map_cons]
    split
    -- what follows stands on higher ports
    · next heq =>
      have hrest : ∀ m ∈ r, (if m.frontend = l.frontend then l else m) = m := by
        intro m hm
        refine if_neg fun h => ?_
        have hlt := hk m hm
        rw [h, heq] at hlt
        exact Nat.lt_irrefl _ hlt
      rw [if_pos heq.symm, List.map_congr_left hrest, List.map_id']
    · next hne =>
      have hmem : m ∈ r := (List.mem_cons.mp hm).resolve_left fun h => hne (h ▸ hsame)
      rw [if_neg (Ne.symm hne), ih hr ⟨m, hmem, hsame⟩]

lemma foldl_bind_perm (hls : (ls.map frontend).Nodup)
    (h : ∀ l ∈ ls, ∀ m ∈ bound, l.frontend ≠ m.frontend) :
    (ls.foldl (fun bound l => l.bind bound) bound).Perm (ls ++ bound) := by
  induction ls generalizing bound with
  | nil => exact .refl _
  | cons l r ih =>
    rw [List.map_cons, List.nodup_cons] at hls
    have hl : (l.bind bound).Perm (l :: bound) := bind_perm (h l List.mem_cons_self)
    have hrest : ∀ k ∈ r, ∀ m ∈ l.bind bound, k.frontend ≠ m.frontend := by
      intro k hk m hm
      rcases mem_of_mem_bind hm with rfl | hm
      · exact fun hsame => hls.1 (List.mem_map.mpr ⟨k, hk, hsame⟩)
      · exact h k (List.mem_cons_of_mem l hk) m hm
    calc (r.foldl (fun bound l => l.bind bound) (l.bind bound)).Perm (r ++ l.bind bound) :=
          ih hls.2 hrest
      List.Perm _ (r ++ l :: bound) := hl.append_left r
      List.Perm _ (l :: (r ++ bound)) := List.perm_middle

/-- **The order of listeners does not matter** if they have ports of their own. -/
theorem bindAll_eq_of_perm {ls' : List Listener} (hperm : ls'.Perm ls)
    (hls : (ls.map frontend).Nodup) : bindAll ls' = bindAll ls := by
  have hls' : (ls'.map frontend).Nodup := (hperm.map frontend).nodup_iff.mpr hls
  have hkept : ∀ {ls : List Listener}, (ls.map frontend).Nodup → (bindAll ls).Perm ls := by
    intro ls hls
    have hfold : (bindAll ls).Perm (ls ++ []) :=
      @foldl_bind_perm ls [] hls fun _ _ m hm => (nomatch hm)
    rwa [List.append_nil] at hfold
  refine List.Perm.eq_of_pairwise (fun l m _ _ hlt hgt => ?_) (ascends_bindAll ls')
    (ascends_bindAll ls) ((hkept hls').trans (hperm.trans (hkept hls).symm))
  exact absurd hlt (Nat.lt_asymm hgt)

lemma exists_mem_bindAll_iff {p : Port} :
    (∃ l ∈ bindAll ls, l.frontend = p) ↔ ∃ l ∈ ls, l.frontend = p := by
  have hfind : ∀ ls : List Listener,
      (ls.find? fun l => l.frontend == p).isSome = true ↔ ∃ l ∈ ls, l.frontend = p := by
    intro ls
    simp
  rw [← hfind, bindAll, find?_foldl_bind, hfind]
  simp

lemma find?_bindAll (ls : List Listener) (p : Port) :
    (bindAll ls).find? (fun l => l.frontend == p) =
      (ls.filter fun l => l.frontend == p).getLast? := by
  rw [bindAll, find?_foldl_bind, ← List.head?_filter, List.filter_reverse, List.head?_reverse]

end Listener

/-! ### Texts -/

namespace Instances

variable {ids ids' : List String}

lemma eq_of_ascending (hids : ids.Pairwise (· < ·)) (hids' : ids'.Pairwise (· < ·))
    (h : ∀ id, id ∈ ids' ↔ id ∈ ids) : ids' = ids := by
  have hnodup : ∀ {ids : List String}, ids.Pairwise (· < ·) → ids.Nodup := fun hids =>
    hids.imp fun hlt => Std.ne_of_lt hlt
  have hperm : ids'.Perm ids := (List.perm_ext_iff_of_nodup (hnodup hids') (hnodup hids)).mpr h
  refine List.Perm.eq_of_pairwise (fun s t _ _ hlt hgt => ?_) hids' hids hperm
  exact absurd hlt (String.lt_asymm hgt)

lemma ofList_congr (h : ∀ id, id ∈ ids' ↔ id ∈ ids) : ofList ids' = ofList ids :=
  eq_of_ascending (pairwise_ofList ids) (pairwise_ofList ids') fun id => by
    rw [mem_ofList, mem_ofList, h]

end Instances

namespace Value

lemma insert_text {id : String} {ids : List String} (h : id ∉ ids) :
    insert (.text id) (ids.map .text) = (Instances.insert id ids).map .text := by
  induction ids with
  | nil => rfl
  | cons t r ih =>
    have hne : id ≠ t := fun heq => h (heq ▸ List.mem_cons_self)
    have horder : order? (.text id) (.text t) =
        some (if id < t then .lt else if id = t then .eq else .gt) := rfl
    rw [List.map_cons, insert, horder, Instances.insert, if_neg hne, if_neg hne]
    by_cases hlt : id < t
    · rw [if_pos hlt, if_pos hlt]
      rfl
    · rw [if_neg hlt, if_neg hlt, ih fun hmem => h (List.mem_cons_of_mem t hmem)]
      rfl

/-- **Texts are sorted to the ascending list of what they are.** -/
theorem sorted_texts {ids : List String} (h : ids.Nodup) :
    sorted (ids.map .text) = .ok ((Instances.ofList ids).map .text) := by
  have hnone : (ids.map Value.text).find? (fun v => (ids.map Value.text).any fun w =>
      !w.isComparable v && decide ((ids.map Value.text).length > 1)) = none := by
    simp [isComparable]
  have hinsert : ∀ ids : List String, ids.Nodup →
      (ids.map Value.text).foldr insert [] = (Instances.ofList ids).map .text := by
    intro ids
    induction ids with
    | nil => exact fun _ => rfl
    | cons id r ih =>
      intro hnodup
      obtain ⟨hid, hr⟩ := List.nodup_cons.mp hnodup
      rw [List.map_cons, List.foldr_cons, ih hr, insert_text (by rwa [Instances.mem_ofList])]
      rfl
  rw [sorted, hnone]
  exact congrArg Except.ok (hinsert ids h)

end Value

end Balancer
