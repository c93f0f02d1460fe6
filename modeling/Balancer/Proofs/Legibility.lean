import Balancer.Text.ControlSequence
import Mathlib.Tactic.Common

/-!
What a text leaves to its reader, by the grammar of control sequences.

A sequence is an escape character, an opening bracket, parameters, intermediates and one final
character, and nothing else. Main statement: a text as its reader sees it is what is left outside of
its sequences, read from the left (`leaves_iff`).
-/

namespace Balancer.Text.ControlSequence

inductive IsSequence : List Char → Prop
  | mk (parameters intermediates : List Char) (final : Char)
      (hparameters : ∀ c ∈ parameters, isParameter c = true)
      (hintermediates : ∀ c ∈ intermediates, isIntermediate c = true)
      (hfinal : isFinal final = true) :
      IsSequence ('\x1b' :: '[' :: (parameters ++ (intermediates ++ [final])))

/-- What a text leaves outside of its sequences. A character belongs to one only if it begins
one. -/
inductive Leaves : List Char → List Char → Prop
  | nil : Leaves [] []
  | sequence {q r t : List Char} (hq : IsSequence q) (hr : Leaves r t) : Leaves (q ++ r) t
  | char {c : Char} {r t : List Char} (hc : ∀ q, IsSequence q → ¬ q <+: c :: r)
      (hr : Leaves r t) : Leaves (c :: r) (c :: t)

lemma isParameter_of_isIntermediate {c : Char} (h : isIntermediate c = true) :
    isParameter c = false := by
  simp only [isIntermediate, isParameter, Bool.and_eq_true, decide_eq_true_eq,
    Bool.and_eq_false_iff, decide_eq_false_iff_not] at *
  omega

lemma not_of_isFinal {c : Char} (h : isFinal c = true) :
    isParameter c = false ∧ isIntermediate c = false := by
  simp only [isFinal, isIntermediate, isParameter, Bool.and_eq_true, decide_eq_true_eq,
    Bool.and_eq_false_iff, decide_eq_false_iff_not] at *
  omega

/-- The scan of a sequence's body ends after the first final character, and nowhere else. -/
lemma afterBody_eq_some_iff {s r : List Char} :
    afterBody s = some r ↔ ∃ ps is f, s = ps ++ (is ++ f :: r) ∧
      (∀ c ∈ ps, isParameter c = true) ∧ (∀ c ∈ is, isIntermediate c = true) ∧
        isFinal f = true := by
  constructor
  · intro h
    unfold afterBody at h
    split at h
    · next f t e =>
      split at h
      · next hf =>
        obtain rfl := Option.some.inj h
        refine ⟨s.takeWhile isParameter, (s.dropWhile isParameter).takeWhile isIntermediate, f, ?_,
          List.all_eq_true.mp List.all_takeWhile, List.all_eq_true.mp List.all_takeWhile, hf⟩
        rw [← e, List.takeWhile_append_dropWhile, List.takeWhile_append_dropWhile]
      · cases h
    · cases h
  · rintro ⟨ps, is, f, rfl, hps, his, hf⟩
    obtain ⟨hparameter, hintermediate⟩ := not_of_isFinal hf
    have hdrop : (ps ++ (is ++ f :: r)).dropWhile isParameter = is ++ f :: r := by
      rw [List.dropWhile_append_of_pos hps]
      rcases is with _ | ⟨c, is⟩
      · exact List.dropWhile_cons_of_neg (by simp [hparameter])
      · exact List.dropWhile_cons_of_neg
          (by simp [isParameter_of_isIntermediate (his c List.mem_cons_self)])
    rw [afterBody, hdrop, List.dropWhile_append_of_pos his,
      List.dropWhile_cons_of_neg (by simp [hintermediate])]
    simp [hf]

/-- What follows a sequence that a text begins with. -/
theorem after_eq_some_iff {s r : List Char} :
    after s = some r ↔ ∃ q, IsSequence q ∧ s = q ++ r := by
  constructor
  · intro h
    unfold after at h
    split at h
    · next t =>
      obtain ⟨ps, is, f, rfl, hps, his, hf⟩ := afterBody_eq_some_iff.mp h
      exact ⟨_, .mk ps is f hps his hf, by simp⟩
    · cases h
  · rintro ⟨_, ⟨ps, is, f, hps, his, hf⟩, rfl⟩
    have hbody : afterBody (ps ++ (is ++ f :: r)) = some r :=
      afterBody_eq_some_iff.mpr ⟨ps, is, f, rfl, hps, his, hf⟩
    simpa [after] using hbody

/-- **What a reader sees is what is left outside of the sequences**, and nothing else is. -/
theorem leaves_iff {s t : List Char} : Leaves s t ↔ t = remove s := by
  constructor
  · intro h
    induction h with
    | nil => exact remove_nil.symm
    | sequence hq _ ih => rw [remove_of_after (after_eq_some_iff.mpr ⟨_, hq, rfl⟩), ih]
    | @char c r t hc _ ih =>
      have hnone : after (c :: r) = none := by
        rcases hafter : after (c :: r) with _ | rest
        · rfl
        · obtain ⟨q, hq, hs⟩ := after_eq_some_iff.mp hafter
          exact absurd ⟨rest, hs.symm⟩ (hc q hq)
      rw [remove_cons hnone, ih]
  · rintro rfl
    fun_induction remove s with
    | case1 => exact .nil
    | case2 c r rest e _ ih =>
      obtain ⟨q, hq, hs⟩ := after_eq_some_iff.mp e
      rw [hs]
      exact .sequence hq ih
    | case3 c r e ih =>
      refine .char ?_ ih
      rintro q hq ⟨rest, hs⟩
      have := after_eq_some_iff.mpr ⟨q, hq, hs.symm⟩
      rw [e] at this
      cases this

lemma readable_append {s : String} (h : '\x1b' ∉ s.toList) (t : String) :
    readable (s ++ t) = s ++ readable t := by
  rw [readable, String.toList_append, remove_append h, String.ofList_append, String.ofList_toList,
    readable]

lemma readable_line (s t : String) :
    readable (s ++ "\n" ++ t) = readable s ++ "\n" ++ readable t := by
  have hlines : (s ++ "\n" ++ t).toList = s.toList ++ '\n' :: t.toList := by simp
  apply String.toList_inj.mp
  rw [readable, hlines, remove_append_newline]
  simp [readable]

end Balancer.Text.ControlSequence
