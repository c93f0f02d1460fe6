/-!
Control sequences: what a text holds for a terminal and not for its reader.

A sequence is an escape character, an opening bracket, parameters, intermediates and one final
character. An escape character that begins no whole sequence is a character like any other.

Main statements: a text without escape characters stays as it is (`remove_eq_self`), and no sequence
goes beyond the end of a line (`remove_append_newline`).
-/

namespace Balancer.Text.ControlSequence

def isParameter (c : Char) : Bool := 0x30 ≤ c.toNat && c.toNat ≤ 0x3F

def isIntermediate (c : Char) : Bool := 0x20 ≤ c.toNat && c.toNat ≤ 0x2F

def isFinal (c : Char) : Bool := 0x40 ≤ c.toNat && c.toNat ≤ 0x7E

/-- What follows the final character, if there is one after the parameters and intermediates. -/
def afterBody (s : List Char) : Option (List Char) :=
  match (s.dropWhile isParameter).dropWhile isIntermediate with
  | c :: r => if isFinal c then some r else none
  | [] => none

/-- What follows the control sequence that a text begins with. -/
def after : List Char → Option (List Char)
  | '\x1b' :: '[' :: r => afterBody r
  | _ => none

theorem length_lt_of_afterBody {s r : List Char} (h : afterBody s = some r) :
    r.length < s.length := by
  have h1 := (List.dropWhile_sublist isIntermediate (l := s.dropWhile isParameter)).length_le
  have h2 := (List.dropWhile_sublist isParameter (l := s)).length_le
  unfold afterBody at h
  split at h
  · next c t e =>
    split at h
    · obtain rfl := Option.some.inj h
      rw [e, List.length_cons] at h1
      omega
    · cases h
  · cases h

theorem length_lt_of_after {s r : List Char} (h : after s = some r) : r.length < s.length := by
  unfold after at h
  split at h
  · have := length_lt_of_afterBody h
    simp only [List.length_cons]
    omega
  · cases h

/-- The characters outside of control sequences, from left to right. -/
def remove (s : List Char) : List Char :=
  match s with
  | [] => []
  | c :: r =>
    match e : after (c :: r) with
    | some rest => have := length_lt_of_after e; remove rest
    | none => c :: remove r
termination_by s.length
decreasing_by
  · exact this
  · exact Nat.lt_succ_self _

@[simp] theorem remove_nil : remove [] = [] := by simp [remove]

theorem remove_of_after {s r : List Char} (h : after s = some r) : remove s = remove r := by
  cases s with
  | nil => cases h
  | cons c t =>
    rw [remove]
    split
    · next e =>
      obtain rfl := Option.some.inj (e.symm.trans h)
      rfl
    · next e => cases e.symm.trans h

theorem remove_cons {c : Char} {r : List Char} (h : after (c :: r) = none) :
    remove (c :: r) = c :: remove r := by
  rw [remove]
  split
  · next e => cases e.symm.trans h
  · rfl

theorem after_cons_of_ne {c : Char} {r : List Char} (h : c ≠ '\x1b') : after (c :: r) = none := by
  unfold after
  split
  · next e => cases e; exact absurd rfl h
  · rfl

/-- What stands before the first escape character is no part of any sequence. -/
theorem remove_append {s : List Char} (h : '\x1b' ∉ s) (t : List Char) :
    remove (s ++ t) = s ++ remove t := by
  induction s with
  | nil => rfl
  | cons c r ih =>
    rw [List.mem_cons, not_or] at h
    rw [List.cons_append, remove_cons (after_cons_of_ne (Ne.symm h.1)), ih h.2, List.cons_append]

/-- A text without escape characters has no control sequences. -/
theorem remove_eq_self {s : List Char} (h : '\x1b' ∉ s) : remove s = s := by
  have hself := remove_append h []
  rwa [List.append_nil, remove_nil, List.append_nil] at hself

theorem dropWhile_append_newline {p : Char → Bool} (h : p '\n' = false) (s t : List Char) :
    (s ++ '\n' :: t).dropWhile p = s.dropWhile p ++ '\n' :: t := by
  rw [List.dropWhile_append, List.dropWhile_cons_of_neg (by simp [h])]
  split
  · next e => rw [List.isEmpty_iff.1 e, List.nil_append]
  · rfl

theorem afterBody_append_newline (s t : List Char) :
    afterBody (s ++ '\n' :: t) = (afterBody s).map (· ++ '\n' :: t) := by
  unfold afterBody
  rw [dropWhile_append_newline (by decide), dropWhile_append_newline (by decide)]
  cases (s.dropWhile isParameter).dropWhile isIntermediate with
  | nil => rfl
  | cons c r => simp only [List.cons_append]; split <;> rfl

theorem after_append_newline (s t : List Char) :
    after (s ++ '\n' :: t) = (after s).map (· ++ '\n' :: t) := by
  match s with
  | [] => rfl
  | [c] =>
    by_cases h : c = '\x1b'
    · subst h; rfl
    · simp [after_cons_of_ne h]
  | c :: d :: r =>
    by_cases h : c = '\x1b'
    · subst h
      by_cases h : d = '['
      · subst h; exact afterBody_append_newline r t
      · simp [after, h]
    · simp [after_cons_of_ne h]

/-- Lines are free of each other: no control sequence goes beyond the end of one. -/
theorem remove_append_newline (s t : List Char) :
    remove (s ++ '\n' :: t) = remove s ++ '\n' :: remove t := by
  fun_induction remove s with
  | case1 => exact remove_cons (after_cons_of_ne (by decide))
  | case2 c r rest e h ih =>
    rw [← ih]
    exact remove_of_after (by rw [after_append_newline, e]; rfl)
  | case3 c r e ih =>
    rw [List.cons_append, remove_cons, ih, List.cons_append]
    rw [← List.cons_append, after_append_newline, e]
    rfl

/-- A text as its reader sees it. -/
def readable (s : String) : String := .ofList (remove s.toList)

theorem readable_eq_self {s : String} (h : '\x1b' ∉ s.toList) : readable s = s := by
  rw [readable, remove_eq_self h, String.ofList_toList]

end Balancer.Text.ControlSequence
