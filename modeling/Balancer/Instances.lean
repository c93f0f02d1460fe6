import Balancer.Value.Access

/-!
The ids of instances that a caller names, as a set: an ascending list without repeats.

Main statements: the list ascends strictly (`pairwise_ofList`), and it holds exactly the given ids
(`mem_ofList`).
-/

namespace Balancer.Instances

/-- An ascending list with an id at its place. -/
def insert (id : String) : List String → List String
  | [] => [id]
  | t :: r => if id < t then id :: t :: r else if id = t then t :: r else t :: insert id r

def ofList (ids : List String) : List String := ids.foldr insert []

@[simp] theorem mem_insert {s id : String} {ids : List String} :
    s ∈ insert id ids ↔ s = id ∨ s ∈ ids := by
  induction ids with
  | nil => simp [insert]
  | cons t r ih =>
    unfold insert
    split
    · simp
    · split
      · next h => simp [h]
      · rw [List.mem_cons, ih, List.mem_cons, or_left_comm]

theorem pairwise_insert {id : String} {ids : List String} (h : ids.Pairwise (· < ·)) :
    (insert id ids).Pairwise (· < ·) := by
  induction ids with
  | nil => simp [insert]
  | cons t r ih =>
    obtain ⟨ht, hr⟩ := List.pairwise_cons.1 h
    unfold insert
    split
    · next hlt =>
      refine List.pairwise_cons.2 ⟨fun s hs => ?_, h⟩
      rcases List.mem_cons.1 hs with rfl | hs
      · exact hlt
      · exact String.lt_trans hlt (ht s hs)
    · split
      · exact h
      · next hlt hne =>
        refine List.pairwise_cons.2 ⟨fun s hs => ?_, ih hr⟩
        rcases mem_insert.1 hs with rfl | hs
        · exact Std.lt_of_le_of_ne (String.not_lt.1 hlt) (Ne.symm hne)
        · exact ht s hs

@[simp] theorem mem_ofList {s : String} {ids : List String} : s ∈ ofList ids ↔ s ∈ ids := by
  induction ids with
  | nil => simp [ofList]
  | cons t r ih =>
    rw [ofList, List.foldr_cons, mem_insert, List.mem_cons]
    exact or_congr_right ih

theorem pairwise_ofList (ids : List String) : (ofList ids).Pairwise (· < ·) := by
  induction ids with
  | nil => simp [ofList]
  | cons t r ih => exact pairwise_insert ih

/-- The id that a value is: a text that is not blank, without the blanks at its ends. -/
def readId (v : Value) : Checked String :=
  match v with
  | .text s =>
    if (Text.trim s).isEmpty then
      .error (.breaking "instance_id" v "Instance ID must be a non-empty string")
    else .ok (Text.trim s)
  | v => .error (.breaking "instance_id" v "Instance ID must be a non-empty string")

/-- The set of ids in a collection. A text is none. -/
def read (v : Value) : Checked (List String) :=
  match v with
  | .text _ => .error (.breaking "instance_ids" v "Expected a collection of IDs")
  | v => do
    let items ← v.members
    return ofList (← items.mapM readId)

end Balancer.Instances
