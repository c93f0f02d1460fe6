import Balancer.Proofs.Arguments
import Balancer.Proofs.Escaping
import Mathlib.Data.Finset.Card

/-!
Counting: how many instances a command line reports, and how many it asks for.

What is reported is counted on the arguments as they are given, and what is asked for is read from
them. Main statement: the number that is printed is that of the different arguments, the number of
entries that of the different ids, and so they agree exactly where no two arguments are the same but
for blanks (`counts_arguments`).
-/

namespace Balancer

lemma nodup_eraseDups {α : Type} [DecidableEq α] : (l : List α) → l.eraseDups.Nodup
  | [] => .nil
  | a :: r => by
    rw [List.eraseDups_cons, List.nodup_cons]
    exact ⟨by simp, nodup_eraseDups _⟩
termination_by l => l.length
decreasing_by exact Nat.lt_succ_of_le (List.length_filter_le ..)

lemma length_eraseDups_eq_card {α : Type} [DecidableEq α] (l : List α) :
    l.eraseDups.length = l.toFinset.card := by
  have hsame : l.eraseDups.toFinset = l.toFinset := by
    ext a
    simp
  rw [← hsame, List.toFinset_card_of_nodup (nodup_eraseDups l)]

lemma escape_not_mem_toString (k : Nat) : '\x1b' ∉ (toString k).toList := by
  intro h
  have hdigits : (toString k).toList = Nat.toDigits 10 k := by simp
  rw [hdigits] at h
  have := Nat.isDigit_of_mem_toDigits (by decide) (by decide) h
  revert this
  decide

lemma Name.escape_not_mem {n : String} (h : IsValid n) : '\x1b' ∉ n.toList := by
  rcases isValid_iff.mp h with hrule | ⟨s, hrule, rfl, -⟩
  · exact hrule.not_mem (by decide)
  · rw [String.toList_append, List.mem_append, not_or]
    exact ⟨hrule.not_mem (by decide), by decide⟩

lemma ChangesMembers.exists_read_ids {n : String} {v : Value} {o : Operation}
    {ask : List String → Request} (h : ChangesMembers n v o ask) {s : Settings} {j : Intent}
    (hread : o.read s = .ok j) : ∃ ids, Instances.read v = .ok ids := by
  cases h with
  | add => cases Operation.comesTo_of_read hread with | addInstances hids => exact ⟨_, hids⟩
  | remove => cases Operation.comesTo_of_read hread with | removeInstances hids => exact ⟨_, hids⟩

/-- Texts are read as so many ids as are different once the blanks around them are gone. -/
lemma Instances.length_of_read {given ids : List String}
    (h : read (.list (given.map .text)) = .ok ids) :
    ids.length = (given.toFinset.image Text.trim).card := by
  obtain ⟨-, hascends, hmem⟩ := (read_eq_ok_iff (collects_map_text given)).mp h
  have hnodup : ids.Nodup := hascends.imp fun hlt => Std.ne_of_lt hlt
  have hsame : ids.toFinset = given.toFinset.image Text.trim := by
    ext id
    simp [hmem, Names, Text.strips_iff, eq_comm]
  rw [← hsame, List.toFinset_card_of_nodup hnodup]

namespace Cli

inductive Command.Counts (n : String) (ids : List String) (k : Nat) : Command → String → Prop
  | added : Counts n ids k (.addInstances ids)
      ("✓ Registered " ++ toString k ++ " instance(s) with " ++ n ++ "\n")
  | removed : Counts n ids k (.removeInstances ids)
      ("✓ Deregistered " ++ toString k ++ " instance(s) from " ++ n ++ "\n")

inductive Command.GivesIds (ids : List String) : Command → Prop
  | add : GivesIds ids (.addInstances ids)
  | remove : GivesIds ids (.removeInstances ids)

section

variable {env : Environment} {script : Script} {words : List String} {i : Invocation}
  {ids : List String}

lemma readable_line_of_count {front middle n : String} (k : Nat) (hfront : '\x1b' ∉ front.toList)
    (hmiddle : '\x1b' ∉ middle.toList) (hn : Name.IsValid n) :
    Text.ControlSequence.readable (front ++ toString k ++ middle ++ n ++ "\n") =
      front ++ toString k ++ middle ++ n ++ "\n" := by
  refine Text.ControlSequence.readable_eq_self ?_
  simp only [String.toList_append, List.mem_append, not_or]
  exact ⟨⟨⟨⟨hfront, escape_not_mem_toString k⟩, hmiddle⟩, Name.escape_not_mem hn⟩, by decide⟩

lemma Command.GivesIds.counts {c : Command} (h : c.GivesIds ids) {n : String} (hn : Name.IsValid n)
    (o : Operation) (a : Outcome) :
    c.Counts n ids ids.toFinset.card
      (Text.ControlSequence.readable (conclusion c n o a).output) := by
  cases h with
  | add =>
    have hline : (conclusion (.addInstances ids) n o a).output =
        "✓ Registered " ++ toString ids.toFinset.card ++ " instance(s) with " ++ n ++ "\n" := by
      rw [← length_eraseDups_eq_card]
      rfl
    rw [hline, readable_line_of_count _ (by decide) (by decide) hn]
    exact .added
  | remove =>
    have hline : (conclusion (.removeInstances ids) n o a).output =
        "✓ Deregistered " ++ toString ids.toFinset.card ++ " instance(s) from " ++ n ++ "\n" := by
      rw [← length_eraseDups_eq_card]
      rfl
    rw [hline, readable_line_of_count _ (by decide) (by decide) hn]
    exact .removed

lemma Command.GivesIds.announcement_eq (h : i.command.GivesIds ids) (n : String) :
    announcement i n = "" := by
  generalize hc : i.command = c at h
  cases h <;> simp only [announcement, hc]

lemma Command.GivesIds.changesMembers {c : Command} (h : c.GivesIds ids) {n : String} {port : Port}
    {o : Operation} (hasks : c.Asks n port o) :
    ∃ ask, ChangesMembers n (.list (ids.map .text)) o ask := by
  cases h <;> cases hasks
  · exact ⟨_, .add⟩
  · exact ⟨_, .remove⟩

lemma answered_of_exitCode (hsaid : i.IsSaidBy env words)
    (hcode : (run env script words).printed.exitCode = 0) :
    Name.IsValid (i.named env) ∧ ∃ port o a, i.command.Asks (i.named env) port o ∧
      let x := (Manager.ofSettings i.settings).act script (.operate o)
      x.result = .ok a ∧ (run env script words).requests = x.requests ∧
      (run env script words).printed.output = Text.ControlSequence.readable
        (announcement i (i.named env) ++ (conclusion i.command (i.named env) o a).output) := by
  obtain ⟨verbose, v, rest, hopening, hread⟩ := hsaid
  by_cases hrefused : i.IsRefused env
  · rw [(run_of_isRefused script hopening hread hrefused).1] at hcode
    cases hcode
  obtain ⟨o, ho, hasks, htells⟩ := tells_of_not_isRefused script hopening hread hrefused
  set m := Manager.ofSettings i.settings
  rcases hused : (m.useOnce script o).result with e | a
  · rw [m.result_useOnce] at hused
    rw [(htells.failed e hused).1] at hcode
    cases hcode
  · have hrun : run env script words = _ := run_of_read hopening hread
    rw [Invocation.run_of_answered ho hused] at hrun
    rw [m.result_useOnce] at hused
    obtain ⟨-, -, hx⟩ := bind_eq_ok_iff.mp hused
    refine ⟨not_not.mp (not_or.mp hrefused).1, _, o, a, hasks, hx,
      htells.requests_eq Manager.requests_close, ?_⟩
    rw [hrun]
    rfl

end

/-- **The arguments are counted as they are given.** A command line that adds or removes instances
and ends with code 0 reports the number of the different arguments. Without arguments nothing is
asked for; else there is one request, and its entries are as many as there are different arguments
once the blanks around them are gone. So never more instances are asked for than are reported, and
as many exactly where no two different arguments are the same but for blanks. -/
theorem counts_arguments {env : Environment} {script : Script} {words : List String}
    {i : Invocation} {ids : List String} (hsaid : i.IsSaidBy env words)
    (hids : i.command.GivesIds ids) (hcode : (run env script words).printed.exitCode = 0) :
    let report := run env script words
    let k := ids.toFinset.card
    i.command.Counts (i.named env) ids k report.printed.output ∧
    (ids = [] → report.requests = [] ∧ k = 0) ∧
    (ids ≠ [] → ∃ q, report.requests = [q] ∧
      q.entries.length = (ids.toFinset.image Text.trim).card ∧ q.entries.length ≤ k ∧
      (q.entries.length = k ↔ Set.InjOn Text.trim {id | id ∈ ids})) := by
  intro report k
  obtain ⟨hn, port, o, a, hasks, hx, hrequests, houtput⟩ := answered_of_exitCode hsaid hcode
  obtain ⟨ask, hask⟩ := hids.changesMembers hasks
  obtain ⟨j, hread, -⟩ := Manager.answers_of_act hx
  obtain ⟨asked, hasked⟩ := hask.exists_read_ids hread
  have hnil : asked = [] ↔ ids = [] := by
    rw [Instances.eq_nil_iff (Instances.collects_map_text ids) hasked, List.map_eq_nil_iff]
  refine ⟨?line, fun hnone => ?none, fun hsome => ?some⟩
  case line =>
    rw [hids.announcement_eq, String.empty_append] at houtput
    exact houtput ▸ hids.counts hn o a
  case none =>
    obtain rfl := hnil.mpr hnone
    have hevents : ((Manager.ofSettings i.settings).act script (.operate o)).events = [] :=
      hask.events_of_nil hn hasked
    constructor
    · rw [hrequests, Execution.requests, hevents]
      rfl
    · subst hnone
      rfl
  case some =>
    have hne : asked ≠ [] := mt hnil.mp hsome
    have hreaches := hask.reaches_of_result_ok hn hasked hne hx
    have hlength : (ask asked).entries.length = (ids.toFinset.image Text.trim).card := by
      rw [hask.entries_eq, List.length_map, Instances.length_of_read hasked]
    refine ⟨ask asked, ?_, hlength, hlength ▸ Finset.card_image_le, ?_⟩
    · rw [hrequests, hask.requests_of_ne_nil hn hasked hne, Manager.sent, if_pos hreaches]
    · rw [hlength, Finset.card_image_iff, List.coe_toFinset]

/-- Arguments that are given twice are counted once. -/
theorem two_of_three_counted :
    let env : Environment := ⟨none, none, none⟩
    let rest := ["--name", "api-lb", "i-2", "i-1", "i-2"]
    let script : Script := ⟨[.ok (.record [])], none, none⟩
    let ids := ["i-2", "i-1", "i-2"]
    let i : Invocation := ⟨some "api-lb", none, none, .addInstances ids⟩
    let report := run env script ("add-instances" :: rest)
    i.IsSaidBy env ("add-instances" :: rest) ∧ i.command.GivesIds ids ∧
      report.printed.exitCode = 0 ∧ i.command.Counts "api-lb" ids 2 report.printed.output ∧
      ∃ q, report.requests = [q] ∧ q.entries.length = 2 := by
  intro env rest script ids i report
  have hsaid : i.IsSaidBy env ("add-instances" :: rest) := ⟨false, .addInstances, rest, rfl, rfl⟩
  have hcode : report.printed.exitCode = 0 := rfl
  have htrimmed : (ids.toFinset.image Text.trim).card = 2 := by decide
  obtain ⟨hline, -, hsome⟩ := counts_arguments hsaid .add hcode
  obtain ⟨q, hq, hlength, -⟩ := hsome (by decide)
  exact ⟨hsaid, .add, hcode, hline, q, hq, hlength.trans htrimmed⟩

/-- An argument that is given once more with blanks around it is counted twice. -/
theorem one_of_two_counted :
    let env : Environment := ⟨none, none, none⟩
    let report := run env ⟨[.ok (.record [])], none, none⟩
      ["add-instances", "--name", "api-lb", "i-1", " i-1 "]
    report.printed.exitCode = 0 ∧
      report.printed.output = "✓ Registered 2 instance(s) with api-lb\n" ∧
      report.requests = [.register "api-lb" ["i-1"]] ∧
      (Request.register "api-lb" ["i-1"]).entries.length = 1 := by
  intro env report
  have hline : report.printed.output =
      Text.ControlSequence.readable "✓ Registered 2 instance(s) with api-lb\n" := rfl
  refine ⟨rfl, ?_, rfl, rfl⟩
  rw [hline, Text.ControlSequence.readable_eq_self (by decide)]

end Cli

end Balancer
