import Balancer.Proofs.Escaping
import Balancer.Proofs.Lifecycle

/-!
Names: which texts pass for one, and that requests hold no others.

The provider takes names of 1 to 32 letters, digits and hyphens of ASCII without a hyphen at an end.
Main statements: a text passes if it follows this rule, or if it would without a line feed that ends
it, and no other text does (`isValid_iff`); so the names in requests are such texts, whether they
were given to an operation or on a command line or come from the environment
(`requests_hold_names`).
-/

namespace Balancer

namespace Name

def IsLetterOrDigit (c : Char) : Prop :=
  ('A' ≤ c ∧ c ≤ 'Z') ∨ ('a' ≤ c ∧ c ≤ 'z') ∨ ('0' ≤ c ∧ c ≤ '9')

instance : DecidablePred IsLetterOrDigit := fun c =>
  inferInstanceAs (Decidable (('A' ≤ c ∧ c ≤ 'Z') ∨ ('a' ≤ c ∧ c ≤ 'z') ∨ ('0' ≤ c ∧ c ≤ '9')))

/-- The provider's rule for names. -/
structure FollowsRule (n : String) : Prop where
  length : 1 ≤ n.length ∧ n.length ≤ 32
  characters : ∀ c ∈ n.toList, IsLetterOrDigit c ∨ c = '-'
  first : n.toList.head? ≠ some '-'
  last : n.toList.getLast? ≠ some '-'

/-- The text is a line: without the line feed at its end it would follow the rule, and with it it is
no longer than a name may be. -/
def EndsLine (s : String) : Prop := ∃ n, FollowsRule n ∧ s = n ++ "\n" ∧ s.length ≤ 32

lemma isAlphanum_iff {c : Char} : c.isAlphanum = true ↔ IsLetterOrDigit c := by
  have hupper : c.isUpper = decide ('A' ≤ c ∧ c ≤ 'Z') := rfl
  have hlower : c.isLower = (decide ('a' ≤ c) && decide (c ≤ 'z')) := rfl
  have hdigit : c.isDigit = (decide ('0' ≤ c) && decide (c ≤ '9')) := rfl
  have halnum : c.isAlphanum = ((c.isUpper || c.isLower) || c.isDigit) := rfl
  simp only [halnum, hupper, hlower, hdigit, IsLetterOrDigit, Bool.or_eq_true, Bool.and_eq_true,
    decide_eq_true_eq]
  rw [or_assoc]

lemma any_isAlphanum_iff {o : Option Char} (h : ∀ c, o = some c → IsLetterOrDigit c ∨ c = '-') :
    o.any Char.isAlphanum = true ↔ o ≠ none ∧ o ≠ some '-' := by
  rcases o with _ | c
  · simp
  · have hc : IsLetterOrDigit c ∨ c = '-' := h c rfl
    rw [← isAlphanum_iff] at hc
    simp only [Option.any_some, ne_eq, reduceCtorEq, not_false_eq_true, true_and,
      Option.some.injEq]
    constructor
    · rintro halnum rfl
      cases halnum
    · exact hc.resolve_right

lemma isWellFormed_iff {s : List Char} :
    isWellFormed s = true ↔ s ≠ [] ∧ (∀ c ∈ s, IsLetterOrDigit c ∨ c = '-') ∧
      s.head? ≠ some '-' ∧ s.getLast? ≠ some '-' := by
  have hall : s.all (fun c => c.isAlphanum || c == '-') = true ↔
      ∀ c ∈ s, IsLetterOrDigit c ∨ c = '-' := by
    simp [List.all_eq_true, isAlphanum_iff]
  simp only [isWellFormed, Bool.and_eq_true, hall]
  by_cases h : ∀ c ∈ s, IsLetterOrDigit c ∨ c = '-'
  · have hhead := any_isAlphanum_iff fun c hc => h c (List.mem_of_mem_head? hc)
    have hlast := any_isAlphanum_iff fun c hc => h c (List.mem_of_getLast? hc)
    rw [hhead, hlast, Ne, List.head?_eq_none_iff, Ne, Ne, List.getLast?_eq_none_iff]
    tauto
  · tauto

lemma body_append_newline (t : List Char) : body (t ++ ['\n']) = t := by
  simp [body]

lemma body_eq_self {s : List Char} (h : s.getLast? ≠ some '\n') : body s = s := if_neg h

lemma fault?_eq_none_iff {s : List Char} :
    fault? s = none ↔ s ≠ [] ∧ '_' ∉ s ∧ '.' ∉ s ∧ ' ' ∉ s ∧ s.head? ≠ some '-' ∧
      s.getLast? ≠ some '-' ∧ isWellFormed (body s) = true ∧ s.length ≤ 32 := by
  unfold fault?
  split_ifs with hempty hline hforeign hhyphen hformed hlong
  · simp_all
  · simp_all
  · simp only [Bool.or_eq_true, List.contains_iff_mem] at hforeign
    simp only [false_iff]
    tauto
  · simp only [false_iff]
    tauto
  · simp_all
  · simp_all [maxLength]
  · simp_all [maxLength]

lemma check_text (s : String) :
    check (.text s) = match fault? s.toList with
      | some f => refuse (.text s) f
      | none => .ok s := by
  by_cases hs : s = ""
  · rw [hs]
    rfl
  · have hgiven : (Value.text s).isGiven = true := by simp [Value.isGiven, hs]
    simp only [check, hgiven]
    rfl

lemma isValid_iff_fault? {s : String} : IsValid s ↔ fault? s.toList = none := by
  rw [IsValid, check_text]
  rcases fault? s.toList with _ | f <;> simp [refuse]

lemma check_of_not_isValid {s : String} (h : ¬ IsValid s) :
    ∃ f : Fault, check (.text s) = .error (.breaking "name" (.text s) f.reason) := by
  rcases hfault : fault? s.toList with _ | f
  · exact absurd (isValid_iff_fault?.mpr hfault) h
  · exact ⟨f, by rw [check_text, hfault]; rfl⟩

/-! ### The texts that pass -/

lemma FollowsRule.ne_nil {n : String} (h : FollowsRule n) : n.toList ≠ [] := by
  have hlength : 1 ≤ n.toList.length := h.length.1
  exact List.ne_nil_of_length_pos hlength

lemma FollowsRule.isWellFormed {n : String} (h : FollowsRule n) : isWellFormed n.toList = true :=
  isWellFormed_iff.mpr ⟨h.ne_nil, h.characters, h.first, h.last⟩

lemma FollowsRule.not_mem {n : String} (h : FollowsRule n) {c : Char}
    (hc : ¬ (IsLetterOrDigit c ∨ c = '-')) : c ∉ n.toList :=
  fun hmem => hc (h.characters c hmem)

lemma fault?_of_followsRule {n : String} (h : FollowsRule n) : fault? n.toList = none := by
  have hline : n.toList.getLast? ≠ some '\n' := fun hlast =>
    h.not_mem (by decide) (List.mem_of_getLast? hlast)
  rw [fault?_eq_none_iff, body_eq_self hline]
  exact ⟨h.ne_nil, h.not_mem (by decide), h.not_mem (by decide), h.not_mem (by decide), h.first,
    h.last, h.isWellFormed, h.length.2⟩

lemma fault?_of_endsLine {s : String} (h : EndsLine s) : fault? s.toList = none := by
  obtain ⟨n, hn, rfl, hlength⟩ := h
  have hlist : (n ++ "\n").toList = n.toList ++ ['\n'] := String.toList_append
  have hfirst : (n.toList ++ ['\n']).head? = n.toList.head? := by
    rw [List.head?_append_of_ne_nil _ hn.ne_nil]
  have hnone : ∀ {c : Char}, ¬ (IsLetterOrDigit c ∨ c = '-') → c ≠ '\n' →
      c ∉ n.toList ++ ['\n'] := by
    intro c hc hne
    rw [List.mem_append, List.mem_singleton, not_or]
    exact ⟨hn.not_mem hc, hne⟩
  rw [hlist, fault?_eq_none_iff, body_append_newline, hfirst]
  refine ⟨by simp, hnone (by decide) (by decide), hnone (by decide) (by decide),
    hnone (by decide) (by decide), hn.first, by simp, hn.isWellFormed, ?_⟩
  rw [← hlist]
  exact hlength

/-- **What passes as a name** follows the rule, but for a line feed at its end. -/
theorem isValid_iff {s : String} : IsValid s ↔ FollowsRule s ∨ EndsLine s := by
  rw [isValid_iff_fault?]
  constructor
  · intro h
    obtain ⟨hne, -, -, -, hfirst, hlast, hformed, hlength⟩ := fault?_eq_none_iff.mp h
    by_cases hline : s.toList.getLast? = some '\n'
    -- the name is what stands before the line feed
    · obtain ⟨t, ht⟩ := List.getLast?_eq_some_iff.mp hline
      rw [ht, body_append_newline, isWellFormed_iff] at hformed
      obtain ⟨hne', hcharacters, hfirst', hlast'⟩ := hformed
      have hs : s = String.ofList t ++ "\n" := by
        rw [← String.toList_inj, String.toList_append, String.toList_ofList, ht]
        rfl
      have hpos : 1 ≤ t.length := List.length_pos_of_ne_nil hne'
      have hlength' : t.length ≤ 31 := by
        rw [ht, List.length_append, List.length_singleton] at hlength
        omega
      refine .inr ⟨.ofList t, ⟨?_, ?_, ?_, ?_⟩, hs, hlength⟩
      · rw [String.length_ofList]
        exact ⟨hpos, by omega⟩
      · rwa [String.toList_ofList]
      · rwa [String.toList_ofList]
      · rwa [String.toList_ofList]
    · rw [body_eq_self hline, isWellFormed_iff] at hformed
      exact .inl ⟨⟨List.length_pos_of_ne_nil hne, hlength⟩, hformed.2.1, hfirst, hlast⟩
  · rintro (h | h)
    · exact fault?_of_followsRule h
    · exact fault?_of_endsLine h

lemma EndsLine.getLast?_eq {s : String} (h : EndsLine s) : s.toList.getLast? = some '\n' := by
  obtain ⟨n, -, rfl, -⟩ := h
  rw [String.toList_append]
  exact List.getLast?_concat

lemma not_followsRule_of_endsLine {s : String} (h : EndsLine s) : ¬ FollowsRule s := by
  intro hrule
  exact hrule.not_mem (by decide) (List.mem_of_getLast? h.getLast?_eq)

end Name

/-! ### Names in requests -/

namespace Request

def Names (q : Request) (v : Value) : Prop :=
  ("LoadBalancerName", v) ∈ q.parameters ∨
    ∃ vs, ("LoadBalancerNames", .list vs) ∈ q.parameters ∧ v ∈ vs

lemma names_iff {q : Request} {v : Value} : q.Names v ↔ v = .text q.balancer := by
  cases q <;> simp [Names, parameters, balancer]

end Request

namespace Name

variable {q : Request} {v : Value}

lemma isValid_of_names_act {m : Manager} {script : Script} {a : Action}
    (hq : q ∈ (m.act script a).requests) (hv : q.Names v) : ∃ n, v = .text n ∧ IsValid n := by
  cases a with
  | operate o =>
    obtain ⟨i, hi, hbalancer⟩ := Manager.balancer_of_mem_requests hq
    exact ⟨q.balancer, Request.names_iff.mp hv, hbalancer ▸ Operation.isValid_of_read hi⟩
  | close =>
    rw [Manager.requests_close] at hq
    cases hq

end Name

namespace Cli

lemma Command.Asks.balancer_of_read {n : String} {c : Command} {port : Port} {o : Operation}
    (h : c.Asks n port o) {s : Settings} {i : Intent} (hi : o.read s = .ok i) : i.balancer = n := by
  cases h <;> simp only [Operation.read, bind_eq_ok_iff, Name.check_eq_ok_iff, pure, Except.pure,
    Except.ok.injEq, Value.text.injEq] at hi <;> grind [Intent.balancer]

lemma exists_named_of_mem_requests {env : Environment} {script : Script} {words : List String}
    {q : Request} (hq : q ∈ (run env script words).requests) :
    ∃ i : Invocation, i.IsSaidBy env words ∧ Name.IsValid (i.named env) ∧
      q.balancer = i.named env := by
  by_cases hsaid : ∃ i, Invocation.IsSaidBy env words i
  · obtain ⟨i, hi⟩ := hsaid
    obtain ⟨verbose, v, rest, hopening, hread⟩ := id hi
    by_cases hrefused : i.IsRefused env
    · obtain ⟨-, hevents, -⟩ := run_of_isRefused script hopening hread hrefused
      rw [Report.requests, hevents] at hq
      cases hq
    · obtain ⟨o, -, hasks, htells⟩ := tells_of_not_isRefused script hopening hread hrefused
      rw [htells.requests_eq Manager.requests_close] at hq
      obtain ⟨j, hj, hbalancer⟩ := Manager.balancer_of_mem_requests hq
      have hvalid : Name.IsValid (i.named env) := not_not.mp (not_or.mp hrefused).1
      exact ⟨i, hi, hvalid, hbalancer.trans (hasks.balancer_of_read hj)⟩
  · obtain ⟨-, -, hevents⟩ := run_of_unsaid script (not_exists.mp hsaid)
    rw [Report.requests, hevents] at hq
    cases hq

end Cli

/-- **Requests hold names.** A text passes for a name exactly if it follows the provider's rule or
would without a line feed that ends it, which breaks the rule, and any other text is refused as a
name that breaks a rule. What any request says the name is, in whatever run of either manager or of
a command line, is a text that passes; on a command line it is the name that is given there, or else
the environment's. -/
theorem requests_hold_names (s : String) (m : Manager) (b : BlockingManager)
    (steps : List (Action × Script)) (env : Cli.Environment) (script : Script)
    (words : List String) :
    (Name.check (.text s) = .ok s ↔ Name.FollowsRule s ∨ Name.EndsLine s) ∧
    (Name.EndsLine s → ¬ Name.FollowsRule s ∧ s.toList.getLast? = some '\n') ∧
    (¬ (Name.FollowsRule s ∨ Name.EndsLine s) →
      ∃ f : Name.Fault, Name.check (.text s) = .error (.breaking "name" (.text s) f.reason)) ∧
    (∀ x ∈ (m.runAll steps).1, ∀ q ∈ x.requests, ∀ v, q.Names v →
      ∃ n, v = .text n ∧ (Name.FollowsRule n ∨ Name.EndsLine n)) ∧
    (∀ x ∈ (b.runAll steps).1, ∀ q ∈ x.requests, ∀ v, q.Names v →
      ∃ n, v = .text n ∧ (Name.FollowsRule n ∨ Name.EndsLine n)) ∧
    ∀ q ∈ (Cli.run env script words).requests, ∀ v, q.Names v →
      ∃ i : Cli.Invocation, i.IsSaidBy env words ∧ v = .text (i.named env) ∧
        (Name.FollowsRule (i.named env) ∨ Name.EndsLine (i.named env)) := by
  refine ⟨Name.isValid_iff, fun h => ?line, fun h => ?refused, ?run, ?blocking, ?lines⟩
  case line => exact ⟨Name.not_followsRule_of_endsLine h, h.getLast?_eq⟩
  case refused => exact Name.check_of_not_isValid (mt Name.isValid_iff.mp h)
  case run =>
    intro x hx q hq v hv
    obtain ⟨m', script, a, -, rfl⟩ := Manager.exists_act_of_mem_runAll hx
    obtain ⟨n, hn, hvalid⟩ := Name.isValid_of_names_act hq hv
    exact ⟨n, hn, Name.isValid_iff.mp hvalid⟩
  case blocking =>
    intro x hx q hq v hv
    rcases BlockingManager.exists_act_of_mem_runAll hx with ⟨m', script, a, rfl⟩ | ⟨-, hnone⟩
    · obtain ⟨n, hn, hvalid⟩ := Name.isValid_of_names_act hq hv
      exact ⟨n, hn, Name.isValid_iff.mp hvalid⟩
    · rw [hnone] at hq
      cases hq
  case lines =>
    intro q hq v hv
    obtain ⟨i, hi, hvalid, hbalancer⟩ := Cli.exists_named_of_mem_requests hq
    exact ⟨i, hi, hbalancer ▸ Request.names_iff.mp hv, Name.isValid_iff.mp hvalid⟩

/-- A name that only the environment gives is held by the request that is made. -/
theorem environment_name_is_held :
    let env : Cli.Environment := ⟨some "api-lb", none, none⟩
    let q : Request := .describe "api-lb"
    (Cli.run env ⟨[], none, none⟩ ["exists"]).requests = [q] ∧ q.Names (.text "api-lb") ∧
      (Name.FollowsRule "api-lb" ∨ Name.EndsLine "api-lb") ∧ ¬ Name.EndsLine "api-lb" := by
  intro env q
  have hrequests : (Cli.run env ⟨[], none, none⟩ ["exists"]).requests = [q] := rfl
  have hnames : q.Names (.text "api-lb") := Request.names_iff.mpr rfl
  have hholds := requests_hold_names "api-lb" (.ofSettings ⟨.null, .null, .controlPlane, .standard⟩)
    (.ofSettings ⟨.null, .null, .controlPlane, .standard⟩) [] env ⟨[], none, none⟩ ["exists"]
  obtain ⟨i, -, hi, hname⟩ := hholds.2.2.2.2.2 q (hrequests ▸ List.mem_singleton_self q) _ hnames
  obtain hi : "api-lb" = i.named env := Value.text.inj hi
  rw [← hi] at hname
  exact ⟨hrequests, hnames, hname, fun h => absurd h.getLast?_eq (by decide)⟩

/-- A line passes for a name, and no rule allows it. -/
theorem line_passes_for_name :
    Name.check (.text "api-lb\n") = .ok "api-lb\n" ∧ ¬ Name.FollowsRule "api-lb\n" := by
  refine ⟨rfl, fun h => ?_⟩
  exact h.not_mem (by decide) (.tail _ (.tail _ (.tail _ (.tail _ (.tail _ (.tail _ (.head _)))))))

end Balancer
