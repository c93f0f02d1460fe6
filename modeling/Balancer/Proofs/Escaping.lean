import Balancer.Proofs.Appearance
import Balancer.Proofs.Ending

/-!
Escaping: which errors leave a command line untold.

Whatever an operation or its closing fails with is told, if it has a text. Only then is the answer
told, and there may be no words for it. Main statement: an error escapes exactly from telling what
has no words (`escapes_exactly_from_telling`).
-/

namespace Balancer

/-! ### Failures without a text -/

lemma Plan.isSome_text?_report (q : Request) (f : RemoteFault) :
    (Failure.service (report q f)).text?.isSome :=
  ServiceFailure.isSome_text?_ofError_iff.mpr ⟨by simp [Value.IsLong], by simp [Value.IsLong]⟩

lemma isSome_text?_of_sought {n : String} {a : Answer} {e : Raised}
    (h : sought n a.told = .error e) : e.failure.text?.isSome := by
  obtain ⟨f, -, rfl⟩ | ⟨g, hg, -⟩ | ⟨r, rfl⟩ := sought_error_cases h
  · exact Plan.isSome_text?_report _ f
  · rcases a with f | v <;> cases hg
  · rfl

lemma isSome_text?_of_verdict {n : String} {l : Listener} {f : RemoteFault}
    {d : Option Description} {e : Raised} (h : Plan.verdict n l f d = .error e) :
    e.failure.text?.isSome := by
  rcases d with _ | d
  · cases h
    rfl
  · rw [Plan.verdict] at h
    split at h
    · cases h
    · cases h
      have haside : (Failure.aside "" (.text f.message)).isSome :=
        Failure.isSome_aside_iff.mpr (by simp [Value.IsLong])
      obtain ⟨s, hs⟩ := Option.isSome_iff_exists.mp haside
      simp [Failure.text?, hs]

lemma Course.isSome_text? {s : Settings} {i : Intent} {t : List Exchange} {e : Raised}
    (h : Course s i t (.error e)) : e.failure.text?.isSome := by
  generalize hr : (Except.error e : Except Raised Outcome) = r at h
  cases h with
  | refused | unattached | unnamed | absent =>
    cases hr
    rfl
  | @unmonitored n subnets l v dnsName f hv =>
    cases hr
    by_cases hlong : dnsName.Holds Value.IsLong
    · rw [Plan.unchecked_of_holds hlong]
      rfl
    · rw [Plan.unchecked_of_not_holds hlong]
      exact Failure.isSome_text?_healthCheck.mpr hlong
  | @settled n l f a hf =>
    rcases hsought : sought n a.told with e' | d
    · rw [hsought] at hr
      cases hr
      exact isSome_text?_of_sought hsought
    · rw [hsought] at hr
      exact isSome_text?_of_verdict hr.symm
  | troubled hq hne hf =>
    cases hr
    exact Plan.isSome_text?_report _ _
  | @asked n a b =>
    rcases hsought : sought n a.told with e' | d
    · rw [hsought] at hr
      cases hr
      exact isSome_text?_of_sought hsought
    · rw [hsought] at hr
      cases b <;> cases d <;> cases hr
      rfl
  | _ => cases hr

/-- Only an error from outside may have no text. -/
lemma Manager.foreign_of_untold {m : Manager} {script : Script} {a : Action} {e : Raised}
    (h : (m.act script a).result = .error e) (htext : e.failure.text? = none) :
    ∃ g : ForeignError, e = .bare (.remote (.foreign g)) ∧ g.text? = none := by
  cases a with
  | close =>
    obtain hresult | ⟨g, hresult⟩ := @result_close m script
    · cases hresult.symm.trans h
    · cases hresult.symm.trans h
      rcases g with f | g
      · cases htext
      · exact ⟨g, rfl, htext⟩
  | operate o =>
    rcases hread : o.read m.settings with r | i
    · rw [act_of_read_error hread] at h
      cases h
      cases htext
    · rw [act_of_read_ok hread] at h
      rcases Connection.yields_or_foreign (i.plan m.settings) with ⟨t, ht, -⟩ | ⟨g, hg, -⟩
      · rw [h] at ht
        have hsome := (Plan.course_of_yields (Operation.isValid_of_read hread) ht).isSome_text?
        rw [htext] at hsome
        cases hsome
      · cases hg.symm.trans h
        exact ⟨g, rfl, htext⟩

lemma Manager.foreign_of_left {m : Manager} {script : Script} {o : Operation} {e : Raised}
    (h : let x := m.act script (.operate o)
      (((m.next x).act script .close).result >>= fun _ => x.result) = .error e)
    (htext : e.failure.text? = none) :
    ∃ g : ForeignError, e = .bare (.remote (.foreign g)) ∧ g.text? = none := by
  let x := m.act script (.operate o)
  rcases hy : ((m.next x).act script .close).result with e' | u
  · obtain rfl : e' = e := Except.error.inj ((congrArg (· >>= fun _ => x.result) hy).symm.trans h)
    exact foreign_of_untold hy htext
  · exact foreign_of_untold ((congrArg (· >>= fun _ => x.result) hy).symm.trans h) htext

section Provisioned

variable {n n' : String} {subnets : List String} {l : Listener} {check : HealthCheck}
  {v w dnsName : Value} {s : Settings} {i : Intent} {t : List Exchange}

lemma Course.of_dnsName (h : Course s i t (.ok (.dnsName dnsName))) :
    ∃ n subnets l v w, i = .provision n subnets l ∧
      t = [(.create n subnets l, .ok v), (.attach n s.healthCheck, .ok w)] ∧
      Plan.named v = .ok dnsName := by
  have hanswers := h.answers
  generalize hr : (Except.ok (.dnsName dnsName) : Except Raised Outcome) = r at h
  cases h with
  | provisioned hv =>
    cases hr
    exact ⟨_, _, _, _, _, rfl, rfl, hv⟩
  | @settled n l f a hf => cases hanswers
  | asked b =>
    obtain ⟨d, -, hd⟩ := bind_eq_ok_iff.mp hr.symm
    cases b <;> cases d <;> cases hd
  | _ => cases hr

lemma Manager.talk_of_dnsName {m : Manager} {script : Script} {o : Operation} {dnsName : Value}
    (h : (m.act script (.operate o)).result = .ok (.dnsName dnsName)) :
    ∃ n subnets l v w, o.read m.settings = .ok (.provision n subnets l) ∧
      converse (m.act script (.operate o)).requests script.replies =
        [(.create n subnets l, .ok v), (.attach n m.settings.healthCheck, .ok w)] ∧
      Plan.named v = .ok dnsName := by
  rcases hread : o.read m.settings with r | i
  · rw [act_of_read_error hread] at h
    cases h
  rw [act_of_read_ok hread] at h ⊢
  obtain ⟨t, ht, htalk, hlost⟩ | ⟨g, hg, -⟩ := Connection.yields_or_foreign (i.plan m.settings)
  · rw [h] at ht
    obtain ⟨n, subnets, l, v, w, rfl, rfl, hnamed⟩ :=
      (Plan.course_of_yields (Operation.isValid_of_read hread) ht).of_dnsName
    refine ⟨n, subnets, l, v, w, rfl, htalk ?_, hnamed⟩
    rcases hreaches : m.connection.reaches script.openError with _ | _
    · obtain ⟨f, hf⟩ := (hlost hreaches).2 _ List.mem_cons_self
      cases hf
    · rfl
  · cases hg.symm.trans h

lemma Course.of_provisioned {r : Except Raised Outcome} (h : Course s i t r)
    (ht : t.map Exchange.told = [(.create n subnets l, .ok v), (.attach n' check, .ok w)])
    (hv : Plan.named v = .ok dnsName) :
    i = .provision n subnets l ∧ r = .ok (.dnsName dnsName) := by
  have htalk : t = [(.create n subnets l, .ok v), (.attach n' check, .ok w)] :=
    List.map_injective_iff.mpr Exchange.told_injective ht
  subst htalk
  cases h with
  | provisioned hnamed =>
    cases hnamed.symm.trans hv
    exact ⟨rfl, rfl⟩

end Provisioned

namespace Cli

def Invocation.IsSaidBy (env : Environment) (words : List String) (i : Invocation) : Prop :=
  ∃ verbose v rest, readOpening words = .ok (.verb verbose v rest) ∧
    readCommand env v rest = .ok (.invocation i)

variable {env : Environment} {words rest : List String} {verbose : Bool} {v : Verb} {i : Invocation}

lemma run_of_unsaid (script : Script) (h : ∀ i, ¬ Invocation.IsSaidBy env words i) :
    let report := run env script words
    report.printed.escaped = none ∧ (report.printed.exitCode = 0 ∨ report.printed.exitCode = 2) ∧
      report.events = [] := by
  simp only [run, perform, Printed.readable]
  rcases hopening : readOpening words with e | _ | _ | _ | ⟨verbose, v, rest⟩
  · exact ⟨rfl, .inr rfl, rfl⟩
  · exact ⟨rfl, .inr rfl, rfl⟩
  · exact ⟨rfl, .inl rfl, rfl⟩
  · exact ⟨rfl, .inl rfl, rfl⟩
  dsimp only
  rcases hread : readCommand env v rest with e | _ | i
  · exact ⟨rfl, .inr rfl, rfl⟩
  · exact ⟨rfl, .inl rfl, rfl⟩
  · exact absurd ⟨verbose, v, rest, hopening, hread⟩ (h i)

lemma escaped_of_isRefused (script : Script)
    (hopening : readOpening words = .ok (.verb verbose v rest))
    (hread : readCommand env v rest = .ok (.invocation i)) (h : i.IsRefused env) :
    (run env script words).printed.escaped = none := by
  obtain ⟨e, he⟩ := (Invocation.resolve_eq env (inRange_of_readCommand hread)).1 h
  rw [run_of_read hopening hread, Invocation.run_of_refused he]
  rfl

/-- A command line comes to an answer, or to a failure, that it has no words for. -/
inductive LacksWords (env : Environment) (script : Script) (words : List String) (i : Invocation) :
    Prop
  | description {format : Format} {d : Description} (hcommand : i.command = .describe format)
      (hn : Name.IsValid (i.named env)) (hcloses : script.ClosesWell)
      (hfound : sought (i.named env) script.firstReply = .ok (some d))
      (h : ¬ IsPresentable format d)
  | existence {d : Description} (hcommand : i.command = .existence)
      (hn : Name.IsValid (i.named env)) (hcloses : script.ClosesWell)
      (hfound : sought (i.named env) script.firstReply = .ok (some d))
      (h : d.dnsName.Holds Value.IsLong)
  | provision {n n' : String} {subnets : List String} {l : Listener} {check : HealthCheck}
      {v w dnsName : Value} (hcloses : script.ClosesWell)
      (htalk : converse (run env script words).requests script.replies =
        [(.create n subnets l, .ok v), (.attach n' check, .ok w)])
      (hnamed : Plan.named v = .ok dnsName) (h : dnsName.Holds Value.IsLong)
  | failure {n : String} {o : Operation} {g : ForeignError} (hresolve : i.resolve env = .ok (n, o))
      (hleft : ((Manager.ofSettings i.settings).useOnce script o).result =
        .error (.bare (.remote (.foreign g))))
      (h : g.text? = none)

namespace Report

variable {report : Report} {c : Command} {x y : Execution Outcome}

lemma Tells.escaped_iff (h : report.Tells c x y) :
    report.printed.escaped ≠ none ↔
      (∃ e, (y.result >>= fun _ => x.result) = .error e ∧ e.failure.text? = none) ∨
        ∃ a, (y.result >>= fun _ => x.result) = .ok a ∧ ¬ c.CanTell a := by
  rcases hleft : (y.result >>= fun _ => x.result) with e | a
  · have hfails := h.failed e hleft
    rcases htext : e.failure.text? with _ | text
    · simp [(hfails.untold htext).2, htext]
    · simp [(hfails.told (by rw [htext]; rfl)).2, htext]
  · have hconcludes := (h.answered a hleft).2
    by_cases htell : c.CanTell a
    · simp [(hconcludes.told htell).1, htell]
    · obtain ⟨-, r, hr⟩ := hconcludes.untold htell
      simp [hr, htell]

lemma Tells.ends (h : report.Tells c x y) :
    let p := report.printed
    (p.exitCode = 0 ∨ p.exitCode = 1 ∨ p.exitCode = 2) ∧
      (p.escaped ≠ none →
        p.exitCode = 1 ∧ p.errors = "" ∧ ∃ r, p.escaped = some (.rejected r)) := by
  intro p
  rcases hleft : (y.result >>= fun _ => x.result) with e | a
  · obtain ⟨hcode, htold, huntold⟩ := h.failed e hleft
    refine ⟨.inr (.inl hcode), fun hescaped => ?_⟩
    rcases htext : e.failure.text? with _ | text
    · exact ⟨hcode, (huntold htext).1, _, (huntold htext).2⟩
    · exact absurd (htold (by rw [htext]; rfl)).2 hescaped
  · obtain ⟨herrors, htold, huntold⟩ := (h.answered a hleft).2
    by_cases htell : c.CanTell a
    · obtain ⟨hescaped, hcode⟩ := htold htell
      refine ⟨?_, fun h => absurd hescaped h⟩
      split at hcode
      · exact .inr (.inr hcode)
      · exact .inl hcode
    · obtain ⟨hcode, hescaped⟩ := huntold htell
      exact ⟨.inr (.inl hcode), fun _ => ⟨hcode, herrors, hescaped⟩⟩

end Report

lemma Command.canTell_dnsName_iff {c : Command} {v : Value} (h : c.Answers (.dnsName v)) :
    c.CanTell (.dnsName v) ↔ ¬ v.Holds Value.IsLong := by
  cases c <;> simp_all [Command.Answers, Command.CanTell]

lemma Command.untold_cases {c : Command} {a : Outcome} (ha : c.Answers a) (h : ¬ c.CanTell a) :
    (∃ format d, c = .describe format ∧ a = .description (some d) ∧ ¬ IsPresentable format d) ∨
    (∃ v, c = .existence ∧ a = .existence true v ∧ v.Holds Value.IsLong) ∨
    ∃ v, a = .dnsName v ∧ v.Holds Value.IsLong := by
  cases c with
  | provision subnets port =>
    obtain ⟨v, rfl⟩ := ha
    exact .inr (.inr ⟨v, rfl, not_not.mp h⟩)
  | existence =>
    obtain ⟨_ | _, v, rfl⟩ := ha
    · exact absurd trivial h
    · exact .inr (.inl ⟨v, rfl, rfl, not_not.mp h⟩)
  | describe format =>
    obtain ⟨d, rfl⟩ := ha
    exact .inl ⟨format, d, rfl, rfl, h⟩
  | _ => exact absurd trivial h

lemma found_of_left {script : Script} {b : Question} {a : Outcome} (hn : Name.IsValid (i.named env))
    (hleft : let m := Manager.ofSettings i.settings
      let x := m.act script (.operate (b.operation (i.named env)))
      (((m.next x).act script .close).result >>= fun _ => x.result) = .ok a) :
    script.ClosesWell ∧ ∃ d, sought (i.named env) script.firstReply = .ok d ∧
      b.answer (i.named env) d = .ok a := by
  obtain ⟨-, hwell, hill⟩ := Manager.context_of_question script i.settings hn b
  by_cases hcloses : script.ClosesWell
  · exact ⟨hcloses, bind_eq_ok_iff.mp ((hwell hcloses).symm.trans hleft)⟩
  · obtain ⟨e, he⟩ := hill hcloses
    cases he.symm.trans hleft

section Said

variable (script : Script) (hopening : readOpening words = .ok (.verb verbose v rest))
  (hread : readCommand env v rest = .ok (.invocation i))

include hopening hread

lemma escaped_of_question {b : Question} {d : Description} {a : Outcome}
    (hb : i.command.question? = some b) (hn : Name.IsValid (i.named env))
    (hcloses : script.ClosesWell) (hfound : sought (i.named env) script.firstReply = .ok (some d))
    (hanswer : b.answer (i.named env) (some d) = .ok a) (h : ¬ i.command.CanTell a) :
    (run env script words).printed.escaped ≠ none := by
  have htells := tells_of_question script hopening hread hb hn
  obtain ⟨-, hwell, -⟩ := Manager.context_of_question script i.settings hn b
  rw [htells.escaped_iff, hwell hcloses, hfound, ok_bind]
  exact .inr ⟨a, hanswer, h⟩

lemma escaped_of_provision {n n' : String} {subnets : List String} {l : Listener}
    {check : HealthCheck} {u w dnsName : Value} (hcloses : script.ClosesWell)
    (htalk : converse (run env script words).requests script.replies =
      [(.create n subnets l, .ok u), (.attach n' check, .ok w)])
    (hnamed : Plan.named u = .ok dnsName) (h : dnsName.Holds Value.IsLong) :
    (run env script words).printed.escaped ≠ none := by
  have hfit : ¬ i.IsRefused env := by
    intro hrefused
    have hevents := (run_of_isRefused script hopening hread hrefused).2.1
    rw [Report.requests, hevents] at htalk
    cases htalk
  obtain ⟨o, -, hasks, htells⟩ := tells_of_not_isRefused script hopening hread hfit
  rw [htells.requests_eq Manager.requests_close] at htalk
  obtain ⟨-, j, hintent, hcourse⟩ := Manager.course_of_told
    (e := (.create n subnets l, .ok u)) (t := [(.attach n' check, .ok w)]) htalk
  obtain ⟨rfl, hresult⟩ := hcourse.of_provisioned rfl hnamed
  have hleft := (Manager.context_of_asksFirst script hintent
    (Intent.asksFirst_provision ..)).2.1 hcloses
  have hanswers := (htells.answered _ (hleft.trans hresult)).1
  rw [htells.escaped_iff, hleft, hresult]
  exact .inr ⟨_, rfl, fun htell => (Command.canTell_dnsName_iff hanswers).mp htell h⟩

lemma lacksWords_of_escaped (h : (run env script words).printed.escaped ≠ none) :
    LacksWords env script words i := by
  by_cases hrefused : i.IsRefused env
  · exact absurd (escaped_of_isRefused script hopening hread hrefused) h
  have hn : Name.IsValid (i.named env) := not_not.mp (not_or.mp hrefused).1
  obtain ⟨o, hresolve, hasks, htells⟩ := tells_of_not_isRefused script hopening hread hrefused
  rcases htells.escaped_iff.mp h with ⟨e, hleft, htext⟩ | ⟨a, hleft, huntold⟩
  · obtain ⟨g, rfl, hg⟩ := Manager.foreign_of_left hleft htext
    exact .failure hresolve ((Manager.result_useOnce _ _ _).trans hleft) hg
  rcases Command.untold_cases (htells.answered a hleft).1 huntold with
    ⟨format, d, hcommand, rfl, hshown⟩ | ⟨w, hcommand, rfl, hlong⟩ | ⟨w, rfl, hlong⟩
  · obtain rfl := hasks.eq_of_question (b := .describe) (by rw [hcommand]; rfl)
    obtain ⟨hcloses, _ | d', hfound, ha⟩ := found_of_left hn hleft
    · cases ha
    · cases ha
      exact .description hcommand hn hcloses hfound hshown
  · obtain rfl := hasks.eq_of_question (b := .existence) (by rw [hcommand]; rfl)
    obtain ⟨hcloses, _ | d', hfound, ha⟩ := found_of_left hn hleft
    · cases ha
    · cases ha
      exact .existence hcommand hn hcloses hfound hlong
  · obtain ⟨-, -, hx⟩ := bind_eq_ok_iff.mp hleft
    obtain ⟨n, subnets, l, v, w', hintent, htalk, hnamed⟩ := Manager.talk_of_dnsName hx
    rw [← htells.requests_eq Manager.requests_close] at htalk
    have hcloses : script.ClosesWell := by
      by_contra hnot
      obtain ⟨-, -, hill⟩ := Manager.context_of_asksFirst script hintent
        (Intent.asksFirst_provision ..)
      obtain ⟨e, -, he⟩ := hill hnot
      cases he.symm.trans hleft
    exact .provision hcloses htalk hnamed hlong

lemma escaped_of_lacksWords (h : LacksWords env script words i) :
    (run env script words).printed.escaped ≠ none := by
  cases h with
  | description hcommand hn hcloses hfound h =>
    refine escaped_of_question script hopening hread (b := .describe) (by rw [hcommand]; rfl) hn
      hcloses hfound rfl ?_
    rw [hcommand]
    exact h
  | existence hcommand hn hcloses hfound h =>
    refine escaped_of_question script hopening hread (b := .existence) (by rw [hcommand]; rfl) hn
      hcloses hfound rfl ?_
    rw [hcommand]
    exact not_not.mpr h
  | provision hcloses htalk hnamed h =>
    exact escaped_of_provision script hopening hread hcloses htalk hnamed h
  | failure hresolve hleft h =>
    rw [run_of_read hopening hread, Invocation.run_of_failed hresolve hleft]
    simp [failed, Failure.text?, Raised.bare, RemoteError.text?, h, escaping, Printed.readable]

end Said

lemma ends_of_said (h : i.IsSaidBy env words) (script : Script) :
    let p := (run env script words).printed
    (p.exitCode = 0 ∨ p.exitCode = 1 ∨ p.exitCode = 2) ∧
      (p.escaped ≠ none →
        p.exitCode = 1 ∧ p.errors = "" ∧ ∃ r, p.escaped = some (.rejected r)) := by
  intro p
  obtain ⟨verbose, v, rest, hopening, hread⟩ := h
  by_cases hrefused : i.IsRefused env
  · have hcode : p.exitCode = 2 := (run_of_isRefused script hopening hread hrefused).1
    have hescaped : p.escaped = none := escaped_of_isRefused script hopening hread hrefused
    exact ⟨.inr (.inr hcode), fun h => absurd hescaped h⟩
  · obtain ⟨o, -, -, htells⟩ := tells_of_not_isRefused script hopening hread hrefused
    exact htells.ends

/-- **An error escapes exactly from telling what has no words.** Every run ends with exit code 0, 1
or 2, and whatever an operation or its closing fails with is told, unless it is an error from
outside that has no text. Nor are there words for a description that cannot be shown, and for a DNS
name that cannot be written. Exactly from these an error leaves the program untold; then the exit
code is 1 all the same. -/
theorem escapes_exactly_from_telling (env : Environment) (script : Script) (words : List String) :
    let p := (run env script words).printed
    (p.exitCode = 0 ∨ p.exitCode = 1 ∨ p.exitCode = 2) ∧
    (p.escaped ≠ none ↔
      ∃ i : Invocation, i.IsSaidBy env words ∧ LacksWords env script words i) ∧
    (p.escaped ≠ none → p.exitCode = 1 ∧ p.errors = "" ∧ ∃ r, p.escaped = some (.rejected r)) ∧
    ∀ (i : Invocation) (n : String) (o : Operation) (e : Raised), i.IsSaidBy env words →
      i.resolve env = .ok (n, o) →
      ((Manager.ofSettings i.settings).useOnce script o).result = .error e →
      p.exitCode = 1 ∧
      (e.failure.text?.isSome → p.escaped = none ∧ TellsFailure p.errors e.failure) ∧
      (e.failure.text? = none →
        ∃ g : ForeignError, e = .bare (.remote (.foreign g)) ∧ g.text? = none) := by
  intro p
  by_cases hsaid : ∃ i, Invocation.IsSaidBy env words i
  case neg =>
    obtain ⟨hescaped, hcode, -⟩ := run_of_unsaid script (not_exists.mp hsaid)
    exact ⟨hcode.imp_right .inr,
      ⟨fun h => absurd hescaped h, fun ⟨i, hi, _⟩ => absurd ⟨i, hi⟩ hsaid⟩,
      fun h => absurd hescaped h, fun i _ _ _ hi => absurd ⟨i, hi⟩ hsaid⟩
  obtain ⟨i, hi⟩ := hsaid
  obtain ⟨hcodes, huntold⟩ := ends_of_said hi script
  refine ⟨hcodes, ⟨fun h => ⟨i, hi, ?lacking⟩, ?escaping⟩, huntold, ?failing⟩
  case lacking =>
    obtain ⟨verbose, v, rest, hopening, hread⟩ := hi
    exact lacksWords_of_escaped script hopening hread h
  case escaping =>
    rintro ⟨j, ⟨verbose, v, rest, hopening, hread⟩, h⟩
    exact escaped_of_lacksWords script hopening hread h
  case failing =>
    rintro j n o e ⟨verbose, v, rest, hopening, hread⟩ hresolve he
    have hp : p = _ := congrArg Report.printed (run_of_read hopening hread)
    rw [hp, Invocation.run_of_failed hresolve he]
    obtain ⟨hcode, htold, -⟩ :=
      fails_failed e.failure (announcement j n ++ (failed e.failure).output)
    refine ⟨hcode, fun h => (htold h).symm, fun h => ?_⟩
    rw [Manager.result_useOnce] at he
    exact Manager.foreign_of_left he h

/-- A creation time that is a text is found out only when it is to be shown. -/
theorem text_for_time_escapes :
    let env : Environment := ⟨none, none, none⟩
    let words := ["describe", "--name", "api-lb"]
    let script : Script := ⟨[.ok (.record [("LoadBalancerDescriptions", .list [.record
      [("LoadBalancerName", .text "api-lb"), ("DNSName", .text "lb.example"),
        ("CreatedTime", .text "2024-01-01")]])])], none, none⟩
    let p := (run env script words).printed
    p.escaped = some (.rejected (.misused (.noMember (.text "2024-01-01") "isoformat"))) ∧
      p.exitCode = 1 ∧ p.errors = "" := by
  intro env words script p
  have hescaped : p.escaped =
    some (.rejected (.misused (.noMember (.text "2024-01-01") "isoformat"))) := rfl
  have hsaid : Invocation.IsSaidBy env words ⟨some "api-lb", none, none, .describe .text⟩ :=
    ⟨false, .describe, _, rfl, rfl⟩
  obtain ⟨hcode, herrors, -⟩ := (ends_of_said hsaid script).2 (by rw [hescaped]; simp)
  exact ⟨hescaped, hcode, herrors⟩

end Cli

end Balancer
