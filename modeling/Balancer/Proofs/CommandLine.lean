import Balancer.Proofs.Course
import Balancer.Proofs.Invocation
import Balancer.Proofs.Legibility
import Balancer.Proofs.Showing

/-!
Command lines: what an invocation does, and how its end is told.

An invocation uses a manager once, in a context that closes it. Main statement: what happens is what
the manager does, and what leaves the context decides the exit code and what is written about errors
(`command_refines_manager`). What is written has no control sequences, so a failure is told without
those in its text (`fails_failed`).
-/

namespace Balancer

def Outcome.isAbsence : Outcome → Bool
  | .existence false _ => true
  | _ => false

namespace Cli

open Text

def Command.Answers : Command → Outcome → Prop
  | .provision .., a => ∃ dnsName, a = .dnsName dnsName
  | .describe _, a => ∃ d, a = .description (some d)
  | .existence, a => ∃ found dnsName, a = .existence found dnsName
  | _, a => a = .nothing

lemma Command.Asks.answers {n : String} {c : Command} {port : Port} {o : Operation}
    (h : c.Asks n port o) {s : Settings} {i : Intent} (hi : o.read s = .ok i) {a : Outcome}
    (ha : i.Answers a) : c.Answers a := by
  cases h <;>
    simp only [Operation.read, bind_eq_ok_iff, pure, Except.pure, Except.ok.injEq] at hi <;>
    grind [Intent.Answers, Command.Answers]

/-! ### How the end is told -/

def retryHint : String :=
  "  The load balancer was created but is unmonitored. Retry with 'apilb health-check'.\n"

/-- What is written about a failure, by what its text leaves to its reader. -/
def complaint (f : Failure) (told : String) : String :=
  "✗ " ++ (if f.family?.isSome then "" else "Unexpected error: ") ++ told ++ "\n" ++
    (if f.isPartial then retryHint else "")

/-- What is written tells a failure by all of its text but the control sequences in it. -/
def TellsFailure (written : String) (f : Failure) : Prop :=
  ∃ text told : String, f.text? = some text ∧ ControlSequence.Leaves text.toList told.toList ∧
    written = complaint f told

lemma readable_failureText (f : Failure) (text : String) :
    ControlSequence.readable (failureText f text) =
      complaint f (ControlSequence.readable text) := by
  have hhint : ControlSequence.readable (if f.isPartial then retryHint else "") =
      if f.isPartial then retryHint else "" := by
    refine ControlSequence.readable_eq_self ?_
    split <;> decide
  have hfront :
      '\x1b' ∉ ("✗ " ++ if f.family?.isSome then "" else "Unexpected error: ").toList := by
    split <;> decide
  have htext : failureText f text =
      ("✗ " ++ if f.family?.isSome then "" else "Unexpected error: ") ++ text ++ "\n" ++
        if f.isPartial then retryHint else "" := rfl
  rw [htext, ControlSequence.readable_line, ControlSequence.readable_append hfront, hhint,
    complaint]

lemma tells_failureText {f : Failure} {text : String} (h : f.text? = some text) :
    TellsFailure (ControlSequence.readable (failureText f text)) f :=
  ⟨text, ControlSequence.readable text, h,
    ControlSequence.leaves_iff.mpr (String.toList_ofList ..), readable_failureText f text⟩

lemma TellsFailure.eq_complaint {written : String} {f : Failure} (h : TellsFailure written f) :
    written = complaint f (ControlSequence.readable f.text) := by
  obtain ⟨text, told, htext, htold, rfl⟩ := h
  rw [Failure.text, htext, Option.getD_some]
  congr 1
  apply String.toList_inj.mp
  rw [ControlSequence.leaves_iff.mp htold, ControlSequence.readable, String.toList_ofList]

/-- A bad end, as it is printed: a failure is told, or what it shows cannot be written. -/
structure Printed.Fails (p : Printed) (f : Failure) : Prop where
  exitCode : p.exitCode = 1
  told : f.text?.isSome → TellsFailure p.errors f ∧ p.escaped = none
  untold : f.text? = none → p.errors = "" ∧ p.escaped = some (.rejected .unwritten)

lemma fails_failed (f : Failure) (output : String) :
    ({ failed f with output := output } : Printed).readable.Fails f := by
  rcases htext : f.text? with _ | text
  · simp only [failed, htext]
    exact ⟨rfl, by simp [htext], fun _ => ⟨ControlSequence.readable_eq_self List.not_mem_nil, rfl⟩⟩
  · simp only [failed, htext]
    exact ⟨rfl, fun _ => ⟨tells_failureText htext, rfl⟩, by simp [htext]⟩

/-- Whether a command has the words for an answer: it can be shown and written. -/
def Command.CanTell : Command → Outcome → Prop
  | .provision .., .dnsName v => ¬ v.Holds Value.IsLong
  | .existence, .existence true v => ¬ v.Holds Value.IsLong
  | .describe format, .description (some d) => IsPresentable format d
  | _, _ => True

/-- A good end, as it is printed: what a command was answered decides the exit code, unless there
are no words for it. -/
structure Printed.Concludes (p : Printed) (c : Command) (a : Outcome) : Prop where
  errors : p.errors = ""
  told : c.CanTell a → p.escaped = none ∧ p.exitCode = if a.isAbsence then 2 else 0
  untold : ¬ c.CanTell a → p.exitCode = 1 ∧ ∃ r, p.escaped = some (.rejected r)

lemma Printed.concludes_succeeded {s : String} {c : Command} {a : Outcome}
    (htell : c.CanTell a) (h : a.isAbsence = false) : (succeeded s).Concludes c a :=
  ⟨rfl, fun _ => ⟨rfl, by rw [h]; rfl⟩, fun hnot => absurd htell hnot⟩

lemma Printed.concludes_tell {lines : List (Checked String)} {c : Command} {a : Outcome}
    (htell : (tell lines).escaped = none ↔ c.CanTell a) (h : a.isAbsence = false) :
    (tell lines).Concludes c a := by
  obtain ⟨s, hs⟩ | ⟨s, r, hs⟩ := tell_cases lines
  · rw [hs] at htell ⊢
    exact concludes_succeeded (htell.mp rfl) h
  · rw [hs] at htell ⊢
    exact ⟨rfl, fun h => (nomatch htell.mpr h), fun _ => ⟨rfl, r, rfl⟩⟩

lemma concludes_showDescription (format : Format) (d : Description) :
    (showDescription format d).Concludes (.describe format) (.description (some d)) := by
  have htell := @escaped_eq_none_iff format d
  obtain ⟨lines, hlines⟩ := exists_showDescription_eq format d
  rw [hlines] at htell ⊢
  exact Printed.concludes_tell htell rfl

lemma Command.Asks.concludes {n : String} {c : Command} {port : Port} {o : Operation}
    (h : c.Asks n port o) {a : Outcome} (ha : c.Answers a) :
    (conclusion c n o a).Concludes c a := by
  cases h with
  | provision subnets port =>
    obtain ⟨dnsName, rfl⟩ := ha
    refine Printed.concludes_tell ?_ rfl
    simp [escaped_tell_eq_none_iff, labelled_eq_ok_iff, CanTell]
  | describe format =>
    obtain ⟨d, rfl⟩ := ha
    exact concludes_showDescription format d
  | existence =>
    obtain ⟨found, dnsName, rfl⟩ := ha
    cases found with
    | true =>
      refine Printed.concludes_tell ?_ rfl
      simp [escaped_tell_eq_none_iff, labelled_eq_ok_iff, CanTell]
    | false => exact ⟨rfl, fun _ => ⟨rfl, rfl⟩, fun h => absurd trivial h⟩
  | _ =>
    obtain rfl := ha
    exact Printed.concludes_succeeded trivial rfl

/-- A report tells what a command came to: its operation to `x`, and the closing after it to `y`. An
error of closing takes the place of any other. -/
structure Report.Tells (report : Report) (c : Command) (x y : Execution Outcome) : Prop where
  events : report.events = x.events ++ y.events
  logs : report.logs = x.logs ++ y.logs
  failed : ∀ e, (y.result >>= fun _ => x.result) = .error e → report.printed.Fails e.failure
  answered : ∀ a, (y.result >>= fun _ => x.result) = .ok a →
    c.Answers a ∧ report.printed.Concludes c a

def Report.requests (report : Report) : List Request := report.events.filterMap Event.request?

section Tells

variable {report : Report} {c : Command} {x y : Execution Outcome}

lemma Report.Tells.requests_eq (h : report.Tells c x y) (hy : y.requests = []) :
    report.requests = x.requests := by
  rw [requests, h.events, List.filterMap_append]
  exact (congrArg _ hy).trans (List.append_nil _)

lemma Report.Tells.result_of_exitCode (h : report.Tells c x y)
    (hcode : report.printed.exitCode = 0) : ∃ a, x.result = .ok a := by
  rcases hleft : (y.result >>= fun _ => x.result) with e | a
  · have hfailed := (h.failed e hleft).exitCode
    rw [hcode] at hfailed
    cases hfailed
  · obtain ⟨-, -, hx⟩ := bind_eq_ok_iff.mp hleft
    exact ⟨a, hx⟩

end Tells

/-! ### Whole runs -/

variable {env : Environment} {script : Script} {words rest : List String} {verbose : Bool}
  {v : Verb} {i : Invocation}

lemma run_of_read (hopening : readOpening words = .ok (.verb verbose v rest))
    (hread : readCommand env v rest = .ok (.invocation i)) :
    run env script words =
      ⟨(i.run env script v).1.readable, (i.run env script v).2.1, (i.run env script v).2.2,
        [if verbose then .debug else .warning]⟩ := by
  simp only [run, perform, hopening, hread]

lemma Invocation.run_of_refused {e : UsageError} (h : i.resolve env = .error e) :
    i.run env script v = (usageError (some v) e, [], []) := by
  simp only [run, h]

lemma Command.Asks.controlPlanePort_eq {n : String} {c : Command} {port : Port} {o : Operation}
    (h : c.Asks n port o) : c.controlPlanePort = port := by
  cases h <;> rfl

section Resolved

variable {n : String} {o : Operation} (h : i.resolve env = .ok (n, o))

include h

lemma Invocation.run_of_failed {e : Raised}
    (hx : ((Manager.ofSettings i.settings).useOnce script o).result = .error e) :
    i.run env script v =
      let x := (Manager.ofSettings i.settings).useOnce script o
      let printed := failed e.failure
      ({ printed with output := announcement i n ++ printed.output }, x.events, x.logs) := by
  simp only [run, h, hx]

lemma Invocation.run_of_answered {a : Outcome}
    (hx : ((Manager.ofSettings i.settings).useOnce script o).result = .ok a) :
    i.run env script v =
      let x := (Manager.ofSettings i.settings).useOnce script o
      let printed := conclusion i.command n o a
      ({ printed with output := announcement i n ++ printed.output }, x.events, x.logs) := by
  simp only [run, h, hx]

lemma Invocation.tells_of_asks {port : Port} (hasks : i.command.Asks n port o)
    (levels : List LogLevel) :
    let report := i.run env script v
    let m := Manager.ofSettings ⟨.ofText? i.region, .ofText? i.endpoint, port, .standard⟩
    let x := m.act script (.operate o)
    let y := (m.next x).act script .close
    Report.Tells ⟨report.1.readable, report.2.1, report.2.2, levels⟩ i.command x y := by
  intro report m x y
  have hm : Manager.ofSettings i.settings = m := by
    rw [Invocation.settings, hasks.controlPlanePort_eq]
  have hresult : (m.useOnce script o).result = (y.result >>= fun _ => x.result) :=
    m.result_useOnce script o
  rcases hleft : (m.useOnce script o).result with e | a
  -- a failure leaves the context, of the operation or of closing
  · have hrun : report = _ := Invocation.run_of_failed h (by rw [hm, hleft])
    rw [hrun, hm]
    refine ⟨rfl, rfl, fun e' he => ?_, fun a ha => ?_⟩
    · obtain rfl : e = e' := Except.error.inj (hleft.symm.trans (hresult.trans he))
      exact fails_failed e.failure _
    · cases hleft.symm.trans (hresult.trans ha)
  -- none does, so the answer is the operation's
  · have hrun : report = _ := Invocation.run_of_answered h (by rw [hm, hleft])
    have hanswers : i.command.Answers a := by
      have ha := hresult.symm.trans hleft
      obtain ⟨-, -, hx⟩ := bind_eq_ok_iff.mp ha
      obtain ⟨j, hj, hanswers⟩ := Manager.answers_of_act hx
      exact hasks.answers hj hanswers
    rw [hrun, hm]
    refine ⟨rfl, rfl, fun e he => ?_, fun a' ha => ?_⟩
    · cases hleft.symm.trans (hresult.trans he)
    · obtain rfl : a = a' := Except.ok.inj (hleft.symm.trans (hresult.trans ha))
      obtain ⟨herrors, htold, huntold⟩ := hasks.concludes hanswers
      refine ⟨hanswers, ?_, htold, huntold⟩
      simp only [Printed.readable, herrors]
      exact ControlSequence.readable_eq_self List.not_mem_nil

end Resolved

lemma run_of_isRefused (script : Script)
    (hopening : readOpening words = .ok (.verb verbose v rest))
    (hread : readCommand env v rest = .ok (.invocation i)) (h : i.IsRefused env) :
    let report := run env script words
    report.printed.exitCode = 2 ∧ report.events = [] ∧ report.logs = [] := by
  intro report
  have hreport : report = _ := run_of_read hopening hread
  obtain ⟨e, he⟩ := (Invocation.resolve_eq env (inRange_of_readCommand hread)).1 h
  rw [hreport, Invocation.run_of_refused he]
  exact ⟨rfl, rfl, rfl⟩

lemma tells_of_not_isRefused (script : Script)
    (hopening : readOpening words = .ok (.verb verbose v rest))
    (hread : readCommand env v rest = .ok (.invocation i)) (h : ¬ i.IsRefused env) :
    ∃ o, i.resolve env = .ok (i.named env, o) ∧
      i.command.Asks (i.named env) i.command.controlPlanePort o ∧
      let m := Manager.ofSettings i.settings
      let x := m.act script (.operate o)
      let y := (m.next x).act script .close
      (run env script words).Tells i.command x y := by
  obtain ⟨o, ho, hasks⟩ := (Invocation.resolve_eq env (inRange_of_readCommand hread)).2 h
  rw [run_of_read hopening hread]
  exact ⟨o, ho, hasks, Invocation.tells_of_asks ho hasks _⟩

/-- **A command line does what a manager does that is used once.** A refused invocation ends with
exit code 2, and nothing happens. Any other makes a manager of its region and endpoint, which runs
the command's one operation in a context that closes it; and what leaves the context is told. -/
theorem command_refines_manager (script : Script)
    (hopening : readOpening words = .ok (.verb verbose v rest))
    (hread : readCommand env v rest = .ok (.invocation i)) :
    let report := run env script words
    (i.IsRefused env →
      report.printed.exitCode = 2 ∧ report.events = [] ∧ report.logs = []) ∧
    (¬ i.IsRefused env → ∃ port o, i.command.Asks (i.named env) port o ∧
      let m := Manager.ofSettings ⟨.ofText? i.region, .ofText? i.endpoint, port, .standard⟩
      let x := m.act script (.operate o)
      let y := (m.next x).act script .close
      report.Tells i.command x y) := by
  intro report
  constructor
  · exact run_of_isRefused script hopening hread
  · intro h
    obtain ⟨o, -, hasks, htells⟩ := tells_of_not_isRefused script hopening hread h
    exact ⟨_, o, hasks, htells⟩

/-- A load balancer that lacks its health check: the failure is told, and then what to do about
it. -/
theorem retry_is_told_of_unmonitored :
    let env : Environment := ⟨none, none, none⟩
    let rest := ["--name", "api-lb", "--subnet", "subnet-1"]
    let f : ServiceFault :=
      ⟨some (.text "Throttling"), some (.text "slow"), .text "ConfigureHealthCheck", none, rfl⟩
    let script : Script :=
      ⟨[.ok (.record [("DNSName", .text "lb.example")]), .error (.fault (.service f))], none, none⟩
    let i : Invocation := ⟨some "api-lb", none, none, .provision ["subnet-1"] .controlPlane⟩
    let report := run env script ("provision" :: rest)
    readOpening ("provision" :: rest) = .ok (.verb false .provision rest) ∧
      readCommand env .provision rest = .ok (.invocation i) ∧ ¬ i.IsRefused env ∧
      report.printed.exitCode = 1 ∧ report.events.length = 5 ∧
      report.printed.errors =
        "✗ Health check configuration for api-lb failed: Throttling: slow" ++
          " (load balancer exists at lb.example)\n" ++ retryHint := by
  intro env rest f script i report
  have hopening : readOpening ("provision" :: rest) = .ok (.verb false .provision rest) := rfl
  have hread : readCommand env .provision rest = .ok (.invocation i) := rfl
  have hname : i.named env = "api-lb" := rfl
  have hfit : ¬ i.IsRefused env := by
    rw [Invocation.IsRefused, hname]
    exact not_or.mpr ⟨not_not.mpr rfl, id⟩
  obtain ⟨port, o, hasks, htells⟩ := (command_refines_manager script hopening hread).2 hfit
  rw [hname] at hasks
  cases hasks
  obtain ⟨hcode, htold, -⟩ := htells.failed _ rfl
  have herrors := (htold rfl).1
  refine ⟨hopening, hread, hfit, hcode, by rw [htells.events]; decide,
    herrors.eq_complaint.trans ?_⟩
  rw [complaint, ControlSequence.readable_eq_self (by decide)]
  rfl

/-- The text of a failure is not what is written where it holds a control sequence. -/
theorem sequence_is_not_written :
    let env : Environment := ⟨none, none, none⟩
    let rest := ["--name", "api-lb"]
    let f : ServiceFault := ⟨some (.text "Throttling"), some (.text "\x1b[1mslow"),
      .text "DescribeLoadBalancers", none, rfl⟩
    let script : Script := ⟨[.error (.fault (.service f))], none, none⟩
    let i : Invocation := ⟨some "api-lb", none, none, .existence⟩
    let x := (Manager.ofSettings ⟨.null, .null, .controlPlane, .standard⟩).useOnce script
      (.existence (.text "api-lb"))
    readOpening ("exists" :: rest) = .ok (.verb false .existence rest) ∧
      readCommand env .existence rest = .ok (.invocation i) ∧ ¬ i.IsRefused env ∧
      ∃ e, x.result = .error e ∧ e.failure.family?.isSome ∧ ¬ e.failure.isPartial ∧
        (run env script ("exists" :: rest)).printed.errors ≠ "✗ " ++ e.failure.text ++ "\n" := by
  intro env rest f script i x
  have hname : i.named env = "api-lb" := rfl
  have hfit : ¬ i.IsRefused env := by
    rw [Invocation.IsRefused, hname]
    exact not_or.mpr ⟨not_not.mpr rfl, id⟩
  have htells := @Invocation.tells_of_asks env script .existence i "api-lb" _ rfl _ .existence
    [.warning]
  have herrors := ((htells.failed _ rfl).told rfl).1.eq_complaint
  refine ⟨rfl, rfl, hfit, _, rfl, rfl, Bool.false_ne_true, ?_⟩
  rw [run_of_read rfl rfl]
  refine ne_of_eq_of_ne herrors ?_
  have htext : Failure.text (.service (Plan.report (.describe "api-lb") (.service f))) =
      "DescribeLoadBalancers failed (Throttling): " ++ "\x1b[1mslow [load_balancer=api-lb]" := rfl
  have hreadable : ControlSequence.readable ("DescribeLoadBalancers failed (Throttling): " ++
      "\x1b[1mslow [load_balancer=api-lb]") =
        "DescribeLoadBalancers failed (Throttling): slow [load_balancer=api-lb]" := by
    -- the sequence is the escape character, the bracket and what follows up to its final letter
    rw [ControlSequence.readable, String.toList_append, ControlSequence.remove_append (by decide),
      ControlSequence.remove_of_after rfl, ControlSequence.remove_eq_self (by decide)]
    decide
  rw [complaint, htext, hreadable]
  decide

end Cli

end Balancer
