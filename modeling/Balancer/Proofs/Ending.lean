import Balancer.Proofs.CommandLine
import Balancer.Proofs.Provisioning

/-!
Endings: what is told of a command that went wrong half-way, or came to nothing.

Between what an operation ends in and what is told of it stands the end of its context: an error of
closing takes the place of any other. And before the operation stands the name that it is for:
without one nothing is asked. Main statements: the exit code of a question for a load balancer is
that of an absence exactly if the load balancer is absent or not named
(`absence_shares_its_exit_code`), and one that was created and lacks its health check is told of
exactly if its client closes well (`unmonitored_is_told_unless_closing_fails`).
-/

namespace Balancer

/-- What comes back for the first request of a new connection. -/
def Script.firstReply (script : Script) : Except RemoteError Value :=
  Connection.none.reply script.openError script.replies

/-- A client that opens closes without an error. -/
def Script.ClosesWell (script : Script) : Prop :=
  script.openError = none → script.closeError = none

namespace Cli

/-- The provider is turned to: a client is asked for, whether it opens or not. -/
def Report.TurnsToProvider (report : Report) : Prop :=
  ∃ destination, .opened destination ∈ report.events

end Cli

/-! ### The end of a context -/

lemma Connection.after_none (s : Settings) (openError : Option RemoteError) :
    Connection.none.after s openError = ⟨true, openError.isNone⟩ := by
  cases openError <;> rfl

lemma Connection.opened_mem_trace_none (s : Settings) (openError : Option RemoteError)
    (q : Request) : .opened s.destination ∈ Connection.none.trace s openError q := by
  cases openError <;> simp [trace, opening, connect, Connection.none]

namespace Manager

/-- A new manager that asks for something asks for a client, and what leaves its context is what
came of asking, or the error of closing. -/
lemma context_of_asksFirst (script : Script) {s : Settings} {o : Operation} {i : Intent}
    {q : Request} (hread : o.read s = .ok i) (hasks : (i.plan s).AsksFirst q) :
    let m := ofSettings s
    let x := m.act script (.operate o)
    let y := (m.next x).act script .close
    let left := y.result >>= fun _ => x.result
    .opened s.destination ∈ x.events ∧ (script.ClosesWell → left = x.result) ∧
      (¬ script.ClosesWell → ∃ e, script.closeError = some e ∧
        left = .error (.bare (.remote e))) := by
  intro m x y left
  have hx : x = m.connection.run m.settings script.openError (i.plan m.settings) script.replies :=
    act_of_read_ok hread
  obtain ⟨htrace, hconnection⟩ :=
    @Connection.run_of_asksFirst _ s script.openError .none script.replies q _ hasks
  have hopened : .opened s.destination ∈ x.events := by
    rw [hx]
    exact htrace.subset (Connection.opened_mem_trace_none s script.openError q)
  have hleft : (m.next x).connection = ⟨true, script.openError.isNone⟩ := by
    rw [next, hx]
    exact hconnection.trans (Connection.after_none s script.openError)
  refine ⟨hopened, ?_⟩
  rcases hopen : script.openError with _ | e
  -- a client is open, and closing it may fail
  · have hclient : (m.next x).connection.client = true := by rw [hleft, hopen]; rfl
    have hclose : y = _ := act_close_of_client hclient
    rcases herror : script.closeError with _ | e
    · have hresult : left = x.result := by simp only [left, hclose, herror, ok_bind]
      exact ⟨fun _ => hresult, fun h => absurd (fun _ => herror) h⟩
    · have hresult : left = .error (.bare (.remote e)) := by
        simp only [left, hclose, herror, error_bind]
      refine ⟨fun h => ?_, fun _ => ⟨e, rfl, hresult⟩⟩
      rw [h hopen] at herror
      cases herror
  -- there is none
  · have hclient : (m.next x).connection.client = false := by rw [hleft, hopen]; rfl
    have hclose : y = _ := act_close_of_no_client hclient
    refine ⟨fun _ => by simp only [left, hclose, ok_bind], fun h => absurd (fun hnone => ?_) h⟩
    rw [hopen] at hnone
    cases hnone

end Manager

lemma Intent.asksFirst_question (b : Question) (s : Settings) (n : String) :
    ((b.intent n).plan s).AsksFirst (.describe n) := by
  cases b <;> exact .ask _

lemma Manager.context_of_question (script : Script) (s : Settings) {n : String}
    (hn : Name.IsValid n) (b : Question) :
    let m := ofSettings s
    let x := m.act script (.operate (b.operation n))
    let y := (m.next x).act script .close
    let left := y.result >>= fun _ => x.result
    .opened s.destination ∈ x.events ∧
      (script.ClosesWell → left = (sought n script.firstReply >>= b.answer n)) ∧
      (¬ script.ClosesWell → ∃ e, left = .error (.bare (.remote e))) := by
  intro m x y left
  have hread : (b.operation n).read s = .ok (b.intent n) := b.read_operation hn
  obtain ⟨hopened, hwell, hill⟩ :=
    context_of_asksFirst script hread (Intent.asksFirst_question b s n)
  have hresult : x.result = (sought n script.firstReply >>= b.answer n) := (act_question hn b).1
  refine ⟨hopened, fun h => (hwell h).trans hresult, fun h => ?_⟩
  obtain ⟨e, -, hleft⟩ := hill h
  exact ⟨e, hleft⟩

lemma Intent.asksFirst_provision (s : Settings) (n : String) (subnets : List String)
    (l : Listener) : ((Intent.provision n subnets l).plan s).AsksFirst (.create n subnets l) :=
  .log _ (.ask _)

/-! ### Half a success -/

section HalfDone

variable {n n' dnsName : String} {subnets : List String} {l : Listener} {check : HealthCheck}
  {v : Value} {f : RemoteFault}

lemma Course.of_halfDone {s : Settings} {i : Intent} {t : List Exchange}
    {r : Except Raised Outcome} (h : Course s i t r)
    (ht : t.map Exchange.told =
      [(.create n subnets l, .ok v), (.attach n' check, .error (.fault f))])
    (hv : v.item "DNSName" = .ok (.text dnsName)) :
    i = .provision n subnets l ∧
      r = .error ⟨.healthCheck (.text n) (.text (f.code ++ ": " ++ f.message)) (.text f.code)
        (.text dnsName), some (.service (Plan.report (.attach n s.healthCheck) f))⟩ := by
  have htalk : t = [(.create n subnets l, .ok v), (.attach n' check, .error f)] :=
    List.map_injective_iff.mpr Exchange.told_injective ht
  subst htalk
  cases h with
  | unmonitored hnamed =>
    rw [Plan.named_of_item hv] at hnamed
    cases hnamed
    rw [Plan.unchecked_text]
    exact ⟨rfl, rfl⟩

lemma Manager.course_of_told {s : Settings} {script : Script} {o : Operation} {e : Exchange}
    {t : List Exchange}
    (htalk : converse ((Manager.ofSettings s).act script (.operate o)).requests script.replies =
      (e :: t).map Exchange.told) :
    script.openError = none ∧ ∃ i, o.read s = .ok i ∧
      Course s i (e :: t) ((Manager.ofSettings s).act script (.operate o)).result := by
  rcases hread : o.read s with r | i
  · have hact : (ofSettings s).act script (.operate o) = _ := act_of_read_error hread
    rw [hact] at htalk
    cases htalk
  rcases hopen : script.openError with _ | g
  · exact ⟨rfl, i, rfl, course_of_talk (m := ofSettings s) hread hopen htalk⟩
  -- without a client nothing is asked
  · have hact : (ofSettings s).act script (.operate o) = _ := act_of_read_ok hread
    rw [hact, Connection.requests_run_of_not_reaches _ (by rw [hopen]; rfl)] at htalk
    cases htalk

lemma Manager.act_of_halfDone {s : Settings} {script : Script} {o : Operation}
    (htalk : converse ((Manager.ofSettings s).act script (.operate o)).requests script.replies =
      [(.create n subnets l, .ok v), (.attach n' check, .error (.fault f))])
    (hv : v.item "DNSName" = .ok (.text dnsName)) :
    script.openError = none ∧ o.read s = .ok (.provision n subnets l) ∧
      ((Manager.ofSettings s).act script (.operate o)).result =
        .error ⟨.healthCheck (.text n) (.text (f.code ++ ": " ++ f.message)) (.text f.code)
          (.text dnsName), some (.service (Plan.report (.attach n s.healthCheck) f))⟩ := by
  obtain ⟨hopen, i, hread, hcourse⟩ := course_of_told
    (t := [(.attach n' check, .error f)]) (e := (.create n subnets l, .ok v)) htalk
  obtain ⟨rfl, hresult⟩ := hcourse.of_halfDone rfl hv
  exact ⟨hopen, hread, hresult⟩

end HalfDone

namespace Cli

lemma Report.not_turnsToProvider {report : Report} (h : report.events = []) :
    ¬ report.TurnsToProvider := by
  rintro ⟨destination, hmem⟩
  rw [h] at hmem
  cases hmem

/-! ### The question for a load balancer -/

variable {env : Environment} {script : Script} {words rest : List String} {verbose : Bool}
  {i : Invocation}

def Command.question? : Command → Option Question
  | .existence => some .existence
  | .describe _ => some .describe
  | _ => none

lemma Command.Asks.eq_of_question {n : String} {c : Command} {port : Port} {o : Operation}
    (h : c.Asks n port o) {b : Question} (hb : c.question? = some b) : o = b.operation n := by
  cases h <;> cases hb <;> rfl

lemma tells_of_question (script : Script) {v : Verb} {b : Question}
    (hopening : readOpening words = .ok (.verb verbose v rest))
    (hread : readCommand env v rest = .ok (.invocation i)) (hb : i.command.question? = some b)
    (hn : Name.IsValid (i.named env)) :
    let m := Manager.ofSettings i.settings
    let x := m.act script (.operate (b.operation (i.named env)))
    let y := (m.next x).act script .close
    (run env script words).Tells i.command x y := by
  have hfit : ¬ i.IsRefused env := by
    rw [Invocation.IsRefused]
    rcases hc : i.command <;> rw [hc] at hb <;> cases hb <;> exact not_or.mpr ⟨not_not.mpr hn, id⟩
  obtain ⟨o, -, hasks, htells⟩ := tells_of_not_isRefused script hopening hread hfit
  obtain rfl := hasks.eq_of_question hb
  exact htells

/-- The exit code of a question, by what a search comes to. A DNS name that cannot be written is not
told. -/
structure CodeOf (code : Nat) (found : Except Raised (Option Description)) : Prop where
  failed : ∀ e, found = .error e → code = 1
  absent : found = .ok none → code = 2
  told : ∀ d, found = .ok (some d) → ¬ d.dnsName.Holds Value.IsLong → code = 0
  untold : ∀ d, found = .ok (some d) → d.dnsName.Holds Value.IsLong → code = 1

/-- A question that names a load balancer is asked, and the exit code tells what the search finds,
unless the client closes with an error. -/
lemma exitCode_of_asked (script : Script)
    (hopening : readOpening words = .ok (.verb verbose .existence rest))
    (hread : readCommand env .existence rest = .ok (.invocation i))
    (hn : Name.IsValid (i.named env)) :
    let report := run env script words
    let found := sought (i.named env) script.firstReply
    report.TurnsToProvider ∧ (¬ script.ClosesWell → report.printed.exitCode = 1) ∧
      (script.ClosesWell → CodeOf report.printed.exitCode found) := by
  intro report found
  have hcommand : i.command = .existence := by
    have hverb := verb_of_readCommand hread
    rcases hc : i.command <;> rw [hc] at hverb <;> first | rfl | cases hverb
  have htells :=
    tells_of_question script (b := .existence) hopening hread (by rw [hcommand]; rfl) hn
  rw [hcommand] at htells
  obtain ⟨hopened, hwell, hill⟩ := Manager.context_of_question script i.settings hn .existence
  change _ → _ = (found >>= _) at hwell
  have hfound : script.ClosesWell → ∀ d, found = .ok (some d) →
      report.printed.Concludes .existence (.existence true d.dnsName) := fun h d hd =>
    (htells.answered _ ((hwell h).trans (by rw [hd]; rfl))).2
  refine ⟨⟨i.settings.destination, ?opened⟩, fun h => ?closing, fun h =>
    ⟨fun e he => ?failed, fun hnone => ?absent, fun d hd => ((hfound h d hd).told · |>.2),
      fun d hd hlong => ((hfound h d hd).untold (not_not.mpr hlong)).1⟩⟩
  case opened =>
    rw [htells.events]
    exact List.mem_append_left _ hopened
  case closing =>
    obtain ⟨e, hleft⟩ := hill h
    exact (htells.failed _ hleft).exitCode
  case failed => exact (htells.failed e ((hwell h).trans (by rw [he]; rfl))).exitCode
  case absent =>
    have habsent := htells.answered _ ((hwell h).trans (by rw [hnone]; rfl))
    exact (habsent.2.told trivial).2

/-- **The exit code of an absence is that of a missing name, too.** A question without a wish for
help asks the provider exactly if it names a load balancer. Its exit code is 2 exactly if a search
found that there is none, and the client closed well, or if none is named: so it tells an absence
exactly if one is named. Then every failure, of the search, of closing or of writing the DNS name,
has the exit code 1, and 0 tells that the load balancer is there. -/
theorem absence_shares_its_exit_code (script : Script) {reading : Reading}
    (hopening : readOpening words = .ok (.verb verbose .existence rest))
    (hread : readCommand env .existence rest = .ok reading) :
    let report := run env script words
    let recognised := report.TurnsToProvider ∧ Absent script.firstReply ∧ script.ClosesWell
    (reading = .help → report.printed.exitCode = 0 ∧ ¬ report.TurnsToProvider) ∧
    ∀ i, reading = .invocation i →
      let n := i.named env
      (report.TurnsToProvider ↔ Name.IsValid n) ∧
      (report.printed.exitCode = 2 ↔ recognised ∨ ¬ Name.IsValid n) ∧
      ((report.printed.exitCode = 2 ↔ recognised) ↔ Name.IsValid n) ∧
      (Name.IsValid n →
        (report.printed.exitCode = 1 ↔
          (∃ e, sought n script.firstReply = .error e) ∨ ¬ script.ClosesWell ∨
            ∃ d, sought n script.firstReply = .ok (some d) ∧ d.dnsName.Holds Value.IsLong) ∧
        (report.printed.exitCode = 0 ↔ script.ClosesWell ∧
          ∃ d, sought n script.firstReply = .ok (some d) ∧ ¬ d.dnsName.Holds Value.IsLong)) := by
  intro report recognised
  constructor
  · rintro rfl
    have hreport : report = ⟨(help (some .existence)).readable, [], [],
        [if verbose then .debug else .warning]⟩ := by
      simp only [report, run, perform, hopening, hread]
    rw [hreport]
    exact ⟨rfl, Report.not_turnsToProvider rfl⟩
  · rintro i rfl n
    by_cases hn : Name.IsValid n
    · obtain ⟨hasked, hill, hwell⟩ := exitCode_of_asked script hopening hread hn
      have hturns : report.TurnsToProvider := hasked
      have habsent : Absent script.firstReply ↔ sought n script.firstReply = .ok none :=
        sought_eq_none_iff.symm
      by_cases hcloses : script.ClosesWell
      · obtain ⟨hfailed, hnone, htold, huntold⟩ := hwell hcloses
        rcases hsought : sought n script.firstReply with e | _ | d
        · have hcode : report.printed.exitCode = 1 := hfailed e hsought
          simp [recognised, hcode, hn, hturns, hcloses, habsent, hsought]
        · have hcode : report.printed.exitCode = 2 := hnone hsought
          simp [recognised, hcode, hn, hturns, hcloses, habsent, hsought]
        · by_cases hlong : d.dnsName.Holds Value.IsLong
          · have hcode : report.printed.exitCode = 1 := huntold d hsought hlong
            simp [recognised, hcode, hn, hturns, hcloses, habsent, hsought, hlong]
          · have hcode : report.printed.exitCode = 0 := htold d hsought hlong
            simp [recognised, hcode, hn, hturns, hcloses, habsent, hsought, hlong]
      · have hcode : report.printed.exitCode = 1 := hill hcloses
        simp [recognised, hcode, hn, hturns, hcloses]
    · obtain ⟨hrefused, hevents, -⟩ := run_of_isRefused script hopening hread (.inl hn)
      have hcode : report.printed.exitCode = 2 := hrefused
      have hturns : ¬ report.TurnsToProvider := Report.not_turnsToProvider hevents
      simp [recognised, hcode, hn, hturns]

/-- An answer without descriptions is told by the exit code. -/
theorem code_of_unlisted :
    let env : Environment := ⟨none, none, none⟩
    let rest := ["--name", "api-lb"]
    let script : Script := ⟨[.ok (.record [])], none, none⟩
    let i : Invocation := ⟨some "api-lb", none, none, .existence⟩
    let report := run env script ("exists" :: rest)
    readOpening ("exists" :: rest) = .ok (.verb false .existence rest) ∧
      readCommand env .existence rest = .ok (.invocation i) ∧ Name.IsValid (i.named env) ∧
      report.TurnsToProvider ∧ report.printed.exitCode = 2 := by
  intro env rest script i report
  have hopening : readOpening ("exists" :: rest) = .ok (.verb false .existence rest) := rfl
  have hread : readCommand env .existence rest = .ok (.invocation i) := rfl
  have hname : i.named env = "api-lb" := rfl
  have hn : Name.IsValid (i.named env) := by rw [hname]; rfl
  have habsent : Absent script.firstReply :=
    absent_record_iff.mpr fun d hd => by cases hd
  obtain ⟨hturns, hcode, -⟩ := (absence_shares_its_exit_code script hopening hread).2 i rfl
  exact ⟨hopening, hread, hn, hturns.mpr hn,
    hcode.mpr (.inl ⟨hturns.mpr hn, habsent, fun _ => rfl⟩)⟩

/-- Without a name nothing is asked, and the exit code is that of an absence. -/
theorem code_of_nameless :
    let env : Environment := ⟨none, none, none⟩
    let script : Script := ⟨[], none, none⟩
    let i : Invocation := ⟨none, none, none, .existence⟩
    let report := run env script ["exists"]
    readOpening ["exists"] = .ok (.verb false .existence []) ∧
      readCommand env .existence [] = .ok (.invocation i) ∧
      report.printed.exitCode = 2 ∧ ¬ report.TurnsToProvider := by
  intro env script i report
  have hopening : readOpening ["exists"] = .ok (.verb false .existence []) := rfl
  have hread : readCommand env .existence [] = .ok (.invocation i) := rfl
  have hn : ¬ Name.IsValid (i.named env) := by
    intro h
    cases h
  obtain ⟨hcode, hevents, -⟩ := run_of_isRefused script hopening hread (.inl hn)
  exact ⟨hopening, hread, hcode, Report.not_turnsToProvider hevents⟩

/-! ### A load balancer without its health check -/

lemma TellsFailure.toList_healthCheck {written : String} {n reason code dnsName : Value}
    (h : TellsFailure written (.healthCheck n reason code dnsName)) :
    ∃ r, written.toList = "✗ Health check".toList ++ r := by
  have heq := h.eq_complaint
  obtain ⟨text, -, htext, -⟩ := h
  obtain ⟨r, rfl⟩ : ∃ r, text = "Health check configuration for " ++ r := by
    simp only [Failure.text?, bind, Option.bind_eq_some_iff, pure, Option.some.injEq] at htext
    obtain ⟨name, -, reason, -, dnsName, -, rfl⟩ := htext
    simp only [String.append_assoc]
    exact ⟨_, rfl⟩
  rw [heq, complaint, Failure.text, htext, Option.getD_some,
    Text.ControlSequence.readable_append (by decide)]
  simp [Failure.family?]

lemma complaint_remote (e : RemoteError) (told : String) :
    complaint (.remote e) told = "✗ Unexpected error: " ++ told ++ "\n" := by
  apply String.toList_inj.mp
  simp [complaint, Failure.family?, Failure.isPartial]

lemma TellsFailure.not_healthCheck {written : String} {n reason code dnsName : Value}
    {e : RemoteError} (h : TellsFailure written (.remote e)) :
    ¬ TellsFailure written (.healthCheck n reason code dnsName) := by
  intro hcheck
  obtain ⟨r, hr⟩ := hcheck.toList_healthCheck
  rw [h.eq_complaint, complaint_remote] at hr
  simp at hr

/-- Half a success is told as what it fails with, or as the error of closing in its place. -/
lemma fails_of_halfDone (script : Script) {n n' dnsName : String} {subnets : List String}
    {l : Listener} {check : HealthCheck} {v : Value} {f : RemoteFault}
    (hopening : readOpening words = .ok (.verb verbose .provision rest))
    (hread : readCommand env .provision rest = .ok (.invocation i))
    (htalk : converse (run env script words).requests script.replies =
      [(.create n subnets l, .ok v), (.attach n' check, .error (.fault f))])
    (hv : v.item "DNSName" = .ok (.text dnsName)) :
    (script.closeError = none → (run env script words).printed.Fails
      (.healthCheck (.text n) (.text (f.code ++ ": " ++ f.message)) (.text f.code)
        (.text dnsName))) ∧
      ∀ e, script.closeError = some e → (run env script words).printed.Fails (.remote e) := by
  have hfit : ¬ i.IsRefused env := by
    intro h
    have hevents := (run_of_isRefused script hopening hread h).2.1
    rw [Report.requests, hevents] at htalk
    cases htalk
  obtain ⟨o, -, -, htells⟩ := tells_of_not_isRefused script hopening hread hfit
  rw [htells.requests_eq Manager.requests_close] at htalk
  obtain ⟨hopen, hintent, hresult⟩ := Manager.act_of_halfDone htalk hv
  obtain ⟨-, hwell, hill⟩ := Manager.context_of_asksFirst script hintent
    (Intent.asksFirst_provision _ _ _ _)
  refine ⟨fun hclose => htells.failed _ ((hwell fun _ => hclose).trans hresult), ?_⟩
  intro e hclose
  obtain ⟨e', he', hleft⟩ := hill fun h => by
    have hnone := h hopen
    rw [hclose] at hnone
    cases hnone
  obtain rfl : e = e' := Option.some.inj (hclose.symm.trans he')
  exact htells.failed _ hleft

/-- **Half a success is told exactly if the client closes well.** Once a load balancer was created
and its health check could not be attached, the command fails. Its DNS name and what to do about it
are told, unless closing the client ends in an error, which is then told in their place, if it has a
text. -/
theorem unmonitored_is_told_unless_closing_fails (script : Script)
    {n n' dnsName : String} {subnets : List String} {l : Listener} {check : HealthCheck} {v : Value}
    {f : RemoteFault} (hopening : readOpening words = .ok (.verb verbose .provision rest))
    (hread : readCommand env .provision rest = .ok (.invocation i))
    (htalk : converse (run env script words).requests script.replies =
      [(.create n subnets l, .ok v), (.attach n' check, .error (.fault f))])
    (hv : v.item "DNSName" = .ok (.text dnsName)) :
    let report := run env script words
    let failure := Failure.healthCheck (.text n) (.text (f.code ++ ": " ++ f.message))
      (.text f.code) (.text dnsName)
    report.printed.exitCode = 1 ∧
      (script.closeError = none → report.printed.escaped = none ∧ ∃ told : String,
        Text.ControlSequence.Leaves failure.text.toList told.toList ∧
          report.printed.errors = "✗ " ++ told ++ "\n" ++ retryHint) ∧
      (∀ e text, script.closeError = some e → e.text? = some text →
        report.printed.escaped = none ∧ ∃ told : String,
          Text.ControlSequence.Leaves text.toList told.toList ∧
            report.printed.errors = "✗ Unexpected error: " ++ told ++ "\n") ∧
      (∀ e, script.closeError = some e → e.text? = none → report.printed.errors = "" ∧
        report.printed.escaped = some (.rejected .unwritten)) ∧
      (TellsFailure report.printed.errors failure ↔ script.closeError = none) := by
  intro report failure
  obtain ⟨hwell, hill⟩ := fails_of_halfDone script hopening hread htalk hv
  rcases hclose : script.closeError with _ | e
  -- the failure of the operation leaves the context
  · obtain ⟨hcode, htold, -⟩ := hwell hclose
    have hsome : failure.text?.isSome :=
      Failure.isSome_text?_healthCheck.mpr (by simp [Value.IsLong])
    obtain ⟨herrors, hescaped⟩ := htold hsome
    obtain ⟨text, told, htext, hleaves, hcomplaint⟩ := id herrors
    have hfailure : failure.text = text := by rw [Failure.text, htext, Option.getD_some]
    exact ⟨hcode, fun _ => ⟨hescaped, told, by rw [hfailure]; exact hleaves, hcomplaint⟩,
      fun e text he => by (cases he), fun e he => by (cases he), fun _ => rfl, fun _ => herrors⟩
  -- the error of closing does
  · obtain ⟨hcode, htold, huntold⟩ := hill e hclose
    refine ⟨hcode, fun h => by (cases h), fun e' text he' htext => ?told,
      fun e' he' htext => ?untold, fun h => ?differs, fun h => by (cases h)⟩
    case told =>
      cases he'
      obtain ⟨⟨text', told, htext', hleaves, hwritten⟩, hescaped⟩ :=
        htold (Option.isSome_iff_exists.mpr ⟨text, htext⟩)
      obtain rfl : text = text' := Option.some.inj (htext.symm.trans htext')
      exact ⟨hescaped, told, hleaves, hwritten.trans (complaint_remote e told)⟩
    case untold =>
      cases he'
      exact huntold htext
    case differs =>
      rcases htext : e.text? with _ | text
      · have hnothing : report.printed.errors = "" := (huntold htext).1
        rw [hnothing] at h
        obtain ⟨r, hr⟩ := h.toList_healthCheck
        cases hr
      · exact absurd h (htold (Option.isSome_iff_exists.mpr ⟨text, htext⟩)).1.not_healthCheck

/-- A client that closes well leaves the failure and the hint to be told. -/
theorem unmonitored_is_told_after_closing :
    let env : Environment := ⟨none, none, none⟩
    let rest := ["--name", "api-lb", "--subnet", "subnet-1"]
    let v := Value.record [("DNSName", .text "lb.example")]
    let f : RemoteFault := .service
      ⟨some (.text "Throttling"), some (.text "slow"), .text "ConfigureHealthCheck", none, rfl⟩
    let script : Script := ⟨[.ok v, .error (.fault f)], none, none⟩
    let i : Invocation := ⟨some "api-lb", none, none, .provision ["subnet-1"] .controlPlane⟩
    let report := run env script ("provision" :: rest)
    readOpening ("provision" :: rest) = .ok (.verb false .provision rest) ∧
      readCommand env .provision rest = .ok (.invocation i) ∧
      converse report.requests script.replies =
        [(.create "api-lb" ["subnet-1"] (.forwarding .controlPlane), .ok v),
          (.attach "api-lb" .standard, .error (.fault f))] ∧
      v.item "DNSName" = .ok (.text "lb.example") ∧ report.printed.exitCode = 1 ∧
      TellsFailure report.printed.errors
        (.healthCheck (.text "api-lb") (.text "Throttling: slow") (.text "Throttling")
          (.text "lb.example")) := by
  intro env rest v f script i report
  have hopening : readOpening ("provision" :: rest) = .ok (.verb false .provision rest) := rfl
  have hread : readCommand env .provision rest = .ok (.invocation i) := rfl
  have htalk : converse report.requests script.replies =
      [(.create "api-lb" ["subnet-1"] (.forwarding .controlPlane), .ok v),
        (.attach "api-lb" .standard, .error (.fault f))] := rfl
  have hv : v.item "DNSName" = .ok (.text "lb.example") := rfl
  obtain ⟨hcode, -, -, -, htells⟩ :=
    unmonitored_is_told_unless_closing_fails script hopening hread htalk hv
  exact ⟨hopening, hread, htalk, hv, hcode, htells.mpr rfl⟩

/-- A client that does not close well leaves neither. -/
theorem hint_is_lost_in_closing :
    let env : Environment := ⟨none, none, none⟩
    let rest := ["--name", "api-lb", "--subnet", "subnet-1"]
    let v := Value.record [("DNSName", .text "lb.example")]
    let f : RemoteFault := .service
      ⟨some (.text "Throttling"), some (.text "slow"), .text "ConfigureHealthCheck", none, rfl⟩
    let script : Script := ⟨[.ok v, .error (.fault f)], none,
      some (.foreign ⟨"RuntimeError", some "closing failed"⟩)⟩
    let i : Invocation := ⟨some "api-lb", none, none, .provision ["subnet-1"] .controlPlane⟩
    let report := run env script ("provision" :: rest)
    readOpening ("provision" :: rest) = .ok (.verb false .provision rest) ∧
      readCommand env .provision rest = .ok (.invocation i) ∧
      converse report.requests script.replies =
        [(.create "api-lb" ["subnet-1"] (.forwarding .controlPlane), .ok v),
          (.attach "api-lb" .standard, .error (.fault f))] ∧
      v.item "DNSName" = .ok (.text "lb.example") ∧ report.printed.exitCode = 1 ∧
      report.printed.errors = "✗ Unexpected error: closing failed\n" ∧
      ¬ retryHint.toList <:+: report.printed.errors.toList := by
  intro env rest v f script i report
  have hopening : readOpening ("provision" :: rest) = .ok (.verb false .provision rest) := rfl
  have hread : readCommand env .provision rest = .ok (.invocation i) := rfl
  have hname : i.named env = "api-lb" := rfl
  have hfit : ¬ i.IsRefused env := by
    rw [Invocation.IsRefused, hname]
    exact not_or.mpr ⟨not_not.mpr rfl, id⟩
  obtain ⟨o, -, hasks, htells⟩ := tells_of_not_isRefused script hopening hread hfit
  rw [hname] at hasks
  cases hasks
  obtain ⟨hcode, htold, -⟩ := htells.failed _ rfl
  have herrors : report.printed.errors = "✗ Unexpected error: closing failed\n" := by
    rw [(htold rfl).1.eq_complaint, Text.ControlSequence.readable_eq_self (by decide)]
    exact complaint_remote _ _
  refine ⟨hopening, hread, rfl, rfl, hcode, herrors, fun h => ?_⟩
  rw [herrors] at h
  exact absurd h.length_le (by decide)

end Cli

end Balancer
