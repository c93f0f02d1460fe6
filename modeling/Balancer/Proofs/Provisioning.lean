import Balancer.Proofs.Course

/-!
Provisioning: two requests of which only the first may succeed.

A load balancer that was created stays, whatever becomes of its health check. Main statement: the
caller is told so exactly if it happens, by one kind of failure that nothing else ends in
(`partial_provision_shows`).
-/

namespace Balancer

def Script.OnlyFaults (script : Script) : Prop :=
  (∀ e, Except.error (RemoteError.foreign e) ∉ script.replies) ∧
    ∀ e, script.openError ≠ some (.foreign e)

lemma Script.OnlyFaults.converse {script : Script} (h : script.OnlyFaults) {qs : List Request}
    {e : Request × Except RemoteError Value} (he : e ∈ converse qs script.replies)
    (g : ForeignError) : e.2 ≠ .error (.foreign g) := by
  obtain ⟨hreplies, -⟩ := h
  generalize script.replies = replies at he hreplies
  induction qs generalizing replies with
  | nil => cases he
  | cons q qs ih =>
    rw [Balancer.converse] at he
    rcases List.mem_cons.mp he with rfl | he
    · rcases replies with _ | ⟨r, rest⟩
      · simp
      · rintro rfl
        exact hreplies g List.mem_cons_self
    · exact ih _ he fun g hg => hreplies g (List.mem_of_mem_drop hg)

/-- A talk in which a load balancer was created and its health check could not be attached. -/
def HalfDone (talk : List (Request × Except RemoteError Value)) : Prop :=
  ∃ n subnets l check v f,
    talk = [(.create n subnets l, .ok v), (.attach n check, .error (.fault f))]

def NamesCreated (talk : List (Request × Except RemoteError Value)) : Prop :=
  ∀ n subnets l v, (Request.create n subnets l, .ok v) ∈ talk →
    ∃ dnsName, v.item "DNSName" = .ok (.text dnsName)

/-! ### Failures that tell of half a success -/

def Failure.IsProvisioning (e : Failure) : Prop :=
  e.family? = some .provision ∨ e.family? = some .healthCheck

lemma Failure.isProvisioning_of_isPartial {e : Failure} (h : e.isPartial = true) :
    e.IsProvisioning := by
  cases e with
  | healthCheck => exact .inr rfl
  | _ => cases h

lemma Failure.not_isProvisioning_rejected (r : Rejection) :
    ¬ (Failure.rejected r).IsProvisioning := by
  cases r <;> simp [IsProvisioning, family?]

lemma not_isProvisioning_of_sought {n : String} {reply : Except RemoteError Value} {e : Raised}
    (h : sought n reply = .error e) : ¬ e.failure.IsProvisioning := by
  obtain ⟨f, -, rfl⟩ | ⟨g, -, rfl⟩ | ⟨r, rfl⟩ := sought_error_cases h
  · simp [Failure.IsProvisioning, Failure.family?]
  · simp [Failure.IsProvisioning, Failure.family?, Raised.bare]
  · exact Failure.not_isProvisioning_rejected r

lemma not_isProvisioning_of_answer {n : String} {b : Question} {reply : Except RemoteError Value}
    {e : Raised} (h : (sought n reply >>= b.answer n) = .error e) :
    ¬ e.failure.IsProvisioning := by
  rcases hsought : sought n reply with e' | d
  · rw [hsought] at h
    cases h
    exact not_isProvisioning_of_sought hsought
  · rw [hsought] at h
    cases b <;> cases d <;> cases h
    simp [Failure.IsProvisioning, Failure.family?, Raised.bare]

lemma not_isProvisioning_of_verdict {n : String} {l : Listener} {f : RemoteFault}
    {reply : Except RemoteError Value} {e : Raised}
    (h : (sought n reply >>= Plan.verdict n l f) = .error e) : ¬ e.failure.IsProvisioning := by
  rcases hsought : sought n reply with e' | d
  · rw [hsought] at h
    cases h
    exact not_isProvisioning_of_sought hsought
  · rw [hsought, ok_bind] at h
    rcases d with _ | d
    · cases h; simp [Failure.IsProvisioning, Failure.family?, Raised.bare]
    · rw [Plan.verdict] at h
      split at h <;> cases h
      simp [Failure.IsProvisioning, Failure.family?]

/-- **Half a success shows on every course**, and on no other. -/
theorem Course.isPartial_iff {s : Settings} {i : Intent} {t : List Exchange}
    {r : Except Raised Outcome} (h : Course s i t r) (hnames : NamesCreated (t.map Exchange.told)) :
    (∃ e, r = .error e ∧ e.failure.isPartial = true) ↔ HalfDone (t.map Exchange.told) := by
  cases h with
  | refused => simp [HalfDone, Failure.isPartial]
  | unnamed hv => simp [HalfDone, Failure.isPartial, Raised.bare]
  | provisioned hv => simp [HalfDone, Exchange.told]
  | unmonitored hv =>
    rename_i n subnets l v dnsName f
    obtain ⟨d, hd⟩ := hnames n subnets l v (.head _)
    obtain rfl : Value.text d = dnsName := Except.ok.inj ((Plan.named_of_item hd).symm.trans hv)
    rw [Plan.unchecked_text]
    constructor
    · exact fun _ => ⟨n, subnets, l, _, v, f, rfl⟩
    · exact fun _ => ⟨_, rfl, rfl⟩
  | changed hq => simp [HalfDone]
  | absent hq hf => simp [HalfDone, Failure.isPartial, Raised.bare]
  | moot hq hf => simp [HalfDone]
  | settled hf =>
    constructor
    · rintro ⟨e, he, hpartial⟩
      exact absurd (Failure.isProvisioning_of_isPartial hpartial) (not_isProvisioning_of_verdict he)
    · rintro ⟨_, _, _, _, _, _, h⟩
      cases h
  | unattached hf => simp [HalfDone, Failure.isPartial, Value.isNull]
  | troubled hq hne hf => simp [HalfDone, Failure.isPartial]
  | skipped hi => simp [HalfDone]
  | asked b =>
    constructor
    · rintro ⟨e, he, hpartial⟩
      exact absurd (Failure.isProvisioning_of_isPartial hpartial) (not_isProvisioning_of_answer he)
    · rintro ⟨_, _, _, _, _, _, h⟩
      cases h

lemma Course.isPartial_of_errors {s : Settings} {i : Intent} {t : List Exchange}
    {r : Except Raised Outcome} (h : Course s i t r) (ht : ∀ e ∈ t, ∃ f, e.2 = .error f) :
    ¬ ∃ e, r = .error e ∧ e.failure.isPartial = true := by
  have hnames : NamesCreated (t.map Exchange.told) := by
    intro n subnets l v hmem
    obtain ⟨⟨q, a⟩, he, htold⟩ := List.mem_map.mp hmem
    obtain ⟨f, rfl⟩ : ∃ f, a = .error f := ht _ he
    cases htold
  rw [h.isPartial_iff hnames]
  rintro ⟨n, subnets, l, check, v, f, htold⟩
  obtain ⟨⟨q, a⟩, he, hfirst⟩ := List.mem_map.mp (htold ▸ List.mem_cons_self)
  obtain ⟨g, rfl⟩ : ∃ g, a = .error g := ht _ he
  cases hfirst

lemma Listener.tcp_toValue (p : Port) : tcp p.toValue = .ok (forwarding p) := by
  simp only [tcp, ofParts, Port.check_toValue, ok_bind]
  rfl

namespace Manager

variable {m : Manager} {script : Script}

/-- One action fails half-way exactly if it gets half-way. -/
lemma act_isPartial_iff (a : Action) (hscript : script.OnlyFaults)
    (hnames : NamesCreated (converse (m.act script a).requests script.replies)) :
    (∃ e, (m.act script a).result = .error e ∧ e.failure.isPartial = true) ↔
      HalfDone (converse (m.act script a).requests script.replies) := by
  cases a with
  | close =>
    rw [requests_close]
    constructor
    · rintro ⟨e, he, hpartial⟩
      obtain hresult | ⟨r, hresult⟩ := @result_close m script
      · rw [hresult] at he; cases he
      · rw [hresult] at he
        cases he
        cases hpartial
    · rintro ⟨_, _, _, _, _, _, h⟩
      cases h
  | operate o =>
    rcases hread : o.read m.settings with r | i
    · rw [act_of_read_error hread]
      simp [HalfDone, Execution.requests, converse, Failure.isPartial, Raised.bare]
    · obtain ⟨t, hcourse, hreached, hlost⟩ := exists_course hread
        (fun _ he => hscript.converse he) hscript.2
      rcases hreaches : m.connection.reaches script.openError with _ | _
      · obtain ⟨hrequests, herrors⟩ := hlost hreaches
        rw [hrequests]
        simp only [hcourse.isPartial_of_errors herrors, false_iff]
        rintro ⟨_, _, _, _, _, _, h⟩
        cases h
      · rw [hreached hreaches] at hnames ⊢
        exact hcourse.isPartial_iff hnames

lemma read_provision {s : Settings} {n : String} {subnets : List String} {p : Port}
    (hn : Name.IsValid n) (hne : subnets ≠ []) :
    (Operation.provision (.text n) (.list (subnets.map .text)) p.toValue).read s =
      .ok (.provision n subnets (.forwarding p)) := by
  have hname : Name.check (.text n) = .ok n := hn
  have hsubnets : readSubnets (.list (subnets.map .text)) = .ok (subnets.map .text) := by
    rcases subnets with _ | ⟨t, r⟩
    · exact absurd rfl hne
    · rfl
  simp only [Operation.read, hname, hsubnets, Listener.tcp_toValue, Value.texts_map_text, ok_bind]
  rfl

lemma act_provision {n : String} {subnets : List String} {p : Port} (hn : Name.IsValid n)
    (hne : subnets ≠ []) :
    m.act script (.operate (.provision (.text n) (.list (subnets.map .text)) p.toValue)) =
      m.connection.run m.settings script.openError
        (Plan.provision m.settings n subnets (.forwarding p)) script.replies :=
  act_of_read_ok (read_provision hn hne)

lemma run_provision_fault {n : String} {subnets : List String} {l : Listener} {f : RemoteFault}
    (hf : m.reply script = .error (.fault f)) :
    let q := Request.create n subnets l
    let x := m.connection.run m.settings script.openError
      (Plan.provision m.settings n subnets l) script.replies
    x.result = .error ⟨.provision (.text n) (.text (Plan.refusal f)) (.text f.code),
      some (.service (Plan.report q f))⟩ ∧ x.requests = m.sent script q := by
  intro q x
  obtain ⟨entry, k, hplan, hrefused, -⟩ := Plan.provision_eq m.settings n subnets l
  simp only [x, hplan, Connection.run_log]
  rw [Connection.run_call_fault hf, hrefused]
  simp only [Execution.preceded_result, Execution.requests_preceded, Connection.requests_trace]
  exact ⟨rfl, List.append_nil _⟩

lemma run_monitor {n : String} {dnsName : Value} :
    let r := Request.attach n m.settings.healthCheck
    let x := m.connection.run m.settings script.openError (Plan.monitor m.settings n dnsName)
      script.replies
    x.requests = m.sent script r ∧
    (∀ w, m.reply script = .ok w → x.result = .ok (.dnsName dnsName)) ∧
    ∀ f, m.reply script = .error (.fault f) → x.result = .error (Plan.unchecked r f dnsName) := by
  intro r x
  obtain ⟨entry, k, hplan, hfailed, hdone⟩ := Plan.monitor_eq m.settings n dnsName
  simp only [x, hplan, Connection.run_log, Execution.preceded_result, Execution.requests_preceded]
  rcases hreply : m.reply script with (f | e) | w
  · obtain ⟨entry, hentry⟩ := hfailed f
    rw [Connection.run_call_fault hreply, hentry, Execution.requests_preceded,
      Connection.requests_trace]
    refine ⟨List.append_nil _, fun w hw => by (cases hw), fun g hg => ?_⟩
    cases hg
    rfl
  · rw [Connection.run_call_foreign hreply]
    exact ⟨Connection.requests_trace r, fun w hw => by (cases hw), fun g hg => by (cases hg)⟩
  · obtain ⟨entry, hentry⟩ := hdone w
    rw [Connection.run_call_ok hreply, hentry, Execution.requests_preceded,
      Connection.requests_trace]
    exact ⟨List.append_nil _, fun w hw => rfl, fun g hg => by (cases hg)⟩

lemma run_provision_ok {n : String} {subnets : List String} {l : Listener} {v dnsName : Value}
    (hv : m.reply script = .ok v) (hnamed : Plan.named v = .ok dnsName) :
    let r := Request.attach n m.settings.healthCheck
    let x := m.connection.run m.settings script.openError
      (Plan.provision m.settings n subnets l) script.replies
    x.requests = [.create n subnets l, r] ∧
    (∀ w, (m.later script).reply (m.rest script) = .ok w → x.result = .ok (.dnsName dnsName)) ∧
    ∀ f, (m.later script).reply (m.rest script) = .error (.fault f) →
      x.result = .error (Plan.unchecked r f dnsName) := by
  intro r x
  have hreaches : m.connection.reaches script.openError = true := Connection.reaches_of_reply_ok hv
  have hlater : (m.later script).connection.reaches script.openError = true :=
    Connection.reaches_after.trans hreaches
  obtain ⟨entry, k, hplan, -, hcreated⟩ := Plan.provision_eq m.settings n subnets l
  obtain ⟨hrequests, hresults⟩ := @run_monitor (m.later script) (m.rest script) n dnsName
  simp only [x, hplan, Connection.run_log]
  rw [Connection.run_call_ok hv, hcreated, hnamed, Plan.ofChecked_ok, Plan.done_bind]
  refine ⟨?_, hresults⟩
  simp only [Execution.requests_preceded, Connection.requests_trace, hreaches, if_true]
  refine congrArg (_ :: ·) (hrequests.trans ?_)
  rw [sent, rest, hlater]
  rfl

/-- **A half-finished provision always shows.** A creation that faults is all that happens, and its
fault is the cause. One that succeeds is followed by one request for the manager's health check,
whose fault, whichever it is, is reported with the DNS name of what was created. And nothing that a
manager does, whatever it did before, is reported in this way unless it went so. -/
theorem partial_provision_shows (m : Manager) :
    (∀ (script : Script) (n : String) (subnets : List String) (p : Port), Name.IsValid n →
      subnets ≠ [] →
      let q := Request.create n subnets (.forwarding p)
      let r := Request.attach n m.settings.healthCheck
      let x := m.act script
        (.operate (.provision (.text n) (.list (subnets.map .text)) p.toValue))
      (∀ f, m.reply script = .error (.fault f) →
        (∃ reason w, x.result = .error ⟨.provision (.text n) reason (.text f.code),
            some (.service w)⟩ ∧
          w.operation = .text q.operation ∧ w.balancer = .text n ∧ w.origin = some (.fault f)) ∧
        x.requests = m.sent script q) ∧
      ∀ v dnsName, m.reply script = .ok v → v.item "DNSName" = .ok (.text dnsName) →
        x.requests = [q, r] ∧
        (∀ w, (m.later script).reply (m.rest script) = .ok w →
          x.result = .ok (.dnsName (.text dnsName))) ∧
        ∀ f, (m.later script).reply (m.rest script) = .error (.fault f) →
          ∃ e w, x.result = .error ⟨e, some (.service w)⟩ ∧
            e = .healthCheck (.text n) (.text (f.code ++ ": " ++ f.message)) (.text f.code)
              (.text dnsName) ∧
            e.isPartial = true ∧ w.operation = .text r.operation ∧ w.balancer = .text n ∧
            w.origin = some (.fault f)) ∧
    ∀ steps : List (Action × Script), (∀ step ∈ steps, step.2.OnlyFaults) →
      List.Forall₂ (fun step x =>
        let talk := converse x.requests step.2.replies
        NamesCreated talk →
          ((∃ e, x.result = .error e ∧ e.failure.isPartial = true) ↔ HalfDone talk))
        steps (m.runAll steps).1 := by
  constructor
  · intro script n subnets p hn hne q r x
    have hx : x = _ := act_provision hn hne
    constructor
    · intro f hf
      obtain ⟨hresult, hrequests⟩ := @run_provision_fault m script n subnets (.forwarding p) f hf
      rw [hx]
      exact ⟨⟨_, _, hresult, Plan.report_operation _ f, Plan.report_balancer _ f,
        Plan.report_origin _ f⟩, hrequests⟩
    · intro v dnsName hv hitem
      obtain ⟨hrequests, hdone, hfailed⟩ := @run_provision_ok m script n subnets (.forwarding p) v
        _ hv (Plan.named_of_item hitem)
      rw [hx]
      refine ⟨hrequests, hdone, fun f hf => ?_⟩
      exact ⟨_, _, (hfailed f hf).trans (congrArg _ (Plan.unchecked_text dnsName)), rfl, rfl,
        Plan.report_operation _ f, Plan.report_balancer _ f, Plan.report_origin _ f⟩
  · intro steps
    -- the settings are the same at every step, and nothing else of the manager matters
    induction steps generalizing m with
    | nil => exact fun _ => .nil
    | cons step rest ih =>
      intro hsteps
      obtain ⟨a, script⟩ := step
      have hfirst := hsteps _ List.mem_cons_self
      exact .cons (act_isPartial_iff a hfirst)
        (ih _ fun step hstep => hsteps step (List.mem_cons_of_mem _ hstep))

/-- A load balancer that was deleted while its health check was attached shows as created. -/
theorem partial_of_deleted :
    let f : RemoteFault := .service ⟨some (.text "LoadBalancerNotFound"), none,
      .text "ConfigureHealthCheck", none, rfl⟩
    let script : Script :=
      ⟨[.ok (.record [("DNSName", .text "lb.example")]), .error (.fault f)], none, none⟩
    let a : Action :=
      .operate (.provision (.text "api-lb") (.list [.text "subnet-1"]) (.int 6443))
    let m := ofSettings ⟨.null, .null, .controlPlane, .standard⟩
    (∃ e, (m.act script a).result = .error e ∧ e.failure.isPartial = true) ∧
      HalfDone (converse (m.act script a).requests script.replies) := by
  intro f script a m
  have hnames : NamesCreated (converse (m.act script a).requests script.replies) := by
    intro n subnets l v hmem
    rcases List.mem_cons.mp hmem with h | h
    · cases h
      exact ⟨"lb.example", rfl⟩
    · cases List.mem_singleton.mp h
  have hshows := (partial_provision_shows m).1 script "api-lb" ["subnet-1"] .controlPlane rfl
    (by decide)
  obtain ⟨e, w, hresult, -, hpartial, -⟩ := (hshows.2 (.record [("DNSName", .text "lb.example")])
    "lb.example" rfl rfl).2.2 f rfl
  have hruns := (partial_provision_shows m).2 [(a, script)] (by
    intro step hstep
    obtain rfl := List.mem_singleton.mp hstep
    exact ⟨by simp [script], by simp [script]⟩)
  obtain ⟨hiff, -⟩ := List.forall₂_cons.mp hruns
  exact ⟨⟨_, hresult, hpartial⟩, (hiff hnames).mp ⟨_, hresult, hpartial⟩⟩

end Manager

end Balancer
