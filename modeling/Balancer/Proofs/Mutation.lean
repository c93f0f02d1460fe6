import Balancer.Proofs.Absence
import Balancer.Proofs.Decoding

/-!
Mutations: what becomes of a fault that a change to a load balancer meets.

Whatever is changed, it is done in one request, and a fault of that request ends the operation in
one of few ways: the load balancer is not there, what was asked for is so already, or the fault is
passed on. Main statement: which of them it is depends on what the service says and on nothing else
(`mutation_answers_for_fault`).
-/

namespace Balancer

/-- The change that an operation asks for if its arguments pass. Without instances none is asked
for. -/
inductive Mutates (s : Settings) : Operation → Request → Prop
  | configureHealthCheck {name : Value} {n : String} {check : Option HealthCheck}
      (hn : Name.check name = .ok n) :
      Mutates s (.configureHealthCheck name check) (.attach n (check.getD s.healthCheck))
  | addListener {name : Value} {n : String} {l : Listener} (hn : Name.check name = .ok n) :
      Mutates s (.addListener name l) (.bind n l)
  | setPublic {name port : Value} {n : String} {l : Listener} (hn : Name.check name = .ok n)
      (hl : Listener.tcp (if port.isNull then s.controlPlanePort.toValue else port) = .ok l) :
      Mutates s (.setPublic name port) (.bind n l)
  | removeListener {name port : Value} {n : String} (hn : Name.check name = .ok n) :
      Mutates s (.removeListener name port) (.unbind n port)
  | setPrivate {name : Value} {n : String} (hn : Name.check name = .ok n) :
      Mutates s (.setPrivate name) (.unbind n s.controlPlanePort.toValue)
  | addInstances {name ids : Value} {n id : String} {r : List String}
      (hn : Name.check name = .ok n) (hids : Instances.read ids = .ok (id :: r)) :
      Mutates s (.addInstances name ids) (.register n (id :: r))
  | removeInstances {name ids : Value} {n id : String} {r : List String}
      (hn : Name.check name = .ok n) (hids : Instances.read ids = .ok (id :: r)) :
      Mutates s (.removeInstances name ids) (.deregister n (id :: r))

/-- What a change asks for may be so already: a listener that is to be removed is not there. -/
def Request.IsMoot (q : Request) (f : RemoteFault) : Prop :=
  (∃ n port, q = .unbind n port) ∧ f.Says .listenerNotFound

/-- A listener is refused as a duplicate, whether it is the same as the one on its port or not. -/
def Request.IsDuplicate (q : Request) (f : RemoteFault) : Prop :=
  (∃ n l, q = .bind n l) ∧ f.Says .duplicateListener

/-- A fault that means nothing to a change. -/
def Request.IsForeignTo (q : Request) (f : RemoteFault) : Prop :=
  ¬ f.Says .balancerNotFound ∧ ¬ q.IsMoot f ∧ ¬ q.IsDuplicate f

lemma Request.fault_cases (q : Request) (f : RemoteFault) :
    f.Says .balancerNotFound ∨ q.IsMoot f ∨ q.IsDuplicate f ∨
      q.IsForeignTo f ∧ ((∃ n check, q = .attach n check) ∨ ∀ n check, q ≠ .attach n check) := by
  by_cases habsent : f.Says .balancerNotFound
  · exact .inl habsent
  · by_cases hmoot : q.IsMoot f
    · exact .inr (.inl hmoot)
    · by_cases hduplicate : q.IsDuplicate f
      · exact .inr (.inr (.inl hduplicate))
      · refine .inr (.inr (.inr ⟨⟨habsent, hmoot, hduplicate⟩, ?_⟩))
        cases q <;> simp

namespace Plan

def trouble (q : Request) (f : RemoteFault) : Plan Outcome :=
  match q with
  | .attach n check => .fail (unchecked (.attach n check) f .null)
  | q => failWith q f

def facing (q : Request) (f : RemoteFault) : Plan Outcome :=
  match f.kind with
  | .balancerNotFound => failNotFound q.balancer
  | .duplicateListener =>
    match q with
    | .bind n l => settle n l f
    | q => trouble q f
  | .listenerNotFound =>
    match q with
    | .unbind n port =>
      noteAbout .debug port.count? (fun t => "No listener on port " ++ t ++ " of " ++ n) >>=
        fun _ => .done .nothing
    | q => trouble q f
  | _ => trouble q f

variable {q : Request} {f : RemoteFault}

lemma facing_of_absent (h : f.Says .balancerNotFound) :
    facing q f = failNotFound q.balancer := by
  cases q <;> simp [facing, h.kind_eq]

lemma facing_of_moot {n : String} {port : Value} (h : f.Says .listenerNotFound) :
    facing (.unbind n port) f =
      noteAbout .debug port.count? (fun t => "No listener on port " ++ t ++ " of " ++ n) >>=
        fun _ => .done .nothing := by
  simp [facing, h.kind_eq]

lemma facing_of_duplicate {n : String} {l : Listener} (h : f.Says .duplicateListener) :
    facing (.bind n l) f = settle n l f := by
  simp [facing, h.kind_eq]

lemma facing_attach {n : String} {check : HealthCheck} (h : ¬ f.Says .balancerNotFound) :
    facing (.attach n check) f = .fail (unchecked (.attach n check) f .null) := by
  rw [← RemoteFault.kind_eq_iff (by decide)] at h
  rcases hkind : f.kind with _ | _ | _ | _ | _ <;> simp_all [facing, trouble]

lemma facing_of_foreign (hq : ∀ n check, q ≠ .attach n check) (h : q.IsForeignTo f) :
    facing q f = failWith q f := by
  obtain ⟨habsent, hmoot, hduplicate⟩ := h
  rw [← RemoteFault.kind_eq_iff (by decide)] at habsent
  simp only [Request.IsMoot, ← RemoteFault.kind_eq_iff (k := .listenerNotFound) (by decide),
    Request.IsDuplicate, ← RemoteFault.kind_eq_iff (k := .duplicateListener) (by decide)]
    at hmoot hduplicate
  cases q <;> rcases hkind : f.kind with _ | _ | _ | _ | _ <;> simp_all [facing, trouble]

lemma requests_facing {s : Settings} {openError : Option RemoteError} {c : Connection}
    {replies : List (Except RemoteError Value)} (hbind : ∀ n l, q ≠ .bind n l) :
    (c.run s openError (facing q f) replies).requests = [] := by
  rcases q.fault_cases f with h | ⟨⟨n, port, rfl⟩, h⟩ | ⟨⟨n, l, rfl⟩, -⟩ |
    ⟨h, ⟨n, check, rfl⟩ | hne⟩
  · rw [facing_of_absent h]
    rfl
  · rw [facing_of_moot h]
    rfl
  · exact absurd rfl (hbind n l)
  · rw [facing_attach h.1]
    rfl
  · rw [facing_of_foreign hne h]
    rfl

lemma facing_eq_fail (hbind : ∀ n l, q ≠ .bind n l) (hunbind : ∀ n port, q ≠ .unbind n port) :
    ∃ e, facing q f = .fail e := by
  rcases q.fault_cases f with h | ⟨⟨n, port, rfl⟩, h⟩ | ⟨⟨n, l, rfl⟩, -⟩ |
    ⟨h, ⟨n, check, rfl⟩ | hne⟩
  · exact ⟨_, facing_of_absent h⟩
  · exact absurd rfl (hunbind n port)
  · exact absurd rfl (hbind n l)
  · exact ⟨_, facing_attach h.1⟩
  · exact ⟨_, facing_of_foreign hne h⟩

/-- What a listener that is refused as a duplicate comes to, once the load balancer is described. -/
def compared (n : String) (l : Listener) (f : RemoteFault) (d : Description) : Plan Outcome :=
  if (d.listener? l.frontend.toValue).any fun m => !l.conflictsWith m then
    note .debug ("Listener on port " ++ toString l.frontend.number ++ " already present on " ++
      n) >>= fun _ => .done .nothing
  else .fail ⟨.conflict (.text n) l (.text f.message), some (.remote (.fault f))⟩

lemma settle_of_isValid {n : String} {l : Listener} (hn : Name.IsValid n) :
    settle n l f = describe n >>= compared n l f := by
  have hname : Name.check (.text n) = .ok n := hn
  simp only [settle, hname, ofChecked_ok, done_bind]
  rfl

lemma run_compared {s : Settings} {openError : Option RemoteError} {c : Connection}
    {replies : List (Except RemoteError Value)} {v : Value} {d : Description}
    (hd : Description.ofWire v = .ok d) {n : String} {l : Listener} :
    (c.run s openError (compared n l f d) replies).result =
        (if d.listener? l.frontend.toValue = some l then .ok .nothing
          else .error ⟨.conflict (.text n) l (.text f.message), some (.remote (.fault f))⟩) ∧
      (c.run s openError (compared n l f d) replies).requests = [] := by
  simp only [compared, Description.any_not_conflicting_iff hd]
  split <;> exact ⟨rfl, rfl⟩

/-- A plan that makes a request, is content with any answer, and goes on from a fault as every
change does. -/
def IsChange (p : Plan Outcome) (q : Request) : Prop :=
  ∃ k, p = (call q >>= k) ∧ (∀ f, k (.error f) = facing q f) ∧
    ∀ v, ∃ entry, k (.ok v) = .log entry (.done .nothing)

lemma attach_isChange (n : String) (check : HealthCheck) :
    (attach n check).IsChange (.attach n check) := by
  refine ⟨_, rfl, fun f => ?_, fun v => ⟨_, rfl⟩⟩
  rcases hkind : f.kind with _ | _ | _ | _ | _ <;> simp [facing, trouble, hkind, Request.balancer]

lemma addListener_isChange (n : String) (l : Listener) :
    (addListener n l).IsChange (.bind n l) := by
  refine ⟨_, rfl, fun f => ?_, fun v => ⟨_, rfl⟩⟩
  rcases hkind : f.kind with _ | _ | _ | _ | _ <;> simp [facing, trouble, hkind, Request.balancer]

lemma removeListener_isChange (n : String) (port : Value) :
    (removeListener n port).IsChange (.unbind n port) := by
  refine ⟨_, rfl, fun f => ?_, fun v => ⟨_, rfl⟩⟩
  rcases hkind : f.kind with _ | _ | _ | _ | _ <;> simp [facing, trouble, hkind, Request.balancer]

lemma register_isChange (n id : String) (r : List String) :
    (changeMembership (.register n (id :: r)) (id :: r)).IsChange (.register n (id :: r)) := by
  refine ⟨_, rfl, fun f => ?_, fun v => ⟨_, rfl⟩⟩
  rcases hkind : f.kind with _ | _ | _ | _ | _ <;> simp [facing, trouble, hkind]

lemma deregister_isChange (n id : String) (r : List String) :
    (changeMembership (.deregister n (id :: r)) (id :: r)).IsChange (.deregister n (id :: r)) := by
  refine ⟨_, rfl, fun f => ?_, fun v => ⟨_, rfl⟩⟩
  rcases hkind : f.kind with _ | _ | _ | _ | _ <;> simp [facing, trouble, hkind]

end Plan

/-- The change that an intent comes to, if there is anything to change. -/
def Intent.change? : Intent → Option Request
  | .attach n check => some (.attach n check)
  | .bind n l => some (.bind n l)
  | .unbind n port => some (.unbind n port)
  | .register n (id :: r) => some (.register n (id :: r))
  | .deregister n (id :: r) => some (.deregister n (id :: r))
  | _ => none

lemma Intent.eq_of_change? {i : Intent} {q : Request} (h : i.change? = some q) :
    match q with
    | .create .. => False
    | .attach n check => i = .attach n check
    | .bind n l => i = .bind n l
    | .unbind n port => i = .unbind n port
    | .register n ids => i = .register n ids
    | .deregister n ids => i = .deregister n ids
    | .describe _ => False := by
  cases i with
  | register n ids =>
    cases ids <;> cases h
    rfl
  | deregister n ids =>
    cases ids <;> cases h
    rfl
  | _ => cases h <;> rfl

lemma Intent.balancer_of_change? {i : Intent} {q : Request} (h : i.change? = some q) :
    q.balancer = i.balancer := by
  cases i with
  | register n ids => cases ids <;> cases h; rfl
  | deregister n ids => cases ids <;> cases h; rfl
  | _ => cases h <;> rfl

/-- **All changes face a fault alike.** -/
theorem Intent.isChange {s : Settings} {i : Intent} {q : Request} (h : i.change? = some q) :
    (i.plan s).IsChange q := by
  cases i with
  | attach n check => cases h; exact Plan.attach_isChange n check
  | bind n l => cases h; exact Plan.addListener_isChange n l
  | unbind n port => cases h; exact Plan.removeListener_isChange n port
  | register n ids =>
    rcases ids with _ | ⟨id, r⟩
    · cases h
    · cases h; exact Plan.register_isChange n id r
  | deregister n ids =>
    rcases ids with _ | ⟨id, r⟩
    · cases h
    · cases h; exact Plan.deregister_isChange n id r
  | _ => cases h

lemma Mutates.read_eq {s : Settings} {o : Operation} {q : Request} (h : Mutates s o q) :
    ∃ i, o.read s = .ok i ∧ i.change? = some q := by
  cases h with
  | configureHealthCheck hn => exact ⟨.attach _ _, by simp only [Operation.read, hn]; rfl, rfl⟩
  | addListener hn => exact ⟨.bind _ _, by simp only [Operation.read, hn]; rfl, rfl⟩
  | setPublic hn hl => exact ⟨.bind _ _, by simp only [Operation.read, hn, hl]; rfl, rfl⟩
  | removeListener hn => exact ⟨.unbind _ _, by simp only [Operation.read, hn]; rfl, rfl⟩
  | setPrivate hn => exact ⟨.unbind _ _, by simp only [Operation.read, hn]; rfl, rfl⟩
  | addInstances hn hids =>
    exact ⟨.register _ _, by simp only [Operation.read, hn, hids]; rfl, rfl⟩
  | removeInstances hn hids =>
    exact ⟨.deregister _ _, by simp only [Operation.read, hn, hids]; rfl, rfl⟩

lemma Mutates.isValid {s : Settings} {o : Operation} {q : Request} (h : Mutates s o q) :
    Name.IsValid q.balancer := by
  cases h <;> exact (Name.check_eq_ok_iff.mp ‹Name.check _ = .ok _›).2

lemma ofWire_of_sought {n : String} {reply : Except RemoteError Value} {d : Description}
    (h : sought n reply = .ok (some d)) : ∃ v, Description.ofWire v = .ok d := by
  obtain ⟨_, w, -, -, hw⟩ := Description.sought_eq_some_iff.mp h
  exact ⟨w, hw⟩

namespace Manager

variable {m : Manager} {script : Script} {o : Operation} {q : Request} {f : RemoteFault}

def later (m : Manager) (script : Script) : Manager :=
  { m with connection := m.connection.after m.settings script.openError }

def rest (m : Manager) (script : Script) : Script :=
  { script with replies := m.connection.left script.openError script.replies }

/-- The requests that a change makes itself: one, if it gets through. -/
def sent (m : Manager) (script : Script) (q : Request) : List Request :=
  if m.connection.reaches script.openError then [q] else []

lemma act_of_fault (hq : Mutates m.settings o q) (hf : m.reply script = .error (.fault f)) :
    m.act script (.operate o) =
      ((m.later script).connection.run m.settings script.openError (Plan.facing q f)
        (m.rest script).replies).preceded
        (m.connection.trace m.settings script.openError q) [Connection.faultEntry q f] := by
  obtain ⟨i, hread, hi⟩ := hq.read_eq
  obtain ⟨k, hplan, hk, -⟩ := @Intent.isChange m.settings i q hi
  rw [act_of_read_ok hread, hplan, Connection.run_call_fault hf, hk]
  rfl

lemma requests_of_change {i : Intent} (hread : o.read m.settings = .ok i)
    (hq : i.change? = some q) (hbind : ∀ n l, q ≠ .bind n l) :
    (m.act script (.operate o)).requests = m.sent script q := by
  obtain ⟨k, hplan, hfault, hanswer⟩ := @Intent.isChange m.settings i q hq
  rw [act_of_read_ok hread, hplan, Connection.requests_run_call]
  · rfl
  · rintro (f | v) c replies
    · rw [hfault, Plan.requests_facing hbind]
    · obtain ⟨entry, hentry⟩ := hanswer v
      rw [hentry]
      rfl

lemma reaches_of_change {i : Intent} (hread : o.read m.settings = .ok i) (hq : i.change? = some q)
    (hbind : ∀ n l, q ≠ .bind n l) (hunbind : ∀ n port, q ≠ .unbind n port) {a : Outcome}
    (h : (m.act script (.operate o)).result = .ok a) :
    m.connection.reaches script.openError = true := by
  obtain ⟨k, hplan, hfault, -⟩ := @Intent.isChange m.settings i q hq
  rw [act_of_read_ok hread, hplan] at h
  refine Connection.reaches_of_result_call (fun f => ?_) h
  rw [hfault]
  exact Plan.facing_eq_fail hbind hunbind

lemma ofWire_of_act_describe {n : String} {d : Description} (hn : Name.IsValid n)
    (h : (m.act script (.operate (.describe (.text n)))).result = .ok (.description (some d))) :
    ∃ v, Description.ofWire v = .ok d := by
  change (m.act script (.operate (Question.describe.operation n))).result = _ at h
  rw [(act_question hn .describe).1] at h
  rcases hsought : sought n (m.reply script) with e | _ | d'
  · rw [hsought] at h; cases h
  · rw [hsought] at h; cases h
  · rw [hsought] at h
    cases h
    exact ofWire_of_sought hsought

/-- What a listener that is refused as a duplicate comes to: what a description of the load balancer
tells. -/
lemma run_settle {n : String} {l : Listener} (hn : Name.IsValid n) :
    let x := m.connection.run m.settings script.openError (Plan.settle n l f) script.replies
    let y := m.act script (.operate (.describe (.text n)))
    ((∃ e, y.result = .error e ∧ x.result = .error e) ∨
      ∃ d, y.result = .ok (.description (some d)) ∧
        x.result = if d.listener? l.frontend.toValue = some l then .ok .nothing
          else .error ⟨.conflict (.text n) l (.text f.message), some (.remote (.fault f))⟩) ∧
    x.requests = y.requests := by
  intro x y
  have hread : (Operation.describe (.text n)).read m.settings = .ok (.describe n) :=
    Question.describe.read_operation hn
  have hx : x = m.connection.run m.settings script.openError
      (Plan.describe n >>= Plan.compared n l f) script.replies := by
    rw [← Plan.settle_of_isValid hn]
  have hy : y = m.connection.run m.settings script.openError
      (Plan.describe n >>= fun d => .done (.description (some d))) script.replies :=
    act_of_read_ok hread
  rw [Connection.run_bind] at hx hy
  rcases hd : (m.connection.run m.settings script.openError (Plan.describe n)
    script.replies).result with e | d
  · simp only [Execution.follow, hd] at hx hy
    rw [hx, hy]
    exact ⟨.inl ⟨e, rfl, rfl⟩, rfl⟩
  · simp only [Execution.follow, hd] at hx hy
    have hyd : y.result = .ok (.description (some d)) := by rw [hy]; rfl
    obtain ⟨v, hv⟩ := ofWire_of_act_describe hn hyd
    obtain ⟨hresult, hrequests⟩ := @Plan.run_compared f m.settings script.openError _ _ v d hv n l
    refine ⟨.inr ⟨d, hyd, ?_⟩, ?_⟩
    · rw [hx]
      exact hresult
    · rw [hx, hy]
      simp only [Execution.requests, List.filterMap_append] at hrequests ⊢
      rw [hrequests]
      rfl

lemma act_of_absent (hq : Mutates m.settings o q) (hf : m.reply script = .error (.fault f))
    (h : f.Says .balancerNotFound) :
    (m.act script (.operate o)).result = .error (.bare (.notFound (.text q.balancer))) ∧
      (m.act script (.operate o)).requests = m.sent script q := by
  rw [act_of_fault hq hf, Plan.facing_of_absent h, Execution.requests_preceded,
    Connection.requests_trace]
  exact ⟨rfl, List.append_nil _⟩

lemma act_of_moot (hq : Mutates m.settings o q) (hf : m.reply script = .error (.fault f))
    (h : q.IsMoot f) :
    (m.act script (.operate o)).result = .ok .nothing ∧
      (m.act script (.operate o)).requests = m.sent script q := by
  obtain ⟨⟨n, port, rfl⟩, hcode⟩ := h
  rw [act_of_fault hq hf, Plan.facing_of_moot hcode, Execution.requests_preceded,
    Connection.requests_trace]
  exact ⟨rfl, List.append_nil _⟩

lemma act_of_unattached {n : String} {check : HealthCheck}
    (hq : Mutates m.settings o (.attach n check)) (hf : m.reply script = .error (.fault f))
    (h : (Request.attach n check).IsForeignTo f) :
    (m.act script (.operate o)).result =
        .error ⟨.healthCheck (.text n) (.text (f.code ++ ": " ++ f.message)) (.text f.code) .null,
          some (.service (Plan.report (.attach n check) f))⟩ ∧
      (m.act script (.operate o)).requests = m.sent script (.attach n check) := by
  rw [act_of_fault hq hf, Plan.facing_attach h.1, Execution.requests_preceded,
    Connection.requests_trace]
  exact ⟨rfl, List.append_nil _⟩

lemma act_of_foreign (hq : Mutates m.settings o q) (hf : m.reply script = .error (.fault f))
    (hne : ∀ n check, q ≠ .attach n check) (h : q.IsForeignTo f) :
    (m.act script (.operate o)).result =
        .error ⟨.service (Plan.report q f), some (.remote (.fault f))⟩ ∧
      (m.act script (.operate o)).requests = m.sent script q := by
  rw [act_of_fault hq hf, Plan.facing_of_foreign hne h, Execution.requests_preceded,
    Connection.requests_trace]
  exact ⟨rfl, List.append_nil _⟩

lemma act_of_duplicate {n : String} {l : Listener} (hq : Mutates m.settings o (.bind n l))
    (hf : m.reply script = .error (.fault f)) (h : f.Says .duplicateListener) :
    let x := m.act script (.operate o)
    let y := (m.later script).act (m.rest script) (.operate (.describe (.text n)))
    ((∃ e, y.result = .error e ∧ x.result = .error e) ∨
      ∃ d, y.result = .ok (.description (some d)) ∧
        x.result = if d.listener? l.frontend.toValue = some l then .ok .nothing
          else .error ⟨.conflict (.text n) l (.text f.message), some (.remote (.fault f))⟩) ∧
    x.requests =
      m.sent script (.bind n l) ++ (m.later script).sent (m.rest script) (.describe n) := by
  intro x y
  have hn : Name.IsValid n := hq.isValid
  have hx : x = _ := act_of_fault hq hf
  rw [Plan.facing_of_duplicate h] at hx
  obtain ⟨hresult, hrequests⟩ := @run_settle (m.later script) (m.rest script) f n l hn
  constructor
  · rw [hx]
    exact hresult
  · have hy : y.requests = (m.later script).sent (m.rest script) (.describe n) :=
      (act_question hn .describe).2
    rw [hx, Execution.requests_preceded, Connection.requests_trace, ← hy]
    exact congrArg _ hrequests

/-- **A change answers for its fault.** Whatever the state of the connection and wherever the fault
comes from: the load balancer is reported as not there, without a cause, exactly as the service says
so; what is so already is a success; a refused duplicate is settled by one more request; and any
other fault is passed on with its request, its load balancer and itself as the cause, a health
check's without a DNS name. -/
theorem mutation_answers_for_fault (m : Manager) (script : Script) {o : Operation} {q : Request}
    {f : RemoteFault} (hq : Mutates m.settings o q) (hf : m.reply script = .error (.fault f)) :
    let x := m.act script (.operate o)
    let y := (m.later script).act (m.rest script) (.operate (.describe (.text q.balancer)))
    (f.Says .balancerNotFound → x.result = .error (.bare (.notFound (.text q.balancer)))) ∧
    (q.IsMoot f → x.result = .ok .nothing) ∧
    (∀ n l, q = .bind n l → f.Says .duplicateListener →
      ((∃ e, y.result = .error e ∧ x.result = .error e) ∨
        ∃ d, y.result = .ok (.description (some d)) ∧
          x.result = if d.listener? l.frontend.toValue = some l then .ok .nothing
            else .error ⟨.conflict (.text n) l (.text f.message), some (.remote (.fault f))⟩) ∧
      x.requests = m.sent script q ++ (m.later script).sent (m.rest script) (.describe n)) ∧
    (∀ n check, q = .attach n check → q.IsForeignTo f →
      ∃ e w, x.result = .error ⟨e, some (.service w)⟩ ∧
        e = .healthCheck (.text n) (.text (f.code ++ ": " ++ f.message)) (.text f.code) .null ∧
        e.isPartial = false ∧ w.operation = .text q.operation ∧ w.balancer = .text n ∧
        w.origin = some (.fault f)) ∧
    ((∀ n check, q ≠ .attach n check) → q.IsForeignTo f →
      ∃ e, x.result = .error e ∧ e.PassesOn q f) ∧
    (¬ q.IsDuplicate f → x.requests = m.sent script q) ∧
    ∀ a, x.result = .ok a → q.IsMoot f ∨
      ∃ n l d, q = .bind n l ∧ f.Says .duplicateListener ∧
        y.result = .ok (.description (some d)) ∧ d.listener? l.frontend.toValue = some l := by
  intro x y
  refine ⟨fun h => (act_of_absent hq hf h).1, fun h => (act_of_moot hq hf h).1, ?settled,
    ?unchecked, fun hne h => ⟨_, (act_of_foreign hq hf hne h).1, Plan.passesOn_report q f⟩,
    ?requests, ?success⟩
  case settled =>
    rintro n l rfl h
    exact act_of_duplicate hq hf h
  case unchecked =>
    rintro n check rfl h
    exact ⟨_, _, (act_of_unattached hq hf h).1, rfl, rfl, Plan.report_operation _ f,
      Plan.report_balancer _ f, Plan.report_origin _ f⟩
  case requests =>
    intro hdup
    rcases q.fault_cases f with h | h | h | ⟨h, ⟨n, check, rfl⟩ | hne⟩
    · exact (act_of_absent hq hf h).2
    · exact (act_of_moot hq hf h).2
    · exact absurd h hdup
    · exact (act_of_unattached hq hf h).2
    · exact (act_of_foreign hq hf hne h).2
  case success =>
    intro a ha
    rcases q.fault_cases f with h | h | ⟨⟨n, l, rfl⟩, h⟩ | ⟨h, ⟨n, check, rfl⟩ | hne⟩
    · rw [(act_of_absent hq hf h).1] at ha; cases ha
    · exact .inl h
    · obtain ⟨⟨e, -, he⟩ | ⟨d, hd, hresult⟩, -⟩ := act_of_duplicate hq hf h
      · rw [he] at ha; cases ha
      · rw [hresult] at ha
        split at ha
        · next hl => exact .inr ⟨n, l, d, rfl, h, hd, hl⟩
        · cases ha
    · rw [(act_of_unattached hq hf h).1] at ha; cases ha
    · rw [(act_of_foreign hq hf hne h).1] at ha; cases ha

/-- A listener that is not there is removed. -/
theorem removed_of_listenerNotFound :
    let f : RemoteFault := .service ⟨some (.text "ListenerNotFoundException"), none,
      .text "DeleteLoadBalancerListeners", none, rfl⟩
    let m := ofSettings ⟨.null, .null, .controlPlane, .standard⟩
    (m.act ⟨[.error (.fault f)], none, none⟩ (.operate (.setPrivate (.text "api-lb")))).result =
      .ok .nothing := by
  intro f m
  have hq : Mutates m.settings (.setPrivate (.text "api-lb")) (.unbind "api-lb" (.int 6443)) :=
    .setPrivate rfl
  have hmoot : Request.IsMoot (.unbind "api-lb" (.int 6443)) f :=
    ⟨⟨_, _, rfl⟩, _, rfl, _, .tail _ (.head _), rfl⟩
  exact (mutation_answers_for_fault m ⟨[.error (.fault f)], none, none⟩ hq rfl).2.1 hmoot

end Manager

end Balancer
