import Balancer.Proofs.Lifecycle

/-!
Runs beside each other: what does not depend on the connection that a manager has.

A plan sees nothing of its connection but what comes back. So two connections on which the same
requests get through cannot be told apart by it (`run_agreesOn`), whatever else differs. Main
statements: a manager for callers that wait does at every step what the one that it runs would do
(`blocking_mirrors`), and what a manager did before shows in nothing that it does
(`nothing_is_remembered`).
-/

namespace Balancer

/-- A session is made without the provider's knowledge. -/
def Event.isSession : Event → Bool
  | .session => true
  | _ => false

def Event.isOpening : Event → Bool
  | .session => true
  | .opened _ => true
  | _ => false

/-- Two executions that agree in all but the connections that they leave and the events that do not
count. -/
structure Execution.AgreesOn {α : Type} (counts : Event → Bool) (x y : Execution α) : Prop where
  result : x.result = y.result
  replies : x.replies = y.replies
  events : x.events.filter counts = y.events.filter counts
  logs : x.logs = y.logs

lemma Execution.AgreesOn.preceded {α : Type} {counts : Event → Bool} {x y : Execution α}
    {l r : List Event} (logs : List LogEntry) (h : x.AgreesOn counts y)
    (hlr : l.filter counts = r.filter counts) :
    (x.preceded l logs).AgreesOn counts (y.preceded r logs) := by
  refine ⟨h.result, h.replies, ?_, congrArg (logs ++ ·) h.logs⟩
  simp only [Execution.preceded, List.filter_append, hlr, h.events]

namespace Connection

variable {α : Type} {s : Settings} {openError : Option RemoteError} {counts : Event → Bool}
  {c d : Connection} {replies : List (Except RemoteError Value)}

lemma reply_congr (h : c.reaches openError = d.reaches openError) :
    c.reply openError replies = d.reply openError replies := by
  rcases hc : c.reaches openError with _ | _
  · obtain ⟨e, he, hreply⟩ := @reply_of_not_reaches openError c replies hc
    obtain ⟨e', he', hreply'⟩ := @reply_of_not_reaches openError d replies (h ▸ hc)
    obtain rfl := Option.some.inj (he.symm.trans he')
    rw [hreply, hreply']
  · rw [reply_of_reaches hc, reply_of_reaches (h ▸ hc)]

lemma left_congr (h : c.reaches openError = d.reaches openError) :
    c.left openError replies = d.left openError replies := by
  rw [left, left, h]

/-- A relation between connections that a plan cannot tell apart: the same requests get through,
what is done for them differs at most in what does not count, and they are related again after
it. -/
structure IsKept (s : Settings) (openError : Option RemoteError) (counts : Event → Bool)
    (R : Connection → Connection → Prop) : Prop where
  reaches : ∀ c d, R c d → c.reaches openError = d.reaches openError
  opening : ∀ c d, R c d →
    (c.opening s openError).filter counts = (d.opening s openError).filter counts
  after : ∀ c d, R c d → R (c.after s openError) (d.after s openError)

variable {R : Connection → Connection → Prop}

lemma IsKept.trace (hR : IsKept s openError counts R) (h : R c d) (q : Request) :
    (c.trace s openError q).filter counts = (d.trace s openError q).filter counts := by
  simp only [Connection.trace, List.filter_append, hR.opening c d h, hR.reaches c d h]

/-- **A plan cannot tell related connections apart**, and leaves related ones. -/
theorem run_agreesOn (hR : IsKept s openError counts R) (p : Plan α) (h : R c d)
    (replies : List (Except RemoteError Value)) :
    (run s openError p c replies).AgreesOn counts (run s openError p d replies) ∧
      R (run s openError p c replies).connection (run s openError p d replies).connection := by
  induction p generalizing c d replies with
  | done a => exact ⟨⟨rfl, rfl, rfl, rfl⟩, h⟩
  | fail e => exact ⟨⟨rfl, rfl, rfl, rfl⟩, h⟩
  | log entry next ih =>
    obtain ⟨hagrees, hkept⟩ := ih h replies
    exact ⟨hagrees.preceded [entry] (l := []) rfl, hkept⟩
  | ask q next ih =>
    have hreaches := hR.reaches c d h
    have hafter := hR.after c d h
    have htrace := hR.trace h q
    simp only [run, request_eq, reply_congr hreaches, left_congr hreaches]
    rcases deliver (d.reply openError replies) with e | a
    · exact ⟨⟨rfl, rfl, htrace, rfl⟩, hafter⟩
    · obtain ⟨hagrees, hkept⟩ := ih a hafter (d.left openError replies)
      exact ⟨hagrees.preceded [] htrace, hkept⟩

/-- Whether there is a session shows in nothing but its creation. -/
lemma isKept_client (s : Settings) (openError : Option RemoteError) :
    IsKept s openError (fun e => !e.isSession) fun c d => c.client = d.client := by
  refine ⟨?reaches, ?opening, ?after⟩ <;> rintro ⟨session, client⟩ ⟨session', client'⟩ rfl
  case reaches => rfl
  case opening =>
    cases client <;> cases session <;> cases session' <;> cases openError <;> rfl
  case after => cases client <;> cases openError <;> rfl

/-- Where every client opens, any connection is as good as any other. -/
lemma isKept_any (s : Settings) : IsKept s .none (fun e => !e.isOpening) fun _ _ => True := by
  refine ⟨?reaches, ?opening, fun _ _ _ => trivial⟩ <;>
    rintro ⟨session, client⟩ ⟨session', client'⟩ -
  case reaches => cases client <;> cases client' <;> rfl
  case opening =>
    cases client <;> cases session <;> cases client' <;> cases session' <;> rfl

end Connection

/-! ### A manager and one for callers that wait -/

/-- A manager for callers that wait stands for another one: both have the same settings, a client or
none, and the loop runs as long as there is one. -/
structure BlockingManager.Mirrors (b : BlockingManager) (m : Manager) : Prop where
  settings : b.manager.settings = m.settings
  client : b.manager.connection.client = m.connection.client
  live : b.IsLive

/-- As long as no closing failed even the sessions are the same. -/
structure BlockingManager.Matches (b : BlockingManager) (m : Manager) : Prop where
  manager : b.manager = m
  idle : b.isRunning = false → m.connection = .none

def FailsToClose (steps : List (Action × Script)) (xs : List (Execution Outcome)) (k : Nat) :
    Prop :=
  ∃ script x e, steps[k]? = some (.close, script) ∧ xs[k]? = some x ∧ x.result = .error e

namespace BlockingManager

variable {b : BlockingManager} {m : Manager} {script : Script}

lemma Mirrors.act (h : b.Mirrors m) (script : Script) (a : Action) :
    (b.act script a).AgreesOn (fun e => !e.isSession) (m.act script a) ∧
      (b.next (b.act script a) a).Mirrors (m.next (m.act script a)) := by
  cases a with
  | operate o =>
    obtain ⟨hagrees, hclient⟩ := Connection.run_agreesOn
      (Connection.isKept_client m.settings script.openError) (o.plan m.settings) h.client
      script.replies
    rw [BlockingManager.act, Manager.act, Manager.act, h.settings]
    exact ⟨hagrees, h.settings, hclient, fun _ => rfl⟩
  | close =>
    have hclient := h.client
    have hend : (b.act script .close).connection.client = (m.act script .close).connection.client :=
      (client_act_close h.live script).trans (m.client_act_close script).symm
    refine ⟨?_, h.settings, hend, h.live.next script .close⟩
    rcases hm : m.connection.client with _ | _
    -- there is nothing to close, whether the loop runs or not
    · rw [hm] at hclient
      rw [BlockingManager.act, Manager.act_close_of_no_client hm]
      split
      · rw [Manager.act_close_of_no_client hclient]
        exact ⟨rfl, rfl, rfl, rfl⟩
      · exact ⟨rfl, rfl, rfl, rfl⟩
    · rw [hm] at hclient
      rw [BlockingManager.act, if_pos (h.live hclient), Manager.act_close_of_client hm,
        Manager.act_close_of_client hclient]
      cases script.closeError <;> exact ⟨rfl, rfl, rfl, rfl⟩

lemma Mirrors.runAll (h : b.Mirrors m) (steps : List (Action × Script)) :
    List.Forall₂ (Execution.AgreesOn fun e => !e.isSession) (b.runAll steps).1 (m.runAll steps).1 ∧
      (b.runAll steps).2.Mirrors (m.runAll steps).2 := by
  induction steps generalizing b m with
  | nil => exact ⟨.nil, h⟩
  | cons step rest ih =>
    obtain ⟨hagrees, hnext⟩ := h.act step.2 step.1
    obtain ⟨hrest, hlast⟩ := ih hnext
    exact ⟨.cons hagrees hrest, hlast⟩

lemma Matches.act (h : b.Matches m) (script : Script) (a : Action) :
    b.act script a = m.act script a := by
  obtain ⟨rfl, hidle⟩ := h
  cases a with
  | operate o => rfl
  | close =>
    rw [BlockingManager.act]
    split
    · rfl
    · next hrunning =>
      have hnone : b.manager.connection = .none := hidle (by simpa using hrunning)
      rw [Manager.act_close_of_no_client (by rw [hnone]; rfl), hnone]

lemma Matches.next (h : b.Matches m) {a : Action}
    (hok : ∀ e, a = .close → (m.act script a).result ≠ .error e) :
    (b.next (m.act script a) a).Matches (m.next (m.act script a)) := by
  obtain ⟨rfl, hidle⟩ := h
  cases a with
  | operate o => exact ⟨rfl, fun hrunning => by cases hrunning⟩
  | close =>
    refine ⟨rfl, fun _ => ?_⟩
    have hclosed : ∀ e, (b.manager.act script .close).result ≠ .error e := fun e => hok e rfl
    rw [Manager.next]
    rcases hclient : b.manager.connection.client with _ | _
    · rw [Manager.act_close_of_no_client hclient]
    · rw [Manager.act_close_of_client hclient] at hclosed ⊢
      rcases hclose : script.closeError with _ | e
      · rfl
      · rw [hclose] at hclosed
        exact (hclosed _ rfl).elim

lemma Matches.runAll (h : b.Matches m) (steps : List (Action × Script)) (k : Nat)
    (hk : ∀ j < k, ¬ FailsToClose steps (m.runAll steps).1 j) :
    (b.runAll steps).1[k]? = (m.runAll steps).1[k]? := by
  induction steps generalizing b m k with
  | nil => rfl
  | cons step rest ih =>
    obtain ⟨a, script⟩ := step
    have hfirst := h.act script a
    cases k with
    | zero => exact congrArg some hfirst
    | succ k =>
      have hok : ∀ e, a = .close → (m.act script a).result ≠ .error e := by
        rintro e rfl he
        exact hk 0 (Nat.succ_pos k) ⟨script, _, e, rfl, rfl, he⟩
      have hrest : ((b.next (b.act script a) a).runAll rest).1[k]? =
          ((m.next (m.act script a)).runAll rest).1[k]? := by
        rw [hfirst]
        exact ih (h.next hok) k fun j hj hfails => hk (j + 1) (Nat.succ_lt_succ hj) hfails
      exact hrest

end BlockingManager

/-- **A manager for callers that wait does what the one that it runs would do**, at every step of
every run and when its context is left: the same answers, the same entries in the log, and the same
events but for the creation of sessions. Until a closing fails there is no difference at all. -/
theorem blocking_mirrors (s : Settings) (steps : List (Action × Script)) :
    let x := (Manager.ofSettings s).runAll steps
    let y := (BlockingManager.ofSettings s).runAll steps
    List.Forall₂ (Execution.AgreesOn fun e => !e.isSession) y.1 x.1 ∧
    (∀ exit : Script,
      (y.2.act exit .close).AgreesOn (fun e => !e.isSession) (x.2.act exit .close)) ∧
    ∀ k, (∀ j < k, ¬ FailsToClose steps x.1 j) → y.1[k]? = x.1[k]? := by
  intro x y
  have hmirrors : (BlockingManager.ofSettings s).Mirrors (Manager.ofSettings s) :=
    ⟨rfl, rfl, fun hclient => by cases hclient⟩
  have hmatches : (BlockingManager.ofSettings s).Matches (Manager.ofSettings s) :=
    ⟨rfl, fun _ => rfl⟩
  obtain ⟨hsteps, hlast⟩ := hmirrors.runAll steps
  exact ⟨hsteps, fun exit => (hlast.act exit .close).1, hmatches.runAll steps⟩

/-- After a closing that failed the next one finds no loop. So the session stays, and the next
client is opened from it. -/
theorem session_stays_without_loop :
    let s : Settings := ⟨.null, .null, .controlPlane, .standard⟩
    let ask : Action := .operate (.lookup (.text "api-lb"))
    let fine : Script := ⟨[], none, none⟩
    let failing : Script := ⟨[], none, some (.foreign ⟨"OSError", some "broken pipe"⟩)⟩
    let steps := [(ask, fine), (.close, failing), (.close, fine), (ask, fine)]
    let x := ((Manager.ofSettings s).runAll steps).1
    let y := ((BlockingManager.ofSettings s).runAll steps).1
    (∀ j < 1, ¬ FailsToClose steps x j) ∧ y[1]? = x[1]? ∧
      x[3]?.map (·.events.map Event.isSession) = some [true, false, false] ∧
      y[3]?.map (·.events.map Event.isSession) = some [false, false] := by
  intro s ask fine failing steps x y
  have hfirst : ∀ j < 1, ¬ FailsToClose steps x j := by
    rintro j hj ⟨script, z, e, hstep, -, -⟩
    obtain rfl : j = 0 := by omega
    simp [steps, ask] at hstep
  exact ⟨hfirst, (blocking_mirrors s steps).2.2 1 hfirst, rfl, rfl⟩

/-! ### What came before -/

lemma Manager.settings_runAll (m : Manager) (steps : List (Action × Script)) :
    (m.runAll steps).2.settings = m.settings := by
  induction steps generalizing m with
  | nil => rfl
  | cons step rest ih => exact ih (m.next (m.act step.2 step.1))

lemma Manager.act_agreesOn {m n : Manager} {script : Script} (h : m.settings = n.settings)
    (hopen : script.openError = none) (o : Operation) :
    (m.act script (.operate o)).AgreesOn (fun e => !e.isOpening) (n.act script (.operate o)) := by
  rw [act, act, hopen, h]
  exact (Connection.run_agreesOn (Connection.isKept_any n.settings) (o.plan n.settings) trivial
    script.replies).1

/-- **Nothing is remembered.** Whatever a manager of either kind did before, its settings are those
that it was made with; and where every client opens, an operation has the answer, the requests and
the entries in the log that it would have on a new manager, and differs only in how the connection
is made. -/
theorem nothing_is_remembered (s : Settings) (past : List (Action × Script)) :
    let m := ((Manager.ofSettings s).runAll past).2
    let b := ((BlockingManager.ofSettings s).runAll past).2
    m.settings = s ∧ b.manager.settings = s ∧
    ∀ (o : Operation) (script : Script), script.openError = none →
      (m.act script (.operate o)).AgreesOn (fun e => !e.isOpening)
        ((Manager.ofSettings s).act script (.operate o)) ∧
      (b.act script (.operate o)).AgreesOn (fun e => !e.isOpening)
        ((BlockingManager.ofSettings s).act script (.operate o)) := by
  intro m b
  have hmirrors : (BlockingManager.ofSettings s).Mirrors (Manager.ofSettings s) :=
    ⟨rfl, rfl, fun hclient => by cases hclient⟩
  have hm : m.settings = s := (Manager.ofSettings s).settings_runAll past
  have hb : b.manager.settings = s := (hmirrors.runAll past).2.settings.trans hm
  exact ⟨hm, hb, fun o script hopen =>
    ⟨Manager.act_agreesOn hm hopen o, Manager.act_agreesOn hb hopen o⟩⟩

/-- Neither a client that did not open nor a closing that failed shows in what follows. -/
theorem asked_again_after_failures :
    let s : Settings := ⟨.null, .null, .controlPlane, .standard⟩
    let lost : RemoteError :=
      .fault (.transport ⟨"NoCredentialsError", "Unable to locate credentials"⟩)
    let ask : Operation := .existence (.text "api-lb")
    let past : List (Action × Script) :=
      [(.operate ask, ⟨[], some lost, none⟩), (.operate ask, ⟨[], none, none⟩),
        (.close, ⟨[], none, some lost⟩)]
    let script : Script := ⟨[.error lost], none, none⟩
    let x := ((Manager.ofSettings s).runAll past).2.act script (.operate ask)
    let fresh := (Manager.ofSettings s).act script (.operate ask)
    script.openError = none ∧ x.AgreesOn (fun e => !e.isOpening) fresh ∧
      x.events.length < fresh.events.length := by
  intro s lost ask past script x fresh
  exact ⟨rfl, ((nothing_is_remembered s past).2.2 ask script rfl).1, by decide⟩

end Balancer
