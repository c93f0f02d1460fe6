import Balancer.Manager
import Balancer.Proofs.Reading

/-!
The life of a connection: how sessions and clients come and go over whole runs.

An event finds a connection in some state and leaves it in another one. A run is followed from one
state that its manager is really in to the next, and within each step event by event. Main
statements: whatever a plan does on a connection, each event comes when it may (`undergoes_run`),
and so it is for every run of either manager: an event finds as many clients open as it takes, and
who leaves a manager's context leaves no client behind (`clients_in_turn`).
-/

namespace Balancer

/-- An event with what it finds and what it leaves. Whether a client opens is told by the script,
and so is whether it closes well; it is closed in any case. -/
inductive Connection.Passes (script : Script) : Connection → Event → Connection → Prop
  | created : Passes script ⟨false, false⟩ .session ⟨true, false⟩
  | opened (d : List (String × Value)) (h : script.openError = .none) :
      Passes script ⟨true, false⟩ (.opened d) ⟨true, true⟩
  | unopened (d : List (String × Value)) {e : RemoteError} (h : script.openError = some e) :
      Passes script ⟨true, false⟩ (.opened d) ⟨true, false⟩
  | called {session : Bool} (q : Request) :
      Passes script ⟨session, true⟩ (.called q) ⟨session, true⟩
  | closed {session : Bool} (h : script.closeError = .none) :
      Passes script ⟨session, true⟩ .closed ⟨false, false⟩
  | unclosed {session : Bool} {e : RemoteError} (h : script.closeError = some e) :
      Passes script ⟨session, true⟩ .closed ⟨session, false⟩

inductive Connection.Undergoes (script : Script) : Connection → List Event → Connection → Prop
  | nil (c : Connection) : Undergoes script c [] c
  | cons {c d b : Connection} {e : Event} {r : List Event} (h : c.Passes script e d)
      (hr : Undergoes script d r b) : Undergoes script c (e :: r) b

/-- What an action does to a connection. Where there is no client to close, closing gives up the
session and nothing is to be seen of it. -/
inductive Connection.Lives (script : Script) (c : Connection) :
    Action → Execution Outcome → Prop
  | along {a : Action} {x : Execution Outcome} (h : c.Undergoes script x.events x.connection) :
      Lives script c a x
  | givenUp {x : Execution Outcome} (h : c.client = false) (hevents : x.events = [])
      (hnone : x.connection = .none) : Lives script c .close x

/-- A run, from the connection before each step to the one that the step leaves. -/
inductive Connection.LivesThrough :
    Connection → List (Action × Script) → List (Execution Outcome) → Connection → Prop
  | nil (c : Connection) : LivesThrough c [] [] c
  | cons {c d : Connection} {a : Action} {script : Script} {x : Execution Outcome}
      {steps : List (Action × Script)} {xs : List (Execution Outcome)} (h : c.Lives script a x)
      (hr : LivesThrough x.connection steps xs d) :
      LivesThrough c ((a, script) :: steps) (x :: xs) d

namespace Connection

variable {script : Script} {c d b : Connection}

@[simp] lemma client_none : none.client = false := rfl

lemma Undergoes.append {l r : List Event} (h : c.Undergoes script l d)
    (h' : d.Undergoes script r b) : c.Undergoes script (l ++ r) b := by
  induction h with
  | nil => exact h'
  | cons hfirst _ ih => exact .cons hfirst (ih h')

lemma LivesThrough.append {steps steps' : List (Action × Script)}
    {xs xs' : List (Execution Outcome)} (h : c.LivesThrough steps xs d)
    (h' : d.LivesThrough steps' xs' b) : c.LivesThrough (steps ++ steps') (xs ++ xs') b := by
  induction h with
  | nil => exact h'
  | cons hfirst _ ih => exact .cons hfirst (ih h')

lemma undergoes_trace (s : Settings) (script : Script) (c : Connection) (q : Request) :
    c.Undergoes script (c.trace s script.openError q) (c.after s script.openError) := by
  obtain ⟨session, client⟩ := c
  rcases hopen : script.openError with _ | e
  · cases client with
    | true => exact .cons (.called q) (.nil _)
    | false =>
      cases session with
      | true => exact .cons (.opened _ hopen) (.cons (.called q) (.nil _))
      | false => exact .cons .created (.cons (.opened _ hopen) (.cons (.called q) (.nil _)))
  · cases client with
    | true => exact .cons (.called q) (.nil _)
    | false =>
      cases session with
      | true => exact .cons (.unopened _ hopen) (.nil _)
      | false => exact .cons .created (.cons (.unopened _ hopen) (.nil _))

/-- **Whatever a plan does, each event comes when it may.** -/
theorem undergoes_run {α : Type} (s : Settings) (script : Script) (p : Plan α) (c : Connection)
    (replies : List (Except RemoteError Value)) :
    c.Undergoes script (run s script.openError p c replies).events
      (run s script.openError p c replies).connection := by
  induction p generalizing c replies with
  | done a => exact .nil c
  | fail e => exact .nil c
  | log entry next ih => exact ih c replies
  | ask q next ih =>
    have hfirst := undergoes_trace s script c q
    simp only [run, request_eq]
    rcases deliver (c.reply script.openError replies) with e | a
    · exact hfirst
    · exact hfirst.append (ih a _ _)

end Connection

namespace Manager

variable {m : Manager} {script : Script}

lemma lives_act (m : Manager) (script : Script) (a : Action) :
    m.connection.Lives script a (m.act script a) := by
  cases a with
  | operate o => exact .along (Connection.undergoes_run ..)
  | close =>
    rcases hclient : m.connection.client with _ | _
    · rw [act_close_of_no_client hclient]
      exact .givenUp hclient rfl rfl
    · have hc : m.connection = ⟨m.connection.session, true⟩ := by rw [← hclient]
      rw [act_close_of_client hclient, hc]
      rcases hclose : script.closeError with _ | e
      · exact .along (.cons (.closed hclose) (.nil _))
      · exact .along (.cons (.unclosed hclose) (.nil _))

lemma livesThrough_runAll (m : Manager) (steps : List (Action × Script)) :
    m.connection.LivesThrough steps (m.runAll steps).1 (m.runAll steps).2.connection := by
  induction steps generalizing m with
  | nil => exact .nil _
  | cons step rest ih =>
    exact .cons (lives_act m step.2 step.1) (ih (m.next (m.act step.2 step.1)))

lemma client_act_close (m : Manager) (script : Script) :
    (m.act script .close).connection.client = false := by
  rcases hclient : m.connection.client with _ | _
  · rw [act_close_of_no_client hclient]
    rfl
  · rw [act_close_of_client hclient]
    cases script.closeError <;> rfl

end Manager

namespace BlockingManager

def IsLive (m : BlockingManager) : Prop := m.manager.connection.client = true → m.isRunning = true

variable {m : BlockingManager}

lemma lives_act (m : BlockingManager) (script : Script) (a : Action) :
    m.manager.connection.Lives script a (m.act script a) := by
  cases a with
  | operate o => exact m.manager.lives_act script (.operate o)
  | close =>
    rw [act]
    split
    · exact m.manager.lives_act script .close
    · exact .along (.nil _)

lemma client_act_close (h : m.IsLive) (script : Script) :
    (m.act script .close).connection.client = false := by
  rw [act]
  split
  · exact m.manager.client_act_close script
  · next hrunning => simpa using mt h hrunning

lemma IsLive.next (h : m.IsLive) (script : Script) (a : Action) :
    (m.next (m.act script a) a).IsLive := by
  cases a with
  | operate o => exact fun _ => rfl
  | close =>
    intro hclient
    rw [BlockingManager.next, Manager.next, client_act_close h] at hclient
    cases hclient

lemma isLive_runAll (h : m.IsLive) (steps : List (Action × Script)) :
    (m.runAll steps).2.IsLive := by
  induction steps generalizing m with
  | nil => exact h
  | cons step rest ih => exact ih (h.next step.2 step.1)

lemma livesThrough_runAll (m : BlockingManager) (steps : List (Action × Script)) :
    m.manager.connection.LivesThrough steps (m.runAll steps).1
      (m.runAll steps).2.manager.connection := by
  induction steps generalizing m with
  | nil => exact .nil _
  | cons step rest ih =>
    have hnext : (m.next (m.act step.2 step.1) step.1).manager.connection =
        (m.act step.2 step.1).connection := by
      cases step.1 <;> rfl
    exact .cons (lives_act m step.2 step.1) (hnext ▸ ih _)

lemma exists_act_of_mem_runAll {steps : List (Action × Script)} {x : Execution Outcome}
    (hx : x ∈ (m.runAll steps).1) :
    (∃ (m' : Manager) (script : Script) (a : Action), x = m'.act script a) ∨
      x.result = .ok .nothing ∧ x.requests = [] := by
  induction steps generalizing m with
  | nil => cases hx
  | cons step rest ih =>
    rcases hx with _ | ⟨_, hx⟩
    · obtain ⟨o | _, script⟩ := step
      · exact .inl ⟨m.manager, script, .operate o, rfl⟩
      · rw [act]
        split
        · exact .inl ⟨m.manager, script, .close, rfl⟩
        · exact .inr ⟨rfl, rfl⟩
    · exact ih hx

end BlockingManager

/-! ### Clients in turn -/

def Event.clientsNeeded : Event → Nat
  | .session => 0
  | .opened _ => 0
  | .called _ => 1
  | .closed => 1

/-- All events of a run in turn, each with the script that tells what becomes of it. -/
def history (steps : List (Action × Script)) (xs : List (Execution Outcome)) :
    List (Script × Event) :=
  (steps.zip xs).flatMap fun (step, x) => x.events.map fun e => (step.2, e)

def opensClient : Script × Event → Bool
  | (script, .opened _) => script.openError.isNone
  | _ => false

def closesClient : Script × Event → Bool
  | (_, .closed) => true
  | _ => false

/-- Where some clients are open at first, every event finds as many of them open as it takes. -/
def InTurn (clients : Nat) (h : List (Script × Event)) : Prop :=
  ∀ before script e after, h = before ++ (script, e) :: after →
    clients + before.countP opensClient = e.clientsNeeded + before.countP closesClient

lemma inTurn_nil (n : Nat) : InTurn n [] := by
  intro before script e after h
  simp at h

lemma inTurn_cons {n k : Nat} {script : Script} {e : Event} {r : List (Script × Event)}
    (he : n = e.clientsNeeded)
    (hk : n + [(script, e)].countP opensClient = k + [(script, e)].countP closesClient)
    (hr : InTurn k r) : InTurn n ((script, e) :: r) := by
  intro before script' e' after h
  rcases before with _ | ⟨p, before⟩
  · cases h
    simpa using he
  · cases h
    have hrest := hr before script' e' after rfl
    rw [List.countP_cons, List.countP_cons]
    rw [List.countP_singleton, List.countP_singleton] at hk
    omega

namespace Connection

variable {script : Script} {c d : Connection}

lemma Passes.clientsNeeded {e : Event} (h : c.Passes script e d) :
    c.client.toNat = e.clientsNeeded := by
  cases h <;> rfl

/-- Clients come by opening and go by closing, one at a time. -/
lemma Passes.balanced {e : Event} (h : c.Passes script e d) :
    c.client.toNat + [(script, e)].countP opensClient =
      d.client.toNat + [(script, e)].countP closesClient := by
  cases h <;> simp [opensClient, closesClient, *]

variable {events : List Event} {h : List (Script × Event)}

lemma Undergoes.inTurn_append (hc : c.Undergoes script events d) (hd : InTurn d.client.toNat h) :
    InTurn c.client.toNat (events.map (fun e => (script, e)) ++ h) := by
  induction hc with
  | nil => exact hd
  | cons hfirst _ ih => exact inTurn_cons hfirst.clientsNeeded hfirst.balanced (ih hd)

lemma Undergoes.balanced (hc : c.Undergoes script events d) :
    c.client.toNat + (events.map fun e => (script, e)).countP opensClient =
      d.client.toNat + (events.map fun e => (script, e)).countP closesClient := by
  induction hc with
  | nil => rfl
  | @cons _ _ _ e r hfirst _ ih =>
    have := hfirst.balanced
    rw [List.map_cons, List.countP_cons, List.countP_cons]
    rw [List.countP_singleton, List.countP_singleton] at this
    omega

variable {steps : List (Action × Script)} {xs : List (Execution Outcome)}

theorem LivesThrough.inTurn (hc : c.LivesThrough steps xs d) :
    InTurn c.client.toNat (history steps xs) := by
  induction hc with
  | nil => exact inTurn_nil _
  | cons hfirst hr ih =>
    cases hfirst with
    | along h => exact h.inTurn_append ih
    | givenUp h hevents hnone =>
      rw [hnone] at ih
      simpa [history, hevents, h] using ih

theorem LivesThrough.balanced (hc : c.LivesThrough steps xs d) :
    c.client.toNat + (history steps xs).countP opensClient =
      d.client.toNat + (history steps xs).countP closesClient := by
  induction hc with
  | nil => rfl
  | @cons _ _ a script x steps xs hfirst hr ih =>
    have hhistory : history ((a, script) :: steps) (x :: xs) =
        (x.events.map fun e => (script, e)) ++ history steps xs := rfl
    rw [hhistory, List.countP_append, List.countP_append]
    cases hfirst with
    | along h =>
      have := h.balanced
      omega
    | givenUp h hevents hnone =>
      rw [hevents, h]
      rw [hnone] at ih
      simpa using ih

end Connection

/-- A run from a connection without session and client to another one: step by step it is what may
happen to it, every event finds as many clients open as it takes, and each client that was opened is
closed or still open. -/
structure IsTended (steps : List (Action × Script)) (xs : List (Execution Outcome))
    (c : Connection) : Prop where
  lives : Connection.none.LivesThrough steps xs c
  inTurn : InTurn 0 (history steps xs)
  balanced : (history steps xs).countP opensClient =
    (history steps xs).countP closesClient + c.client.toNat

lemma Connection.LivesThrough.isTended {steps : List (Action × Script)}
    {xs : List (Execution Outcome)} {c : Connection} (h : Connection.none.LivesThrough steps xs c) :
    IsTended steps xs c := by
  refine ⟨h, h.inTurn, ?_⟩
  have hbalanced := h.balanced
  rw [client_none, Bool.toNat_false, Nat.zero_add] at hbalanced
  omega

/-- A run that ends with a closing is over: each client that it opened is closed. -/
structure IsOver (steps : List (Action × Script)) (exit : Script) (xs : List (Execution Outcome))
    (x : Execution Outcome) : Prop where
  tended : IsTended (steps ++ [(.close, exit)]) (xs ++ [x]) x.connection
  noClient : x.connection.client = false
  allClosed : (history (steps ++ [(.close, exit)]) (xs ++ [x])).countP opensClient =
    (history (steps ++ [(.close, exit)]) (xs ++ [x])).countP closesClient

lemma Connection.LivesThrough.isOver {steps : List (Action × Script)}
    {xs : List (Execution Outcome)} {c : Connection} {exit : Script} {x : Execution Outcome}
    (h : LivesThrough .none steps xs c) (hx : c.Lives exit .close x)
    (hclient : x.connection.client = false) : IsOver steps exit xs x := by
  have htended := (h.append (.cons hx (.nil _))).isTended
  refine ⟨htended, hclient, ?_⟩
  rw [htended.balanced, hclient, Bool.toNat_false, Nat.add_zero]

/-- **Clients come and go in turn**, whatever is asked of a manager of either kind and whatever the
provider does. Each event comes when it may: a session when none is held, a client from a session
and when none is open, a request to an open client, a closing to an open client, which it ends in
any case; so there is never more than one client, and none is used or closed after its end. Where
opening fails there is a session and no client. Leaving the context of a manager leaves no client,
and closes as many as were opened. With a manager for callers that wait this is so because a client
is open only while the loop runs. -/
theorem clients_in_turn (s : Settings) (steps : List (Action × Script)) :
    let x := (Manager.ofSettings s).runAll steps
    let y := (BlockingManager.ofSettings s).runAll steps
    IsTended steps x.1 x.2.connection ∧
    IsTended steps y.1 y.2.manager.connection ∧
    y.2.IsLive ∧
    ∀ exit : Script,
      IsOver steps exit x.1 (x.2.act exit .close) ∧
      IsOver steps exit y.1 (y.2.act exit .close) := by
  intro x y
  have hx : Connection.none.LivesThrough steps x.1 x.2.connection :=
    (Manager.ofSettings s).livesThrough_runAll steps
  have hy : Connection.none.LivesThrough steps y.1 y.2.manager.connection :=
    (BlockingManager.ofSettings s).livesThrough_runAll steps
  have hlive : y.2.IsLive :=
    BlockingManager.isLive_runAll (fun hclient => by cases hclient) steps
  refine ⟨hx.isTended, hy.isTended, hlive, fun exit => ⟨?plain, ?blocking⟩⟩
  case plain => exact hx.isOver (x.2.lives_act exit .close) (x.2.client_act_close exit)
  case blocking =>
    exact hy.isOver (y.2.lives_act exit .close) (BlockingManager.client_act_close hlive exit)

end Balancer
