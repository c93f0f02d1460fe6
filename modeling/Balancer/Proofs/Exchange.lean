import Balancer.Manager
import Mathlib.Tactic.Common

/-!
What a plan's requests come to on a connection.

A request ends in a reply: an error of opening the client if one has to be opened and cannot be, or
else what the provider sends. Main statements: how a plan that makes a call goes on, by the reply
(`run_call_ok`, `run_call_fault`, `run_call_foreign`).
-/

namespace Balancer

def Event.request? : Event → Option Request
  | .called q => some q
  | _ => none

/-- A plan asks for something first, whatever it writes to the log before. -/
inductive Plan.AsksFirst {α : Type} (q : Request) : Plan α → Prop
  | ask (next : Answer → Plan α) : AsksFirst q (.ask q next)
  | log {next : Plan α} (entry : LogEntry) (h : AsksFirst q next) : AsksFirst q (.log entry next)

namespace Execution

variable {α : Type}

def requests (x : Execution α) : List Request := x.events.filterMap Event.request?

def preceded (events : List Event) (logs : List LogEntry) (x : Execution α) : Execution α :=
  { x with events := events ++ x.events, logs := logs ++ x.logs }

@[simp] lemma preceded_result (events : List Event) (logs : List LogEntry) (x : Execution α) :
    (x.preceded events logs).result = x.result := rfl

@[simp] lemma requests_preceded (events : List Event) (logs : List LogEntry) (x : Execution α) :
    (x.preceded events logs).requests = events.filterMap Event.request? ++ x.requests := by
  simp [requests, preceded, List.filterMap_append]

end Execution

namespace Connection

variable {α : Type} (s : Settings) (openError : Option RemoteError) (c : Connection)

def reaches : Bool := c.client || openError.isNone

/-- What the next request comes back with, whichever it is. -/
def reply (replies : List (Except RemoteError Value)) : Except RemoteError Value :=
  if c.client then replies.headD (.ok (.record []))
  else
    match openError with
    | some e => .error e
    | .none => replies.headD (.ok (.record []))

def after : Connection := (c.connect s openError).2.1

def opening : List Event := (c.connect s openError).2.2

def left (replies : List (Except RemoteError Value)) : List (Except RemoteError Value) :=
  if c.reaches openError then replies.drop 1 else replies

/-- All that happens when a request is made. -/
def trace (q : Request) : List Event :=
  c.opening s openError ++ if c.reaches openError then [.called q] else []

variable {s openError c} {replies : List (Except RemoteError Value)}

lemma request_eq (q : Request) :
    request s openError q c replies =
      ⟨deliver (c.reply openError replies), c.after s openError, c.left openError replies,
        c.trace s openError q, []⟩ := by
  obtain ⟨session, client⟩ := c
  cases client <;> cases openError <;>
    simp [request, connect, reply, after, left, trace, opening, reaches]

lemma reply_of_reaches (h : c.reaches openError = true) :
    c.reply openError replies = replies.headD (.ok (.record [])) := by
  obtain ⟨session, client⟩ := c
  cases client <;> cases openError <;> simp_all [reaches, reply]

lemma reply_of_not_reaches (h : c.reaches openError = false) :
    ∃ e, openError = some e ∧ c.reply openError replies = .error e := by
  obtain ⟨session, client⟩ := c
  cases client <;> cases openError <;> simp_all [reaches, reply]

lemma reaches_after : (c.after s openError).reaches openError = c.reaches openError := by
  obtain ⟨session, client⟩ := c
  cases client <;> cases openError <;> rfl

lemma after_after : (c.after s openError).after s openError = c.after s openError := by
  obtain ⟨session, client⟩ := c
  cases client <;> cases openError <;> rfl

lemma reaches_of_reply_ok {v : Value} (h : c.reply openError replies = .ok v) :
    c.reaches openError = true := by
  obtain ⟨session, client⟩ := c
  cases client <;> cases openError <;> simp_all [reply, reaches]

lemma requests_trace (q : Request) :
    (c.trace s openError q).filterMap Event.request? =
      if c.reaches openError then [q] else [] := by
  obtain ⟨session, client⟩ := c
  cases client <;> cases openError <;> cases session <;> rfl

def faultEntry (q : Request) (f : RemoteFault) : LogEntry :=
  ⟨.debug, some (q.operation ++ " failed: " ++ f.text)⟩

lemma run_log (entry : LogEntry) (p : Plan α) :
    run s openError (.log entry p) c replies =
      (run s openError p c replies).preceded [] [entry] := rfl

variable {q : Request} {k : Answer → Plan α}

theorem run_call_ok {v : Value} (h : c.reply openError replies = .ok v) :
    run s openError (Plan.call q >>= k) c replies =
      (run s openError (k (.ok v)) (c.after s openError) (c.left openError replies)).preceded
        (c.trace s openError q) [] := by
  simp only [Plan.call, Plan.ask_bind, run, request_eq, h, deliver, Execution.follow,
    Plan.done_bind]
  rfl

theorem run_call_fault {f : RemoteFault} (h : c.reply openError replies = .error (.fault f)) :
    run s openError (Plan.call q >>= k) c replies =
      (run s openError (k (.error f)) (c.after s openError) (c.left openError replies)).preceded
        (c.trace s openError q) [faultEntry q f] := by
  simp only [Plan.call, Plan.ask_bind, run, request_eq, h, deliver, Execution.follow,
    Plan.log_bind, Plan.done_bind]
  rfl

lemma run_ask_foreign {next : Answer → Plan β} {e : ForeignError}
    (h : c.reply openError replies = .error (.foreign e)) :
    run s openError (.ask q next) c replies =
      ⟨.error (.bare (.remote (.foreign e))), c.after s openError, c.left openError replies,
        c.trace s openError q, []⟩ := by
  simp only [run, request_eq, h, deliver, Execution.follow]

theorem run_call_foreign {e : ForeignError}
    (h : c.reply openError replies = .error (.foreign e)) :
    run s openError (Plan.call q >>= k) c replies =
      ⟨.error (.bare (.remote (.foreign e))), c.after s openError, c.left openError replies,
        c.trace s openError q, []⟩ := by
  rw [Plan.call, Plan.ask_bind, run_ask_foreign h]

lemma requests_run_call (hk : ∀ a c replies, (run s openError (k a) c replies).requests = []) :
    (run s openError (Plan.call q >>= k) c replies).requests =
      if c.reaches openError then [q] else [] := by
  rcases hreply : c.reply openError replies with (f | e) | v
  · rw [run_call_fault hreply, Execution.requests_preceded, requests_trace, hk, List.append_nil]
  · rw [run_call_foreign hreply]
    exact requests_trace q
  · rw [run_call_ok hreply, Execution.requests_preceded, requests_trace, hk, List.append_nil]

lemma reaches_of_result_call (hk : ∀ f, ∃ e, k (.error f) = .fail e) {a : α}
    (h : (run s openError (Plan.call q >>= k) c replies).result = .ok a) :
    c.reaches openError = true := by
  rcases hreply : c.reply openError replies with (f | e) | v
  · obtain ⟨e, he⟩ := hk f
    rw [run_call_fault hreply, he] at h
    cases h
  · rw [run_call_foreign hreply] at h
    cases h
  · exact reaches_of_reply_ok hreply

lemma connection_run (p : Plan α) (c : Connection) (replies : List (Except RemoteError Value)) :
    (run s openError p c replies).connection = c ∨
      (run s openError p c replies).connection = c.after s openError := by
  induction p generalizing c replies with
  | done a => exact .inl rfl
  | fail e => exact .inl rfl
  | log entry next ih => exact ih c replies
  | ask q next ih =>
    simp only [run, request_eq]
    rcases deliver (c.reply openError replies) with e | a
    · exact .inr rfl
    · have hnext := ih a (c.after s openError) (c.left openError replies)
      rw [after_after, or_self] at hnext
      exact .inr hnext

/-- What a plan does begins with what is done for its first request, and it leaves the connection as
that request does. -/
lemma run_of_asksFirst {p : Plan α} (h : p.AsksFirst q) :
    c.trace s openError q <+: (run s openError p c replies).events ∧
      (run s openError p c replies).connection = c.after s openError := by
  induction h with
  | log entry _ ih => exact ih
  | ask next =>
    simp only [run, request_eq]
    rcases deliver (c.reply openError replies) with e | a
    · exact ⟨List.prefix_refl _, rfl⟩
    · have hrest := @connection_run _ s openError (next a)
        (c.after s openError) (c.left openError replies)
      rw [after_after, or_self] at hrest
      exact ⟨List.prefix_append .., hrest⟩

lemma requests_run_of_not_reaches (p : Plan α) (h : c.reaches openError = false) :
    (run s openError p c replies).requests = [] := by
  induction p generalizing c replies with
  | done a => rfl
  | fail e => rfl
  | log entry next ih => exact ih h
  | ask q next ih =>
    have htrace : (c.trace s openError q).filterMap Event.request? = [] := by
      rw [requests_trace, h]
      rfl
    simp only [run, request_eq]
    rcases deliver (c.reply openError replies) with e | a
    · exact htrace
    · have hnext := @ih a (c.after s openError) (c.left openError replies) (reaches_after.trans h)
      simp only [Execution.follow, Execution.requests, List.filterMap_append, htrace]
      exact hnext

lemma run_bind_quiet {β : Type} {p : Plan α} {g : α → Plan β} {f : α → Except Raised β}
    (hg : ∀ a c replies, run s openError (g a) c replies = ⟨f a, c, replies, [], []⟩) :
    run s openError (p >>= g) c replies =
      ⟨(run s openError p c replies).result >>= f, (run s openError p c replies).connection,
        (run s openError p c replies).replies, (run s openError p c replies).events,
        (run s openError p c replies).logs⟩ := by
  rw [run_bind]
  rcases hresult : (run s openError p c replies).result with e | a
  · simp only [Execution.follow, hresult]
    rfl
  · simp only [Execution.follow, hresult, hg, List.append_nil]
    rfl

end Connection

end Balancer
