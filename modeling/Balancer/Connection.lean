import Balancer.Operation
import Balancer.Plan

/-!
A connection to the provider, and what a plan does on it.

The connection holds a session and a client of it. Both are made when they are first needed. What
the provider does is told by a script: the answers to the requests in turn, and the errors of
opening and of closing a client, if there are any.
-/

namespace Balancer

/-- What can be observed of a connection. -/
inductive Event where
  | session
  | opened (destination : List (String × Value))
  | called (q : Request)
  | closed
  deriving Repr

/-- What the provider does: its replies in turn, and its errors if there are any. -/
structure Script where
  replies : List (Except RemoteError Value)
  openError : Option RemoteError
  closeError : Option RemoteError
  deriving Repr

structure Connection where
  session : Bool
  client : Bool
  deriving DecidableEq, Repr

/-- What happened, in order, how it ended, and the replies that are left. -/
structure Execution (α : Type) where
  result : Except Raised α
  connection : Connection
  replies : List (Except RemoteError Value)
  events : List Event
  logs : List LogEntry

namespace Execution

variable {α β : Type}

/-- An execution that another one follows, unless it failed. -/
def follow (x : Execution α)
    (k : α → Connection → List (Except RemoteError Value) → Execution β) : Execution β :=
  match x.result with
  | .error e => ⟨.error e, x.connection, x.replies, x.events, x.logs⟩
  | .ok a =>
    let y := k a x.connection x.replies
    ⟨y.result, y.connection, y.replies, x.events ++ y.events, x.logs ++ y.logs⟩

end Execution

namespace Connection

def none : Connection := ⟨false, false⟩

/-- The client, opened if there is none. A session stays when no client can be opened from it. -/
def connect (s : Settings) (openError : Option RemoteError) (c : Connection) :
    Except RemoteError Unit × Connection × List Event :=
  if c.client then (.ok (), c, [])
  else
    let events := (if c.session then [] else [.session]) ++ [.opened s.destination]
    match openError with
    | some e => (.error e, ⟨true, false⟩, events)
    | .none => (.ok (), ⟨true, true⟩, events)

/-- What comes back from a remote call. A foreign error ends the plan instead. -/
def deliver : Except RemoteError Value → Except Raised Answer
  | .error (.foreign e) => .error (.bare (.remote (.foreign e)))
  | .error (.fault f) => .ok (.error f)
  | .ok v => .ok (.ok v)

/-- Makes a request, for which a client may have to be opened. A provider that has no reply left
answers with an empty record. -/
def request (s : Settings) (openError : Option RemoteError) (q : Request) (c : Connection)
    (replies : List (Except RemoteError Value)) : Execution Answer :=
  match c.connect s openError with
  | (.error e, c, events) => ⟨deliver (.error e), c, replies, events, []⟩
  | (.ok (), c, events) =>
    ⟨deliver (replies.headD (.ok (.record []))), c, replies.drop 1, events ++ [.called q], []⟩

/-- Runs a plan. -/
def run {α : Type} (s : Settings) (openError : Option RemoteError) :
    Plan α → Connection → List (Except RemoteError Value) → Execution α
  | .done a, c, replies => ⟨.ok a, c, replies, [], []⟩
  | .fail e, c, replies => ⟨.error e, c, replies, [], []⟩
  | .log entry next, c, replies =>
    let x := run s openError next c replies
    { x with logs := entry :: x.logs }
  | .ask q next, c, replies =>
    (request s openError q c replies).follow fun a c replies => run s openError (next a) c replies

/-- One plan after another runs as one execution after another. -/
theorem run_bind {α β : Type} (s : Settings) (openError : Option RemoteError) (p : Plan α)
    (f : α → Plan β) (c : Connection) (replies : List (Except RemoteError Value)) :
    run s openError (p >>= f) c replies =
      (run s openError p c replies).follow fun a c replies => run s openError (f a) c replies := by
  induction p generalizing c replies with
  | done a => rfl
  | fail e => rfl
  | log entry next ih =>
    rw [Plan.log_bind]
    simp only [run, ih]
    cases h : (run s openError next c replies).result <;> simp [Execution.follow, h]
  | ask q next ih =>
    rw [Plan.ask_bind]
    simp only [run, ih]
    cases h : (request s openError q c replies).result with
    | error e => simp [Execution.follow, h]
    | ok a =>
      simp only [Execution.follow, h]
      cases (run s openError (next a) _ _).result <;> simp

/-- Ends a connection. When closing the client fails, the session stays. -/
def close (closeError : Option RemoteError) (c : Connection) :
    Except RemoteError Unit × Connection × List Event :=
  if c.client then
    match closeError with
    | some e => (.error e, ⟨c.session, false⟩, [.closed])
    | .none => (.ok (), .none, [.closed])
  else (.ok (), .none, [])

end Connection

end Balancer
