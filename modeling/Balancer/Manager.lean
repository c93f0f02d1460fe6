import Balancer.Connection
import Balancer.Operation.Plan

/-!
A manager of load balancers: settings and a connection.

The provider is the only source of truth: a manager keeps nothing of what it is told, and its
settings never change.
-/

namespace Balancer

/-- What a manager can be asked to do. -/
inductive Action where
  | operate (o : Operation)
  | close
  deriving Repr

structure Manager where
  settings : Settings
  connection : Connection
  deriving Repr

namespace Manager

def ofSettings (s : Settings) : Manager := ⟨s, .none⟩

/-- Does one thing. -/
def act (m : Manager) (script : Script) : Action → Execution Outcome
  | .operate o => m.connection.run m.settings script.openError (o.plan m.settings) script.replies
  | .close =>
    let (closed, c, events) := m.connection.close script.closeError
    let result := match closed with
      | .error e => .error (.bare (.remote e))
      | .ok () => .ok .nothing
    ⟨result, c, script.replies, events, []⟩

/-- The manager after an execution. -/
def next (m : Manager) (x : Execution Outcome) : Manager := { m with connection := x.connection }

/-- Does one thing after another, each with a script of its own. -/
def runAll (m : Manager) : List (Action × Script) → List (Execution Outcome) × Manager
  | [] => ([], m)
  | (a, script) :: r =>
    let x := m.act script a
    let (xs, m) := (m.next x).runAll r
    (x :: xs, m)

/-- Does one operation and closes. An error of closing takes the place of any other. -/
def useOnce (m : Manager) (script : Script) (o : Operation) : Execution Outcome :=
  let x := m.act script (.operate o)
  let y := (m.next x).act script .close
  let result := match y.result with
    | .error e => .error e
    | .ok _ => x.result
  ⟨result, y.connection, x.replies, x.events ++ y.events, x.logs ++ y.logs⟩

end Manager

/-- A manager for callers that wait: it runs another manager in a loop of its own. The loop starts
with the first operation and ends when the manager is closed. Without a loop there is nothing to
close. -/
structure BlockingManager where
  manager : Manager
  isRunning : Bool
  deriving Repr

namespace BlockingManager

def ofSettings (s : Settings) : BlockingManager := ⟨.ofSettings s, false⟩

/-- Does one thing. -/
def act (m : BlockingManager) (script : Script) : Action → Execution Outcome
  | .operate o => m.manager.act script (.operate o)
  | .close =>
    if m.isRunning then m.manager.act script .close
    else ⟨.ok .nothing, m.manager.connection, script.replies, [], []⟩

/-- The manager after an action. Its loop ends also when closing fails. -/
def next (m : BlockingManager) (x : Execution Outcome) : Action → BlockingManager
  | .operate _ => ⟨m.manager.next x, true⟩
  | .close => ⟨m.manager.next x, false⟩

/-- Does one thing after another, each with a script of its own. -/
def runAll (m : BlockingManager) :
    List (Action × Script) → List (Execution Outcome) × BlockingManager
  | [] => ([], m)
  | (a, script) :: r =>
    let x := m.act script a
    let (xs, m) := (m.next x a).runAll r
    (x :: xs, m)

end BlockingManager

end Balancer
