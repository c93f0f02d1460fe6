import Balancer.Port
import Balancer.Protocol

/-!
Listeners: on which port a load balancer accepts connections, and where it forwards them.

A load balancer has at most one listener on a port. Two listeners on one port conflict unless they
are the same.
-/

namespace Balancer

structure Listener where
  frontend : Port
  backend : Port
  protocol : Protocol
  instanceProtocol : Protocol
  deriving DecidableEq, Repr

namespace Listener

/-- A listener from its four parts. Without a protocol towards the instances it is the one towards
the clients. -/
def ofParts (frontend backend protocol instanceProtocol : Value) : Checked Listener := do
  let frontend ← Port.check (.text "frontend_port") frontend
  let backend ← Port.check (.text "backend_port") backend
  let protocol ← Protocol.check protocol
  let instanceProtocol ← Protocol.check (instanceProtocol.orElse protocol.toValue)
  return ⟨frontend, backend, protocol, instanceProtocol⟩

/-- The listener that forwards a port to the same port of the instances. -/
def forwarding (p : Port) : Listener := ⟨p, p, .tcp, .tcp⟩

/-- The same from a value that should be a port. -/
def tcp (port : Value) : Checked Listener := ofParts port port (.text "TCP") .null

def conflictsWith (l m : Listener) : Bool := l.frontend == m.frontend && l != m

/-- The form in which the provider takes and gives listeners. -/
def toWire (l : Listener) : Value :=
  .record [("Protocol", l.protocol.toValue), ("LoadBalancerPort", l.frontend.toValue),
    ("InstanceProtocol", l.instanceProtocol.toValue), ("InstancePort", l.backend.toValue)]

/-- Reads the provider's form: ports may be any numbers or numerals. -/
def ofWire (v : Value) : Checked Listener := do
  let frontend ← (← v.item "LoadBalancerPort").toInteger
  let backend ← (← v.item "InstancePort").toInteger
  let protocol ← Protocol.check (← v.item "Protocol")
  let towards := Value.ofOption (← v.get? "InstanceProtocol")
  let instanceProtocol ←
    if towards.isGiven then (some <$> Protocol.check towards) else pure none
  ofParts (.int frontend) (.int backend) protocol.toValue
    (Value.ofOption (instanceProtocol.map Protocol.toValue))

/-- The form in which reports show a listener. -/
def toReport (l : Listener) : Value :=
  .record [("frontend_port", l.frontend.toValue), ("backend_port", l.backend.toValue),
    ("protocol", l.protocol.toValue), ("instance_protocol", l.instanceProtocol.toValue)]

/-- A listener in a list that ascends by port: it takes the place of one on the same port. -/
def bind (l : Listener) : List Listener → List Listener
  | [] => [l]
  | m :: r =>
    if l.frontend.number < m.frontend.number then l :: m :: r
    else if l.frontend = m.frontend then l :: r
    else m :: bind l r

theorem conflictsWith_iff {l m : Listener} :
    l.conflictsWith m ↔ l.frontend = m.frontend ∧ l ≠ m := by
  simp [conflictsWith]

end Listener

end Balancer
