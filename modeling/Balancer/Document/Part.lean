import Balancer.Description
import Balancer.Document.Arguments
import Balancer.Document.Moment

/-!
Listeners, health checks and descriptions in documents: in the provider's form, or by their parts.
-/

namespace Balancer

/-- A listener: a port alone, the provider's form, or the parts by name. -/
def Listener.ofDocument (v : Value) : Checked Listener := do
  let given ← Arguments.ofDocument v
  match Value.field? given "tcp", Value.field? given "api" with
  | some port, _ => Listener.tcp port
  | none, some wire => Listener.ofWire wire
  | none, none =>
    let parts ← Arguments.ofDocument (given.part "args" .null)
    parts.check ["frontend_port", "backend_port"] ["protocol", "instance_protocol"]
    Listener.ofParts (parts.part "frontend_port" .null) (parts.part "backend_port" .null)
      (parts.part "protocol" (.text "TCP")) (parts.part "instance_protocol" .null)

/-- The parts of the standard health check. -/
def HealthCheck.standardParts : Arguments :=
  match HealthCheck.standard.toReport with
  | .record fields => fields
  | _ => []

/-- A health check: the provider's form, or the parts by name, the others as in the standard one. -/
def HealthCheck.ofDocument (v : Value) : Checked HealthCheck := do
  let given ← Arguments.ofDocument v
  match Value.field? given "api" with
  | some wire => HealthCheck.ofWire wire
  | none =>
    let parts ← Arguments.ofDocument (given.part "args" .null)
    parts.check [] (standardParts.map (·.1))
    let part := fun key => parts.part key (Value.ofOption (Value.field? standardParts key))
    HealthCheck.ofParts (part "protocol") (part "path") (part "port") (part "interval")
      (part "timeout") (part "healthy_threshold") (part "unhealthy_threshold")

namespace Description

/-- Listeners in documents: a list of pairs of a key and a listener. -/
def listenersOfDocument (v : Value) : Checked (List (Value × Listener)) := do
  (← v.members).foldlM (fun entries entry => do
    match ← entry.members with
    | [key, l] => setListener key (← Listener.ofDocument l) entries
    | _ => misuse .badCall) []

/-- The parts that a description must have, and the ones that it may have. -/
def requiredParts : List String := ["name", "dns_name"]

def optionalParts : List String :=
  ["listeners", "instances", "health_check", "subnets", "availability_zones", "scheme",
    "created_time"]

/-- A description by its parts. -/
def ofArguments (given : Arguments) : Checked Description := do
  let listeners ← listenersOfDocument (given.part "listeners" (.list []))
  let instances ← Value.distinct (← (given.part "instances" (.list [])).members)
  let check ← given.part? "health_check" HealthCheck.ofDocument
  given.check requiredParts optionalParts
  let subnets ← (given.part "subnets" (.list [])).members
  let zones ← (given.part "availability_zones" (.list [])).members
  return ⟨given.part "name" .null, given.part "dns_name" .null, listeners, instances, check,
    subnets, zones, given.part "scheme" .null, given.part "created_time" .null⟩

/-- A description: the provider's form, or the parts by name. -/
def ofDocument (v : Value) : Checked Description := do
  let given ← Arguments.ofDocument v
  match Value.field? given "api" with
  | some wire => ofWire (← Moment.restore wire)
  | none => ofArguments (← Arguments.ofDocument (← Moment.restore (given.part "args" .null)))

end Description

end Balancer
