import Balancer.Description
import Balancer.Instances
import Balancer.Name

/-!
The operations on a load balancer, and what each comes to once its arguments are read.

An operation takes its arguments as they are given. They are read before anything else is done, and
an operation whose arguments do not pass is refused.
-/

namespace Balancer

/-- What a manager of load balancers is set up with. -/
structure Settings where
  region : Value
  endpoint : Value
  controlPlanePort : Port
  healthCheck : HealthCheck
  deriving Repr

namespace Settings

/-- Settings from their parts. Without a health check it is the standard one. -/
def ofParts (region endpoint port : Value) (check : Option HealthCheck) : Checked Settings := do
  let port ← Port.check (.text "frontend_port") port
  return ⟨region, endpoint, port, check.getD .standard⟩

/-- Where a client connects to, as far as it is given. -/
def destination (s : Settings) : List (String × Value) :=
  [("region_name", s.region), ("endpoint_url", s.endpoint)].filter (·.2.isGiven)

end Settings

inductive Operation where
  | provision (name subnets port : Value)
  | configureHealthCheck (name : Value) (check : Option HealthCheck)
  | setPrivate (name : Value)
  | setPublic (name port : Value)
  | addListener (name : Value) (listener : Listener)
  | removeListener (name port : Value)
  | addInstances (name ids : Value)
  | removeInstances (name ids : Value)
  | lookup (name : Value)
  | describe (name : Value)
  | existence (name : Value)
  deriving Repr

/-- What an operation answers. -/
inductive Outcome where
  | nothing
  | dnsName (v : Value)
  | description (d : Option Description)
  | existence (found : Bool) (dnsName : Value)
  deriving Repr

/-- What an operation comes to. The port of a listener to remove is still whatever was named. -/
inductive Intent where
  | provision (name : String) (subnets : List String) (listener : Listener)
  | attach (name : String) (check : HealthCheck)
  | bind (name : String) (listener : Listener)
  | unbind (name : String) (port : Value)
  | register (name : String) (ids : List String)
  | deregister (name : String) (ids : List String)
  | lookup (name : String)
  | describe (name : String)
  | existence (name : String)
  deriving Repr

/-- The subnets of a new load balancer: some collection that is not empty. -/
def readSubnets (v : Value) : Checked (List Value) := do
  let subnets ← v.members
  if subnets.isEmpty then
    throw (.breaking "subnets" (.list []) "At least one subnet is required")
  return subnets

/-- Reads an operation's arguments, in a fixed order. What is not given comes from the settings. -/
def Operation.read (s : Settings) : Operation → Checked Intent
  | .provision name subnets port => do
    let name ← Name.check name
    let subnets ← readSubnets subnets
    let listener ← Listener.tcp port
    return .provision name (← Value.texts subnets) listener
  | .configureHealthCheck name check => do
    return .attach (← Name.check name) (check.getD s.healthCheck)
  | .setPrivate name => do return .unbind (← Name.check name) s.controlPlanePort.toValue
  | .setPublic name port => do
    let listener ← Listener.tcp (if port.isNull then s.controlPlanePort.toValue else port)
    return .bind (← Name.check name) listener
  | .addListener name listener => do return .bind (← Name.check name) listener
  | .removeListener name port => do return .unbind (← Name.check name) port
  | .addInstances name ids => do return .register (← Name.check name) (← Instances.read ids)
  | .removeInstances name ids => do return .deregister (← Name.check name) (← Instances.read ids)
  | .lookup name => do return .lookup (← Name.check name)
  | .describe name => do return .describe (← Name.check name)
  | .existence name => do return .existence (← Name.check name)

end Balancer
