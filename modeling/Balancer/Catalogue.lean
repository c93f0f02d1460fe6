import Balancer.Description
import Balancer.Failure

/-!
The names under which the parts of the library are published, and what stands under each.
-/

namespace Balancer.Catalogue

/-- What stands under a name: a constant, a type, a type whose members are listed, or a family of
failures. A type stands in a part of the library. -/
inductive Entry where
  | constant (v : Value)
  | type (part : String)
  | enumeration (part : String) (members : List String)
  | failures (part : String) (family : Family)
  deriving Repr

def version : String := "0.1.0"

/-- The published names that are no family's. -/
def entries : List (String × Entry) :=
  [("__version__", .constant (.text version)),
    ("LoadBalancerManager", .type "apilb.manager"),
    ("SyncLoadBalancerManager", .type "apilb.manager"),
    ("CONTROL_PLANE_PORT", .constant Port.controlPlane.toValue),
    ("DEFAULT_HEALTH_CHECK", .constant HealthCheck.standard.toReport),
    ("HealthCheckSpec", .type "apilb.models"),
    ("ListenerProtocol", .enumeration "apilb.models" (Protocol.all.map Protocol.name)),
    ("ListenerSpec", .type "apilb.models"),
    ("LoadBalancerDescription", .type "apilb.models"),
    ("LoadBalancerState", .enumeration "apilb.models" (Exposure.all.map Exposure.text))]

def families : List (String × Entry) :=
  Family.all.map fun f => (f.name, .failures "apilb.exceptions" f)

/-- The published names in their order. -/
def names : List String := (entries ++ families).map (·.1)

/-- What stands under a name. The list of names has a name too. -/
def find? (name : String) : Option Entry :=
  if name = "__all__" then some (.constant (.list (names.map .text)))
  else ((entries ++ families).find? fun e => e.1 == name).map (·.2)

end Balancer.Catalogue
