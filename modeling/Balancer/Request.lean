import Balancer.HealthCheck
import Balancer.Listener

/-!
The requests that the provider's service takes, with their names and parameters.
-/

namespace Balancer

/-- The port of an `unbind` request is whatever the caller names. -/
inductive Request where
  | create (name : String) (subnets : List String) (listener : Listener)
  | attach (name : String) (check : HealthCheck)
  | bind (name : String) (listener : Listener)
  | unbind (name : String) (port : Value)
  | register (name : String) (instances : List String)
  | deregister (name : String) (instances : List String)
  | describe (name : String)
  deriving Repr

namespace Request

/-- The name of the service that takes the requests. -/
def service : String := "elb"

/-- The name of the load balancer that a request is about. -/
def balancer : Request → String
  | .create name _ _ => name
  | .attach name _ => name
  | .bind name _ => name
  | .unbind name _ => name
  | .register name _ => name
  | .deregister name _ => name
  | .describe name => name

def operation : Request → String
  | .create .. => "CreateLoadBalancer"
  | .attach .. => "ConfigureHealthCheck"
  | .bind .. => "CreateLoadBalancerListeners"
  | .unbind .. => "DeleteLoadBalancerListeners"
  | .register .. => "RegisterInstancesWithLoadBalancer"
  | .deregister .. => "DeregisterInstancesFromLoadBalancer"
  | .describe _ => "DescribeLoadBalancers"

/-- Words that start with a capital, in small letters with low lines between them. -/
def joined : List Char → List Char
  | [] => []
  | c :: r =>
    c.toLower :: r.flatMap fun d => if d.isUpper then ['_', d.toLower] else [d]

/-- The name of a request's method at a client of the service. -/
def method (q : Request) : String := .ofList (joined q.operation.toList)

/-- The form in which the provider takes and gives instances. -/
def instancesToWire (ids : List String) : Value :=
  .list (ids.map fun id => .record [("InstanceId", .text id)])

def parameters : Request → List (String × Value)
  | .create name subnets listener =>
    [("LoadBalancerName", .text name), ("Subnets", .list (subnets.map .text)),
      ("Listeners", .list [listener.toWire])]
  | .attach name check => [("LoadBalancerName", .text name), ("HealthCheck", check.toWire)]
  | .bind name listener =>
    [("LoadBalancerName", .text name), ("Listeners", .list [listener.toWire])]
  | .unbind name port =>
    [("LoadBalancerName", .text name), ("LoadBalancerPorts", .list [port])]
  | .register name ids =>
    [("LoadBalancerName", .text name), ("Instances", instancesToWire ids)]
  | .deregister name ids =>
    [("LoadBalancerName", .text name), ("Instances", instancesToWire ids)]
  | .describe name => [("LoadBalancerNames", .list [.text name])]

end Request

end Balancer
