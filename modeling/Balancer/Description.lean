import Balancer.HealthCheck
import Balancer.Listener

/-!
What the provider reports about a load balancer, and whether it is exposed.
-/

namespace Balancer

/-- A load balancer is exposed as long as it listens on the control plane's port. -/
inductive Exposure where
  | exposed
  | hidden
  deriving DecidableEq, Repr

def Exposure.all : List Exposure := [.exposed, .hidden]

def Exposure.text : Exposure → String
  | .exposed => "public"
  | .hidden => "private"

/-- Listeners stand under their ports. Instances are a set. -/
structure Description where
  name : Value
  dnsName : Value
  listeners : List (Value × Listener)
  instances : List Value
  healthCheck : Option HealthCheck
  subnets : List Value
  zones : List Value
  scheme : Value
  created : Value
  deriving Repr

namespace Description

/-- Puts a listener under a key: in the place of an old one, else at the end. -/
def setListener (key : Value) (l : Listener) :
    List (Value × Listener) → Checked (List (Value × Listener))
  | entries =>
    if !key.isHashable then misuse (.unhashable key)
    else if entries.any fun e => e.1.same key then
      .ok (entries.map fun e => if e.1.same key then (e.1, l) else e)
    else .ok (entries ++ [(key, l)])

def listener? (d : Description) (port : Value) : Option Listener :=
  (d.listeners.find? fun e => e.1.same port).map (·.2)

def hasListener (d : Description) (port : Value) : Checked Bool :=
  if port.isHashable then .ok (d.listener? port).isSome else misuse (.unhashable port)

/-- Whether the load balancer is exposed on a port. -/
def exposure (d : Description) (port : Value) : Checked Exposure := do
  return if ← d.hasListener port then .exposed else .hidden

/-- The exposure on the well-known port of a control plane. -/
def standardExposure (d : Description) : Exposure :=
  if (d.listener? Port.controlPlane.toValue).isSome then .exposed else .hidden

/-- The items of a part that a record may have. -/
def itemsUnder (v : Value) (key : String) : Checked (List Value) := do
  match ← v.get? key with
  | some w => w.members
  | none => return []

/-- The listeners of a report in the order of their ports; on each port the last one counts. -/
def readListeners (v : Value) : Checked (List Listener) := do
  let listeners ← (← itemsUnder v "ListenerDescriptions").mapM fun entry => do
    Listener.ofWire (← entry.item "Listener")
  return listeners.foldl (fun bound l => l.bind bound) []

def readHealthCheck (v : Value) : Checked (Option HealthCheck) := do
  let check := (← v.get? "HealthCheck").getD (.record [])
  if (Value.ofOption (← check.get? "Target")).isGiven then some <$> HealthCheck.ofWire check
  else return none

/-- The distinct instance ids of a report. -/
def readInstances (v : Value) : Checked (List Value) := do
  (← itemsUnder v "Instances").foldlM (fun set entry => do
    Value.adjoin set (← entry.item "InstanceId")) []

/-- Reads the provider's report. -/
def ofWire (v : Value) : Checked Description := do
  let listeners ← readListeners v
  let healthCheck ← readHealthCheck v
  let name ← v.item "LoadBalancerName"
  let dnsName := (← v.get? "DNSName").getD (.text "")
  let instances ← readInstances v
  let subnets ← itemsUnder v "Subnets"
  let zones ← itemsUnder v "AvailabilityZones"
  let scheme := Value.ofOption (← v.get? "Scheme")
  let created := Value.ofOption (← v.get? "CreatedTime")
  return ⟨name, dnsName, listeners.map fun l => (l.frontend.toValue, l), instances, healthCheck,
    subnets, zones, scheme, created⟩

/-- When the load balancer was created, as a text. -/
def createdText (created : Value) : Checked Value :=
  match created with
  | .moment t => .ok (.text (t.text "T"))
  | v => if v.isGiven then misuse (.noMember v "isoformat") else .ok .null

/-- The form in which reports show a load balancer. -/
def toReport (d : Description) : Checked Value := do
  let instances ← Value.sorted d.instances
  let created ← createdText d.created
  return .record [("name", d.name), ("dns_name", d.dnsName),
    ("state", .text d.standardExposure.text),
    ("listeners", .list (d.listeners.map fun e => e.2.toReport)),
    ("instances", .list instances),
    ("health_check", Value.ofText? (d.healthCheck.map HealthCheck.target)),
    ("subnets", .list d.subnets), ("availability_zones", .list d.zones),
    ("scheme", d.scheme), ("created_time", created)]

end Description

end Balancer
