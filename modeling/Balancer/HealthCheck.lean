import Balancer.Port
import Balancer.Protocol

/-!
Health checks: how a load balancer finds out which of its instances are alive.

A load balancer has at most one. The provider writes what is probed as one text, the target:
protocol, colon, port and, for HTTP and HTTPS, path.
-/

namespace Balancer

/-- A number of seconds or of probes. -/
inductive Quantity where
  | whole (n : Int)
  | real (x : Binary64)
  deriving DecidableEq, Repr

namespace Quantity

def toValue : Quantity → Value
  | .whole n => .int n
  | .real x => .real x

def compareInt? : Quantity → Int → Option Ordering
  | .whole m, n => some (compare m n)
  | .real x, n => x.compareInt? n

def isWithin (lo hi : Int) (q : Quantity) : Bool :=
  (q.compareInt? lo).any Ordering.isGE && (q.compareInt? hi).any Ordering.isLE

/-- The number that a value is. A truth value is the number 1 or 0. -/
def ofValue? : Value → Option Quantity
  | .int n => some (.whole n)
  | .bool b => some (.whole (if b then 1 else 0))
  | .real x => some (.real x)
  | _ => none

/-- The quantity that the value of a field is, if it is within the bounds. -/
def check (field : String) (lo hi : Int) (reason : String) (v : Value) : Checked Quantity :=
  match ofValue? v with
  | none => misuse (.unordered "<=" (.int lo) v)
  | some q =>
    if q.isWithin lo hi then .ok q else .error (.breaking field v reason)

def isBelow (q r : Quantity) : Bool := q.toValue.compareNumbers? r.toValue == some .lt

def same (q r : Quantity) : Bool := q.toValue.same r.toValue

end Quantity

/-- The path of a TCP or SSL check is empty, or a value that counts as not given. -/
structure HealthCheck where
  protocol : Protocol
  path : Value
  port : Port
  interval : Quantity
  timeout : Quantity
  healthy : Quantity
  unhealthy : Quantity
  deriving Repr

namespace HealthCheck

/-- The check of a control plane's own port over HTTP, every 30 seconds. -/
def standard : HealthCheck :=
  ⟨.http, .text "/", .controlPlane, .whole 30, .whole 3, .whole 2, .whole 2⟩

/-- The path to probe: a text from the root on for HTTP and HTTPS, and nothing for the others. -/
def checkPath (protocol : Protocol) (path : Value) : Checked Value :=
  if protocol.hasPath then
    match path with
    | .text s =>
      if s.toList.head? = some '/' then .ok path
      else .error (.breaking "health_check.path" path "Path must start with '/'")
    | path => misuse (.noMember path "startswith")
  else .ok (if path.isGiven then .text "" else path)

/-- A health check from its seven parts, tested in a fixed order. -/
def ofParts (protocol path port interval timeout healthy unhealthy : Value) :
    Checked HealthCheck := do
  let protocol ← Protocol.check protocol
  let port ← Port.check (.text "health_check.port") port
  let path ← checkPath protocol path
  let interval' ← Quantity.check "health_check.interval" 5 300 "Must be 5-300 seconds" interval
  let timeout' ← Quantity.check "health_check.timeout" 2 60 "Must be 2-60 seconds" timeout
  if !timeout'.isBelow interval' then
    throw (.breaking "health_check.timeout" timeout "Must be less than the interval")
  let healthy ← Quantity.check "health_check.healthy_threshold" 2 10 "Must be 2-10" healthy
  let unhealthy ← Quantity.check "health_check.unhealthy_threshold" 2 10 "Must be 2-10" unhealthy
  return ⟨protocol, path, port, interval', timeout', healthy, unhealthy⟩

/-- What is probed, as the provider writes it. -/
def target (h : HealthCheck) : String :=
  h.protocol.name ++ ":" ++ toString h.port.number ++ h.path.shown

/-- The form in which the provider takes and gives health checks. -/
def toWire (h : HealthCheck) : Value :=
  .record [("Target", .text h.target), ("Interval", h.interval.toValue),
    ("Timeout", h.timeout.toValue), ("UnhealthyThreshold", h.unhealthy.toValue),
    ("HealthyThreshold", h.healthy.toValue)]

/-- A target's parts: what stands before the first colon, the digits after it, and the rest. -/
def splitTarget (s : List Char) : List Char × List Char × List Char :=
  let rest := (s.dropWhile (· != ':')).drop 1
  (s.takeWhile (· != ':'), rest.takeWhile Text.isDigit, rest.dropWhile Text.isDigit)

/-- Reads the provider's form: quantities may be any numbers or numerals. -/
def ofWire (v : Value) : Checked HealthCheck := do
  let target ← v.item "Target"
  match target with
  | .text s =>
    let (protocol, digits, path) := splitTarget s.toList
    if digits.isEmpty then throw (.breaking "health_check.target" target "Missing port")
    let protocol ← Protocol.check (.text (.ofList protocol))
    let port ← (Value.text (.ofList digits)).toInteger
    let interval ← (← v.item "Interval").toInteger
    let timeout ← (← v.item "Timeout").toInteger
    let healthy ← (← v.item "HealthyThreshold").toInteger
    let unhealthy ← (← v.item "UnhealthyThreshold").toInteger
    ofParts protocol.toValue (.text (.ofList path)) (.int port) (.int interval) (.int timeout)
      (.int healthy) (.int unhealthy)
  | target => misuse (.noMember target "partition")

/-- The form in which reports show a health check. -/
def toReport (h : HealthCheck) : Value :=
  .record [("protocol", h.protocol.toValue), ("path", h.path), ("port", h.port.toValue),
    ("interval", h.interval.toValue), ("timeout", h.timeout.toValue),
    ("healthy_threshold", h.healthy.toValue), ("unhealthy_threshold", h.unhealthy.toValue)]

/-- Whether two checks are equal, their quantities by what they amount to. -/
def same (h k : HealthCheck) : Bool :=
  h.protocol == k.protocol && h.path.same k.path && h.port == k.port &&
    h.interval.same k.interval && h.timeout.same k.timeout &&
    h.healthy.same k.healthy && h.unhealthy.same k.unhealthy

end HealthCheck

end Balancer
