import Balancer.Operation
import Balancer.Plan

/-!
The plan of each operation.

What the provider takes for an error and the caller does not is a success: a listener that is there
already, or one that is not there to be removed. Whether a load balancer exists is answered only by
a fault that says so, or by an answer that describes none.
-/

namespace Balancer

/-- The first load balancer that an answer describes. -/
def Description.ofAnswer (answer : Value) : Checked (Option Description) := do
  if answer.isNull then misuse .noAnswer
  let found := (← answer.get? "LoadBalancerDescriptions").getD (.list [])
  if found.isGiven then some <$> ofWire (← found.head) else return none

namespace Plan

variable {α : Type}

/-- The fault of a request as it is reported to the caller. -/
def report (q : Request) (f : RemoteFault) : ServiceFailure :=
  .ofError (.text q.operation) (.text q.balancer) (.fault f)

/-- Fails with a fault that has no more specific meaning. -/
def failWith (q : Request) (f : RemoteFault) : Plan α :=
  .fail ⟨.service (report q f), some (.remote (.fault f))⟩

def failNotFound (name : String) : Plan α := .fail (.bare (.notFound (.text name)))

/-- The failure to attach a health check. The DNS name is told if the load balancer was created just
before. -/
def unchecked (q : Request) (f : RemoteFault) (dnsName : Value) : Raised :=
  .ofFailure (.healthCheck (.text q.balancer) (.text (f.code ++ ": " ++ f.message)) (.text f.code)
    dnsName) (some (.service (report q f)))

/-- Attaches the health check to a load balancer that was just created. -/
def monitor (s : Settings) (name : String) (dnsName : Value) : Plan Outcome := do
  note .info ("Attaching health check " ++ s.healthCheck.target ++ " to " ++ name)
  let q := Request.attach name s.healthCheck
  match ← call q with
  | .error f =>
    noteAbout .warning dnsName.shown? fun s =>
      "Load balancer " ++ name ++ " created at " ++ s ++ " but health check failed: " ++ f.message
    .fail (unchecked q f dnsName)
  | .ok _ =>
    noteAbout .info dnsName.shown? fun s => "Load balancer " ++ name ++ " provisioned at " ++ s
    return .dnsName dnsName

/-- Creates a load balancer with one listener, and attaches the health check. -/
def provision (s : Settings) (name : String) (subnets : List String) (listener : Listener) :
    Plan Outcome := do
  note .info ("Creating load balancer " ++ name ++ " (subnets=" ++ ",".intercalate subnets ++
    ", listener=" ++ toString listener.frontend.number ++ "/" ++ listener.protocol.name ++ ")")
  let q := Request.create name subnets listener
  match ← call q with
  | .error f =>
    let reason :=
      if f.kind = .duplicateName then "Name already in use (" ++ f.message ++ ")"
      else f.code ++ ": " ++ f.message
    .fail ⟨.provision (.text name) (.text reason) (.text f.code), some (.service (report q f))⟩
  | .ok answer =>
    if answer.isNull then ofChecked (misuse .noAnswer)
    monitor s name (← ofChecked (answer.item "DNSName"))

/-- Attaches or replaces the health check of a load balancer. -/
def attach (name : String) (check : HealthCheck) : Plan Outcome := do
  let q := Request.attach name check
  match ← call q with
  | .error f =>
    if f.kind = .balancerNotFound then failNotFound name else .fail (unchecked q f .null)
  | .ok _ =>
    note .info ("Health check " ++ check.target ++ " configured on " ++ name)
    return .nothing

/-- Describes a load balancer, if it exists. -/
def lookup (name : String) : Plan (Option Description) := do
  let q := Request.describe name
  match ← call q with
  | .error f => if f.kind = .balancerNotFound then return none else failWith q f
  | .ok answer => ofChecked (Description.ofAnswer answer)

/-- Describes a load balancer that must exist. -/
def describe (name : String) : Plan Description := do
  match ← lookup name with
  | some d => return d
  | none => failNotFound name

/-- Whether a load balancer exists, and its DNS name. -/
def existence (name : String) : Plan Outcome := do
  match ← lookup name with
  | some d => return .existence true d.dnsName
  | none => return .existence false (.text "")

/-- Finds out whether a listener that was refused as a duplicate is there already. -/
def settle (name : String) (l : Listener) (f : RemoteFault) : Plan Outcome := do
  let d ← describe (← ofChecked (Name.check (.text name)))
  if (d.listener? l.frontend.toValue).any fun m => !l.conflictsWith m then
    note .debug ("Listener on port " ++ toString l.frontend.number ++ " already present on " ++
      name)
    return .nothing
  else
    .fail ⟨.conflict (.text name) l (.text f.message), some (.remote (.fault f))⟩

/-- Adds a listener. The same listener may be there already. -/
def addListener (name : String) (l : Listener) : Plan Outcome := do
  let q := Request.bind name l
  match ← call q with
  | .ok _ =>
    note .info ("Listener " ++ toString l.frontend.number ++ " -> " ++
      toString l.backend.number ++ "/" ++ l.protocol.name ++ " present on " ++ name)
    return .nothing
  | .error f =>
    match f.kind with
    | .balancerNotFound => failNotFound name
    | .duplicateListener => settle name l f
    | _ => failWith q f

/-- Removes the listener on a port. There may be none. -/
def removeListener (name : String) (port : Value) : Plan Outcome := do
  let q := Request.unbind name port
  match ← call q with
  | .ok _ =>
    noteAbout .info port.count? fun n => "Listener on port " ++ n ++ " removed from " ++ name
    return .nothing
  | .error f =>
    match f.kind with
    | .listenerNotFound =>
      noteAbout .debug port.count? fun n => "No listener on port " ++ n ++ " of " ++ name
      return .nothing
    | .balancerNotFound => failNotFound name
    | _ => failWith q f

/-- Changes which instances a load balancer has. Without instances there is nothing to ask for. -/
def changeMembership (q : Request) (ids : List String) : Plan Outcome := do
  if ids.isEmpty then
    note .debug (q.operation ++ " on " ++ q.balancer ++ " skipped: no instances")
    return .nothing
  else
    match ← call q with
    | .error f => if f.kind = .balancerNotFound then failNotFound q.balancer else failWith q f
    | .ok _ =>
      note .info (q.operation ++ " on " ++ q.balancer ++ ": " ++ ",".intercalate ids)
      return .nothing

end Plan

def Intent.plan (s : Settings) : Intent → Plan Outcome
  | .provision name subnets listener => Plan.provision s name subnets listener
  | .attach name check => Plan.attach name check
  | .bind name l => Plan.addListener name l
  | .unbind name port => Plan.removeListener name port
  | .register name ids => Plan.changeMembership (.register name ids) ids
  | .deregister name ids => Plan.changeMembership (.deregister name ids) ids
  | .lookup name => do return .description (← Plan.lookup name)
  | .describe name => do return .description (some (← Plan.describe name))
  | .existence name => Plan.existence name

/-- The plan of an operation. -/
def Operation.plan (s : Settings) (o : Operation) : Plan Outcome := do
  (← Plan.ofChecked (o.read s)).plan s

end Balancer
