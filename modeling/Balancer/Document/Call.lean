import Balancer.Document.Part
import Balancer.Document.Script
import Balancer.Manager

/-!
What is asked of a manager, in documents: settings, actions and failures by name with arguments.

What an argument describes is read first, so its errors come before the ones of the call.
-/

namespace Balancer

/-- Settings by their parts. -/
def Settings.ofDocument (v : Value) : Checked Settings := do
  let given ← Arguments.ofDocument v
  let check ← given.part? "health_check" HealthCheck.ofDocument
  given.check [] ["region", "endpoint_url", "control_plane_port", "health_check"]
  Settings.ofParts (given.part "region" .null) (given.part "endpoint_url" .null)
    (given.part "control_plane_port" Port.controlPlane.toValue) check

namespace Operation

/-- The operation of a name. -/
def ofCall (verb : String) (given : Arguments) : Checked Operation := do
  let check ← given.part? "health_check" HealthCheck.ofDocument
  let listener ← given.read? "listener" Listener.ofDocument
  let name := given.part "name" .null
  match verb with
  | "provision" =>
    given.check ["name", "subnets"] ["port"]
    return .provision name (given.part "subnets" .null)
      (given.part "port" Port.controlPlane.toValue)
  | "configure_health_check" =>
    given.check ["name"] ["health_check"]
    return .configureHealthCheck name check
  | "set_private" =>
    given.check ["name"] []
    return .setPrivate name
  | "set_public" =>
    given.check ["name"] ["port"]
    return .setPublic name (given.part "port" .null)
  | "add_listener" =>
    given.check ["name", "listener"] []
    match listener with
    | some l => return .addListener name l
    | none => misuse (.noMember .null "to_api")
  | "remove_listener" =>
    given.check ["name", "frontend_port"] []
    return .removeListener name (given.part "frontend_port" .null)
  | "add_instances" =>
    given.check ["name", "instance_ids"] []
    return .addInstances name (given.part "instance_ids" .null)
  | "remove_instances" =>
    given.check ["name", "instance_ids"] []
    return .removeInstances name (given.part "instance_ids" .null)
  | "lookup" =>
    given.check ["name"] []
    return .lookup name
  | "describe" =>
    given.check ["name"] []
    return .describe name
  | "exists" =>
    given.check ["name"] []
    return .existence name
  | _ => misuse (.noMember .null verb)

end Operation

/-- The action of a name: closing, or an operation. -/
def Action.ofCall (verb : String) (given : Arguments) : Checked Action := do
  if verb = "close" then
    given.check [] []
    return .close
  else return .operate (← Operation.ofCall verb given)

namespace Failure

/-- The service failure by its parts. -/
def serviceOfArguments (given : Arguments) (origin : Option RemoteError) : Checked Failure := do
  given.check ["operation", "code", "message"] ["load_balancer_name", "cause"]
  checked (.service ⟨given.part "operation" .null, given.part "code" .null,
    given.part "message" .null, given.part "load_balancer_name" .null, origin⟩)

/-- The conflict by its parts. -/
def conflictOfArguments (given : Arguments) (listener : Option Listener) : Checked Failure := do
  given.check ["name", "listener"] ["reason"]
  match listener with
  | some l => checked (.conflict (given.part "name" .null) l (given.part "reason" .null))
  | none => misuse (.noMember .null "frontend_port")

/-- The failure of a family, by its parts. -/
def ofArguments (family : Family) (given : Arguments) : Checked Failure := do
  let listener ← given.read? "listener" Listener.ofDocument
  let origin ← given.part? "cause" RemoteError.ofDocument
  let part := fun key => given.part key .null
  match family with
  | .service => serviceOfArguments given origin
  | .notFound =>
    given.check ["name"] []
    checked (.notFound (part "name"))
  | .provision =>
    given.check ["name", "reason"] ["code"]
    checked (.provision (part "name") (part "reason") (part "code"))
  | .healthCheck =>
    given.check ["name", "reason"] ["code", "dns_name"]
    checked (.healthCheck (part "name") (part "reason") (part "code") (part "dns_name"))
  | .conflict => conflictOfArguments given listener
  | .validation =>
    given.check ["field", "value", "reason"] []
    match Rejection.ofParts (part "field") (part "value") (part "reason") with
    | .tooManyDigits digits => throw (.tooManyDigits digits)
    | r => return .rejected r
  | family =>
    given.check [] []
    return .unspecified family

/-- The failure of a family that reports what the service said. Only a service failure can. -/
def ofReport (family : Family) (operation balancer error : Value) : Checked Failure := do
  if family ≠ .service then misuse (.noMember error "report")
  match ← RemoteError.ofDocument error with
  | .fault (.service f) => checked (.service (.ofServiceFault operation balancer f))
  | _ => misuse (.noMember error "response")

end Failure

end Balancer
