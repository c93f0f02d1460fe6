import Balancer.Fault
import Balancer.Listener

/-!
What an operation on a load balancer fails with.

A provider's fault without a more specific meaning becomes a service failure, which keeps the code
and the message. A failure may have another one as its cause.
-/

namespace Balancer

/-- A provider's fault as it is reported to the caller. -/
structure ServiceFailure where
  operation : Value
  code : Value
  message : Value
  balancer : Value
  origin : Option RemoteError
  deriving Repr

namespace ServiceFailure

/-- The text of a failure; the load balancer is named if it is known. -/
def text? (e : ServiceFailure) : Option String := do
  let told := (← e.operation.shown?) ++ " failed (" ++ (← e.code.shown?) ++ "): " ++
    (← e.message.shown?)
  if e.balancer.isGiven then return told ++ " [load_balancer=" ++ (← e.balancer.shown?) ++ "]"
  else return told

/-- Reports what the service said, in its own values. -/
def ofServiceFault (operation balancer : Value) (f : ServiceFault) : ServiceFailure :=
  ⟨operation, f.code.getD (.text "Unknown"), f.message.getD (.text f.text), balancer,
    some (.fault (.service f))⟩

/-- Reports an error of a remote call. -/
def ofError (operation balancer : Value) : RemoteError → ServiceFailure
  | .fault (.service f) => ofServiceFault operation balancer f
  | e => ⟨operation, .text e.code, .text e.message, balancer, some e⟩

/-- The form in which logs and reports show a failure. -/
def toReport (e : ServiceFailure) : Value :=
  .record [("error", .text "remote_service_error"), ("operation", e.operation), ("code", e.code),
    ("message", e.message), ("load_balancer_name", e.balancer)]

end ServiceFailure

/-- The families of failures. Every family but the first is a part of a wider one. -/
inductive Family where
  | any
  | provisioning
  | listener
  | service
  | notFound
  | provision
  | healthCheck
  | conflict
  | validation
  deriving DecidableEq, Repr

namespace Family

def all : List Family :=
  [.any, .provisioning, .listener, .provision, .healthCheck, .conflict, .notFound, .service,
    .validation]

def name : Family → String
  | .any => "APILBError"
  | .provisioning => "ProvisioningError"
  | .listener => "ListenerError"
  | .service => "RemoteServiceError"
  | .notFound => "LoadBalancerNotFoundError"
  | .provision => "ProvisionError"
  | .healthCheck => "HealthCheckError"
  | .conflict => "ListenerConflictError"
  | .validation => "ValidationError"

def ofName? (name : String) : Option Family := all.find? fun f => f.name == name

/-- The wider families, the nearest first. -/
def wider : Family → List Family
  | .any => []
  | .provision => [.provisioning, .any]
  | .healthCheck => [.provisioning, .any]
  | .conflict => [.listener, .any]
  | _ => [.any]

end Family

inductive Failure where
  | rejected (r : Rejection)
  | service (e : ServiceFailure)
  | notFound (name : Value)
  | provision (name reason code : Value)
  | healthCheck (name reason code dnsName : Value)
  | conflict (name : Value) (listener : Listener) (reason : Value)
  | remote (e : RemoteError)
  | nothingToReport (operation : Value)
  | unspecified (family : Family)
  deriving Repr

namespace Failure

/-- A value in brackets where it counts as given. -/
def aside (front : String) (v : Value) : Option String :=
  if v.isGiven then do return " (" ++ front ++ (← v.shown?) ++ ")" else some ""

/-- The text of a failure. It has none if a value that it shows cannot be written. -/
def text? : Failure → Option String
  | .rejected r => some r.message
  | .service e => e.text?
  | .notFound name => do return "Load balancer not found: " ++ (← name.shown?)
  | .provision name reason _ => do
    return "Load balancer " ++ (← name.shown?) ++ " creation failed: " ++ (← reason.shown?)
  | .healthCheck name reason _ dnsName => do
    return "Health check configuration for " ++ (← name.shown?) ++ " failed: " ++
      (← reason.shown?) ++ (← aside "load balancer exists at " dnsName)
  | .conflict name listener reason => do
    return "Listener conflict on " ++ (← name.shown?) ++ ": frontend port " ++
      toString listener.frontend.number ++ " is already bound to a different listener" ++
      (← aside "" reason)
  | .remote e => e.text?
  | .nothingToReport operation => do
    return (← operation.shown?) ++ " succeeded; there is no error to convert"
  | .unspecified _ => some ""

def text (f : Failure) : String := f.text?.getD ""

/-- A failure with the text that it is made with. -/
def checked (f : Failure) : Checked Failure :=
  if f.text?.isSome then .ok f else .error .unwritten

/-- The family of a failure. Foreign errors and misused values are of none. -/
def family? : Failure → Option Family
  | .rejected (.invalid ..) => some .validation
  | .rejected _ => none
  | .service _ => some .service
  | .notFound _ => some .notFound
  | .provision .. => some .provision
  | .healthCheck .. => some .healthCheck
  | .conflict .. => some .conflict
  | .remote _ => none
  | .nothingToReport _ => none
  | .unspecified family => some family

/-- Whether the load balancer exists in spite of the failure: it was created, and lacks its health
check. -/
def isPartial : Failure → Bool
  | .healthCheck _ _ _ dnsName => !dnsName.isNull
  | _ => false

/-- What is known about a failure. -/
def details : Failure → List (String × Value)
  | .rejected (.invalid field _ reason _) => [("field", field), ("reason", reason)]
  | .service e =>
    [("operation", e.operation), ("code", e.code), ("message", e.message),
      ("load_balancer_name", e.balancer)]
  | .notFound name => [("name", name)]
  | .provision name reason code => [("name", name), ("reason", reason), ("code", code)]
  | .healthCheck name reason code dnsName =>
    [("name", name), ("reason", reason), ("code", code), ("dns_name", dnsName),
      ("partially_provisioned", .bool (!dnsName.isNull))]
  | .conflict name listener reason =>
    [("name", name), ("listener", listener.toReport), ("reason", reason)]
  | _ => []

end Failure

/-- A failure that is raised, and the one that it was raised from. -/
structure Raised where
  failure : Failure
  cause : Option Failure
  deriving Repr

namespace Raised

def bare (f : Failure) : Raised := ⟨f, none⟩

/-- A failure that is made with its text and raised from another one. -/
def ofFailure (f : Failure) (cause : Option Failure) : Raised :=
  match f.checked with
  | .ok f => ⟨f, cause⟩
  | .error r => .bare (.rejected r)

end Raised

/-- How a remote call ended: in an answer or in an error. -/
structure CallResult where
  operation : Value
  response : Value
  error : Option RemoteError
  deriving Repr

namespace CallResult

/-- What the call's fault says, if there is one. -/
def kind? (r : CallResult) : Option FaultKind := r.error.map RemoteError.kind

def code? (r : CallResult) : Option String := r.error.map RemoteError.code

def message? (r : CallResult) : Option String := r.error.map RemoteError.message

/-- The call's error as it is reported to the caller. -/
def failure (r : CallResult) (balancer : Value) : Except Failure ServiceFailure :=
  match r.error with
  | some e =>
    let f := ServiceFailure.ofError r.operation balancer e
    if e.text?.isSome && f.text?.isSome then .ok f else .error (.rejected .unwritten)
  | none => .error (Raised.ofFailure (.nothingToReport r.operation) none).failure

end CallResult

end Balancer
