import Balancer.Value.Access

/-!
Faults of remote calls, and how they are recognised.

A fault that the service reports has a code and a message, either of which may be missing. A call
that does not get through is a fault of transport; it has no code, and the name of its class stands
in for one. Only codes decide what a fault means, so no fault of transport is ever recognised.
-/

namespace Balancer

/-- What a recognised fault says. -/
inductive FaultKind where
  | balancerNotFound
  | listenerNotFound
  | duplicateListener
  | duplicateName
  | other
  deriving DecidableEq, Repr

namespace FaultKind

def name : FaultKind → String
  | .balancerNotFound => "load_balancer_not_found"
  | .listenerNotFound => "listener_not_found"
  | .duplicateListener => "duplicate_listener"
  | .duplicateName => "duplicate_name"
  | .other => "other"

/-- The two codes of each recognised fault: providers differ in which one they report. -/
def codes : FaultKind → List String
  | .balancerNotFound => ["LoadBalancerNotFound", "AccessPointNotFoundException"]
  | .listenerNotFound => ["ListenerNotFound", "ListenerNotFoundException"]
  | .duplicateListener => ["DuplicateListener", "DuplicateListenerException"]
  | .duplicateName => ["DuplicateLoadBalancerName", "DuplicateAccessPointNameException"]
  | .other => []

def recognised : List FaultKind :=
  [.balancerNotFound, .listenerNotFound, .duplicateListener, .duplicateName]

def ofCode (code : String) : FaultKind :=
  (recognised.find? fun k => k.codes.contains code).getD .other

end FaultKind

/-- A fault that the service reports on an operation. The retries are told once no more follow. All
that is told can be written: the text of a fault is made with it. -/
structure ServiceFault where
  code : Option Value
  message : Option Value
  operation : Value
  retries : Option Value
  isWritten : ([code, message, some operation, retries].all fun v => v.all (·.shown?.isSome)) = true
  deriving Repr

namespace ServiceFault

/-- The full text of a fault; what is missing is unknown. -/
def text (f : ServiceFault) : String :=
  let part := fun v => (Option.getD v (.text "Unknown")).shown
  let retries := f.retries.map fun n => " (reached max retries: " ++ n.shown ++ ")"
  "An error occurred (" ++ part f.code ++ ") when calling the " ++ f.operation.shown ++
    " operation" ++ retries.getD "" ++ ": " ++ part f.message

/-- The code, empty if it is missing. -/
def codeText (f : ServiceFault) : String := (f.code.getD (.text "")).shown

/-- The message, or else the full text. -/
def messageText (f : ServiceFault) : String := (f.message.getD (.text f.text)).shown

/-- Reads the retries that the service reports next to the fault. -/
def readRetries (response : Value) : Checked (Option Value) := do
  if ← response.holds "ResponseMetadata" then
    let metadata ← response.item "ResponseMetadata"
    if (Value.ofOption (← metadata.get? "MaxAttemptsReached")).isGiven then
      metadata.get? "RetryAttempts"
    else return none
  else return none

/-- Reads the service's report of a fault. -/
def ofResponse (response operation : Value) : Checked ServiceFault := do
  let retries ← readRetries response
  let error := (← response.get? "Error").getD (.record [])
  let code ← error.get? "Code"
  let message ← error.get? "Message"
  if h : ([code, message, some operation, retries].all fun v => v.all (·.shown?.isSome)) = true then
    return ⟨code, message, operation, retries, h⟩
  else throw .unwritten

end ServiceFault

/-- A call that does not get through: the class of the fault, and its text. -/
structure TransportFault where
  name : String
  text : String
  deriving DecidableEq, Repr

/-- A fault that a remote call ends in. -/
inductive RemoteFault where
  | service (f : ServiceFault)
  | transport (f : TransportFault)
  deriving Repr

namespace RemoteFault

def name : RemoteFault → String
  | .service _ => "ClientError"
  | .transport f => f.name

def text : RemoteFault → String
  | .service f => f.text
  | .transport f => f.text

def code : RemoteFault → String
  | .service f => f.codeText
  | .transport f => f.name

def message : RemoteFault → String
  | .service f => f.messageText
  | .transport f => f.text

/-- What a fault says. -/
def kind : RemoteFault → FaultKind
  | .service f => .ofCode f.codeText
  | .transport _ => .other

end RemoteFault

/-- An error that has nothing to do with the provider, and is let through. Its text is made when it
is asked for, so there may be none. -/
structure ForeignError where
  name : String
  text? : Option String
  deriving DecidableEq, Repr

/-- Whatever a remote call may fail with: a fault, which is handled, or a foreign error. -/
inductive RemoteError where
  | fault (f : RemoteFault)
  | foreign (e : ForeignError)
  deriving Repr

namespace RemoteError

def name : RemoteError → String
  | .fault f => f.name
  | .foreign e => e.name

def text? : RemoteError → Option String
  | .fault f => some f.text
  | .foreign e => e.text?

def code : RemoteError → String
  | .fault f => f.code
  | .foreign e => e.name

def message : RemoteError → String
  | .fault f => f.message
  | .foreign e => e.text?.getD ""

def kind : RemoteError → FaultKind
  | .fault f => f.kind
  | .foreign _ => .other

end RemoteError

end Balancer
