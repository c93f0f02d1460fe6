import Balancer.Connection
import Balancer.Document.Arguments
import Balancer.Document.Moment

/-!
Scripts of a provider in documents: its replies in turn, and the errors of opening and closing.
-/

namespace Balancer

/-- The transport faults that a document can name. -/
inductive TransportKind where
  | endpointConnection
  | connectTimeout
  | readTimeout
  | connectionClosed
  | secureChannel
  | noCredentials
  | noRegion
  | parameters
  | partialCredentials
  | noProfile
  | unspecified
  deriving DecidableEq, Repr

namespace TransportKind

def all : List TransportKind :=
  [.endpointConnection, .connectTimeout, .readTimeout, .connectionClosed, .secureChannel,
    .noCredentials, .noRegion, .parameters, .partialCredentials, .noProfile, .unspecified]

def name : TransportKind → String
  | .endpointConnection => "EndpointConnectionError"
  | .connectTimeout => "ConnectTimeoutError"
  | .readTimeout => "ReadTimeoutError"
  | .connectionClosed => "ConnectionClosedError"
  | .secureChannel => "SSLError"
  | .noCredentials => "NoCredentialsError"
  | .noRegion => "NoRegionError"
  | .parameters => "ParamValidationError"
  | .partialCredentials => "PartialCredentialsError"
  | .noProfile => "ProfileNotFound"
  | .unspecified => "BotoCoreError"

def ofName? (name : String) : Option TransportKind := all.find? fun k => k.name == name

/-- The text of a fault with the given details. A detail that the text names must be given. -/
def text (details : List (String × Value)) (k : TransportKind) : Checked String := do
  let detail := fun key => do (← (Value.record details).item key).written
  match k with
  | .endpointConnection =>
    return "Could not connect to the endpoint URL: \"" ++ (← detail "endpoint_url") ++ "\""
  | .connectTimeout =>
    return "Connect timeout on endpoint URL: \"" ++ (← detail "endpoint_url") ++ "\""
  | .readTimeout =>
    return "Read timeout on endpoint URL: \"" ++ (← detail "endpoint_url") ++ "\""
  | .connectionClosed =>
    return "Connection was closed before we received a valid response from endpoint URL: \"" ++
      (← detail "endpoint_url") ++ "\"."
  | .secureChannel =>
    return "SSL validation failed for " ++ (← detail "endpoint_url") ++ " " ++ (← detail "error")
  | .noCredentials => return "Unable to locate credentials"
  | .noRegion => return "You must specify a region."
  | .parameters => return "Parameter validation failed:\n" ++ (← detail "report")
  | .partialCredentials =>
    return "Partial credentials found in " ++ (← detail "provider") ++ ", missing: " ++
      (← detail "cred_var")
  | .noProfile => return "The config profile (" ++ (← detail "profile") ++ ") could not be found"
  | .unspecified => return "An unspecified error occurred"

end TransportKind

/-- The foreign errors that a document can name. -/
inductive ForeignKind where
  | runtime
  | value
  | key
  | system
  deriving DecidableEq, Repr

namespace ForeignKind

def all : List ForeignKind := [.runtime, .value, .key, .system]

def name : ForeignKind → String
  | .runtime => "RuntimeError"
  | .value => "ValueError"
  | .key => "KeyError"
  | .system => "OSError"

def ofName? (name : String) : Option ForeignKind := all.find? fun k => k.name == name

/-- The text of an error with a message; a missing key is quoted. -/
def text? (message : Value) : ForeignKind → Option String
  | .key => message.quoted?
  | _ => message.shown?

end ForeignKind

/-- An error of a remote call: the service's report, a kind of transport fault with its details, or
a foreign error with its message. -/
def RemoteError.ofDocument (v : Value) : Checked RemoteError := do
  let given ← Arguments.ofDocument v
  match Value.field? given "client", Value.field? given "boto" with
  | some response, _ =>
    let f ← ServiceFault.ofResponse response (given.part "operation" (.text "Op"))
    return .fault (.service f)
  | none, some kind =>
    match TransportKind.ofName? kind.shown with
    | some k => return .fault (.transport
      ⟨k.name, ← k.text (← Arguments.ofDocument (given.part "kwargs" .null))⟩)
    | none => misuse (.noMember .null kind.shown)
  | none, none =>
    match ForeignKind.ofName? (given.part "plain" .null).shown with
    | some k => return .foreign ⟨k.name, k.text? (given.part "message" .null)⟩
    | none => misuse .badCall

namespace Script

/-- A reply: an answer, or an error. -/
def readReply (v : Value) : Checked (Except RemoteError Value) := do
  let given ← Arguments.ofDocument v
  match Value.field? given "ok" with
  | some answer => return .ok (← Moment.restore answer)
  | none => return .error (← RemoteError.ofDocument v)

def ofDocument (v : Value) : Checked Script := do
  let given ← Arguments.ofDocument v
  let replies ← given.part? "replies" fun v => do (← v.members).mapM readReply
  let openError ← given.part? "open_error" RemoteError.ofDocument
  let closeError ← given.part? "close_error" RemoteError.ofDocument
  return ⟨replies.getD [], openError, closeError⟩

end Script

end Balancer
