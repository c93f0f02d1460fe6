import Balancer.Text.LetterCase
import Balancer.Value.Access

/-!
The protocols that listeners forward and health checks probe with.
-/

namespace Balancer

inductive Protocol where
  | tcp
  | ssl
  | http
  | https
  deriving DecidableEq, Repr

namespace Protocol

def all : List Protocol := [.tcp, .ssl, .http, .https]

def name : Protocol → String
  | .tcp => "TCP"
  | .ssl => "SSL"
  | .http => "HTTP"
  | .https => "HTTPS"

/-- Probes of these protocols ask for a path. -/
def hasPath : Protocol → Bool
  | .http => true
  | .https => true
  | _ => false

/-- The protocol that a text names in any letter case. -/
def ofText? (s : String) : Option Protocol := all.find? fun p => p.name == Text.capitals s

def toValue (p : Protocol) : Value := .text p.name

def check (v : Value) : Checked Protocol :=
  match v with
  | .text s =>
    match ofText? s with
    | some p => .ok p
    | none => .error (.breaking "protocol" v
        ("Must be one of: " ++ ", ".intercalate (all.map name)))
  | v => misuse (.noMember v "upper")

end Protocol

end Balancer
