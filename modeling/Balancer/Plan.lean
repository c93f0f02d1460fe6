import Balancer.Failure
import Balancer.Request

/-!
Plans: what an operation does, without doing it.

A plan is a tree. It ends in a result or a failure, writes to the log, or asks the provider and goes
on with what comes back. Only faults come back as such; any other error of a remote call ends the
plan from outside.
-/

namespace Balancer

inductive LogLevel where
  | debug
  | info
  | warning
  deriving DecidableEq, Repr

def LogLevel.name : LogLevel → String
  | .debug => "DEBUG"
  | .info => "INFO"
  | .warning => "WARNING"

/-- Levels in ascending order of weight. -/
def LogLevel.weight : LogLevel → Nat
  | .debug => 10
  | .info => 20
  | .warning => 30

/-- An entry of the log. It has no text when what it is about cannot be written as it should. -/
structure LogEntry where
  level : LogLevel
  text? : Option String
  deriving DecidableEq, Repr

/-- The name of the log that operations write to. -/
def LogEntry.source : String := "apilb.manager"

/-- What comes back from the provider. -/
abbrev Answer := Except RemoteFault Value

inductive Plan (α : Type) where
  | done (a : α)
  | fail (e : Raised)
  | log (entry : LogEntry) (next : Plan α)
  | ask (q : Request) (next : Answer → Plan α)

namespace Plan

variable {α β γ : Type}

/-- A plan that is followed by another one. -/
def bind : Plan α → (α → Plan β) → Plan β
  | .done a, f => f a
  | .fail e, _ => .fail e
  | .log entry next, f => .log entry (next.bind f)
  | .ask q next, f => .ask q fun a => (next a).bind f

instance : Monad Plan where
  pure := .done
  bind := bind

@[simp] theorem pure_eq_done (a : α) : (pure a : Plan α) = .done a := rfl

@[simp] theorem done_bind (a : α) (f : α → Plan β) : (Plan.done a >>= f) = f a := rfl

@[simp] theorem fail_bind (e : Raised) (f : α → Plan β) : (Plan.fail e >>= f) = .fail e := rfl

@[simp] theorem log_bind (entry : LogEntry) (p : Plan α) (f : α → Plan β) :
    (Plan.log entry p >>= f) = .log entry (p >>= f) := rfl

@[simp] theorem ask_bind (q : Request) (next : Answer → Plan α) (f : α → Plan β) :
    (Plan.ask q next >>= f) = .ask q fun a => next a >>= f := rfl

theorem bind_assoc (p : Plan α) (f : α → Plan β) (g : β → Plan γ) :
    (p >>= f >>= g) = p >>= fun a => f a >>= g := by
  induction p with
  | done => rfl
  | fail => rfl
  | log entry next ih => simp only [log_bind, ih]
  | ask q next ih => simp only [ask_bind, ih]

def note (level : LogLevel) (text : String) : Plan Unit := .log ⟨level, some text⟩ (.done ())

/-- Notes a text about something, if that can be written. -/
def noteAbout (level : LogLevel) (subject : Option String) (text : String → String) : Plan Unit :=
  .log ⟨level, subject.map text⟩ (.done ())

/-- Goes on with what passes its tests. -/
def ofChecked : Checked α → Plan α
  | .ok a => .done a
  | .error r => .fail (.bare (.rejected r))

/-- Asks the provider. A fault is noted. -/
def call (q : Request) : Plan Answer :=
  .ask q fun
    | .ok v => .done (.ok v)
    | .error f => .log ⟨.debug, some (q.operation ++ " failed: " ++ f.text)⟩ (.done (.error f))

end Plan

end Balancer
