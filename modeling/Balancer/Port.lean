import Balancer.Value.Access

/-!
Port numbers: the integers from 1 to 65535.
-/

namespace Balancer

structure Port where
  number : Nat
  one_le : 1 ≤ number
  le_max : number ≤ 65535
  deriving DecidableEq, Repr

namespace Port

/-- The well-known port of a clustered control plane. -/
def controlPlane : Port := ⟨6443, by decide, by decide⟩

/-- The port with a number, if the number is in range. -/
def ofInt? (n : Int) : Option Port :=
  if h : 1 ≤ n ∧ n ≤ 65535 then some ⟨n.toNat, by omega, by omega⟩ else none

def toValue (p : Port) : Value := .int p.number

/-- The port that the value of a field is. A truth value is no integer here. -/
def check (field v : Value) : Checked Port :=
  match v with
  | .int n =>
    match ofInt? n with
    | some p => .ok p
    | none => .error (.ofParts field v (.text "Port must be between 1 and 65535"))
  | v => .error (.ofParts field v (.text "Port must be an integer"))

theorem ofInt?_eq_some_iff {n : Int} {p : Port} : ofInt? n = some p ↔ n = p.number := by
  obtain ⟨k, h1, h2⟩ := p
  unfold ofInt?
  split
  · simp only [Option.some.injEq, mk.injEq]
    omega
  · simp only [reduceCtorEq, false_iff]
    omega

@[simp] theorem check_toValue (field : Value) (p : Port) : check field p.toValue = .ok p := by
  simp [check, toValue, ofInt?_eq_some_iff.2 rfl]

end Port

end Balancer
