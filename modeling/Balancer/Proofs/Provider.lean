import Balancer.Proofs.Course
import Mathlib.Data.Finset.SDiff
import Mathlib.Data.Finset.Dedup
import Mathlib.Data.Finset.Lattice.Basic
import Mathlib.Logic.Function.Basic

/-!
The provider: what it keeps of each load balancer, and what it may answer.

The provider is free where providers differ: in the code it reports a fault under, in whether it
minds what is so already, and in the order in which it tells listeners and instances. It may fail at
any request, but not with a fault that means something else there. Main statement: what it describes
shows what it keeps (`ofAnswer_of_describes`).
-/

namespace Balancer

@[ext]
structure Held where
  dnsName : String
  listeners : Port → Option Listener
  keyed : ∀ p l, listeners p = some l → l.frontend = p
  instances : Finset String
  check : Option HealthCheck
  regular : ∀ h, check = some h → h.IsRegular

namespace Held

def new (dnsName : String) (l : Listener) : Held where
  dnsName := dnsName
  listeners p := if p = l.frontend then some l else none
  keyed p m h := by
    split at h
    · next hp => cases h; exact hp.symm
    · cases h
  instances := ∅
  check := none
  regular _ h := by cases h

def bare (dnsName : String) : Held where
  dnsName := dnsName
  listeners _ := none
  keyed _ _ h := by cases h
  instances := ∅
  check := none
  regular _ h := by cases h

def bind (k : Held) (l : Listener) : Held where
  dnsName := k.dnsName
  listeners p := if p = l.frontend then some l else k.listeners p
  keyed p m h := by
    split at h
    · next hp => cases h; exact hp.symm
    · exact k.keyed p m h
  instances := k.instances
  check := k.check
  regular := k.regular

/-- The port of a listener to remove is whatever was named. -/
def unbind (k : Held) (port : Value) : Held where
  dnsName := k.dnsName
  listeners p := if port.same p.toValue then none else k.listeners p
  keyed p m h := by
    split at h
    · cases h
    · exact k.keyed p m h
  instances := k.instances
  check := k.check
  regular := k.regular

def register (k : Held) (ids : List String) : Held :=
  { k with instances := k.instances ∪ ids.toFinset }

def deregister (k : Held) (ids : List String) : Held :=
  { k with instances := k.instances \ ids.toFinset }

def attach (k : Held) (h : HealthCheck) (hregular : h.IsRegular) : Held :=
  { k with
    check := some h
    regular := fun _ heq => Option.some.inj heq ▸ hregular }

lemma bind_eq_self {k : Held} {l : Listener} (h : k.listeners l.frontend = some l) :
    k.bind l = k := by
  ext1
  · rfl
  · funext p
    simp only [bind]
    split
    · next hp => rw [hp, h]
    · rfl
  · rfl
  · rfl

lemma unbind_eq_self {k : Held} {port : Value}
    (h : ∀ p : Port, port.same p.toValue = true → k.listeners p = none) : k.unbind port = k := by
  ext1
  · rfl
  · funext p
    simp only [unbind]
    split
    · next hp => rw [h p hp]
    · rfl
  · rfl
  · rfl

structure IsToldBy (k : Held) (n : String) (r : Description.Report) : Prop where
  name : r.name = n
  dnsName : r.dnsName = k.dnsName
  listeners : ∀ l, l ∈ r.listeners ↔ k.listeners l.frontend = some l
  instances : ∀ id, id ∈ r.instances ↔ id ∈ k.instances
  check : r.check = k.check

/-- An answer to a description tells what is kept, first of all that it lists. -/
def IsDescribedBy (k : Held) (n : String) (answer : Value) : Prop :=
  ∃ r v rest, answer.get? "LoadBalancerDescriptions" = .ok (some (.list (v :: rest))) ∧
    r.Tells v ∧ k.IsToldBy n r

lemma isDescribedBy_answer {k : Held} {n : String} {r : Description.Report} (h : k.IsToldBy n r) :
    k.IsDescribedBy n r.answer :=
  ⟨r, r.toWire, [], rfl, r.tells_toWire, h⟩

end Held

/-- A description shows what the provider keeps: the listeners under their ports, the instances as
a set, and the health check. -/
structure Description.Shows (d : Description) (n : String) (k : Held) : Prop where
  name : d.name = .text n
  dnsName : d.dnsName = .text k.dnsName
  listener : ∀ p : Port, d.listener? p.toValue = k.listeners p
  keyed : ∀ e ∈ d.listeners, e.1 = e.2.frontend.toValue
  instances : ∃ ids : List String, ids.Nodup ∧ (∀ id, id ∈ ids ↔ id ∈ k.instances) ∧
    d.instances = ids.map .text
  check : d.healthCheck = k.check

/-- The listener on a port is the one that any list of all of them has there. -/
lemma Held.find?_eq {k : Held} {ls : List Listener}
    (h : ∀ l, l ∈ ls ↔ k.listeners l.frontend = some l) (p : Port) :
    (ls.find? fun l => l.frontend == p) = k.listeners p := by
  rcases hfind : ls.find? _ with _ | l
  · rcases hp : k.listeners p with _ | l
    · rfl
    · have hport : l.frontend = p := k.keyed p l hp
      have hmem : l ∈ ls := (h l).mpr (by rw [hport, hp])
      have hnone := List.find?_eq_none.mp hfind l hmem
      exact absurd hport (by simpa using hnone)
  · have hmem := List.mem_of_find?_eq_some hfind
    have hport := List.find?_some hfind
    rw [beq_iff_eq] at hport
    rw [← hport, (h l).mp hmem]

/-- **A description shows what is kept.** -/
theorem ofAnswer_of_describes {k : Held} {n : String} {answer : Value}
    (h : k.IsDescribedBy n answer) :
    ∃ d, Description.ofAnswer answer = .ok (some d) ∧ d.Shows n k := by
  obtain ⟨r, v, rest, hanswer, hv, htold⟩ := h
  have hregular : ∀ h, r.check = some h → h.IsRegular := by
    rw [htold.check]
    exact k.regular
  obtain ⟨d, hd, hname, hdns, hlisteners, ⟨ids, hnodup, hmem, hids⟩, hcheck⟩ :=
    Description.ofWire_of_tells hv hregular
  refine ⟨d, ?_, ?_⟩
  · exact Description.ofAnswer_eq_some_iff.mpr ⟨v, ⟨rest, hanswer⟩, hd⟩
  · refine ⟨by rw [hname, htold.name], by rw [hdns, htold.dnsName], fun p => ?_, ?_,
      ⟨ids, hnodup, fun id => (hmem id).trans (htold.instances id), hids⟩,
      hcheck.trans htold.check⟩
    · rw [Description.listener?_eq_find? hlisteners, Listener.find?_foldl_bind]
      exact Held.find?_eq (fun l => by rw [List.mem_reverse, htold.listeners]) p
    · intro e he
      rw [hlisteners] at he
      obtain ⟨l, -, rfl⟩ := List.mem_map.mp he
      rfl

/-! ### Answers -/

abbrev Provider := String → Option Held

namespace Provider

def put (P : Provider) (n : String) (k : Held) : Provider := Function.update P n (some k)

lemma put_eq_self {P : Provider} {n : String} {k : Held} (h : P n = some k) : P.put n k = P := by
  rw [put, ← h, Function.update_eq_self]

end Provider

/-- A fault that means nothing to a request: no creation is refused for the name's sake, and no
other request for what it is about. -/
def Request.IsDisturbedBy (q : Request) (f : RemoteFault) : Prop :=
  match q with
  | .create .. => ¬ f.Says .duplicateName
  | q => q.IsForeignTo f

/-- What the provider may answer to a request, and what it keeps then. -/
inductive Provider.Answers (P : Provider) : Request → Answer → Provider → Prop
  | created {n : String} {subnets : List String} {l : Listener} {dnsName : String} {v : Value}
      (hfree : P n = none) (hv : v.item "DNSName" = .ok (.text dnsName)) :
      P.Answers (.create n subnets l) (.ok v) (P.put n (.new dnsName l))
  | taken {n : String} {subnets : List String} {l : Listener} {k : Held} {f : RemoteFault}
      (hkept : P n = some k) (hf : f.Says .duplicateName) :
      P.Answers (.create n subnets l) (.error f) P
  | attached {n : String} {h : HealthCheck} {k : Held} {v : Value} (hkept : P n = some k)
      (hregular : h.IsRegular) :
      P.Answers (.attach n h) (.ok v) (P.put n (k.attach h hregular))
  | bound {n : String} {l : Listener} {k : Held} {v : Value} (hkept : P n = some k)
      (hport : ∀ m, k.listeners l.frontend = some m → m = l) :
      P.Answers (.bind n l) (.ok v) (P.put n (k.bind l))
  | duplicate {n : String} {l m : Listener} {k : Held} {f : RemoteFault} (hkept : P n = some k)
      (hport : k.listeners l.frontend = some m) (hf : f.Says .duplicateListener) :
      P.Answers (.bind n l) (.error f) P
  | unbound {n : String} {port : Value} {k : Held} {v : Value} (hkept : P n = some k) :
      P.Answers (.unbind n port) (.ok v) (P.put n (k.unbind port))
  | unheard {n : String} {port : Value} {k : Held} {f : RemoteFault} (hkept : P n = some k)
      (hport : ∀ p : Port, port.same p.toValue = true → k.listeners p = none)
      (hf : f.Says .listenerNotFound) :
      P.Answers (.unbind n port) (.error f) P
  | registered {n : String} {ids : List String} {k : Held} {v : Value} (hkept : P n = some k) :
      P.Answers (.register n ids) (.ok v) (P.put n (k.register ids))
  | deregistered {n : String} {ids : List String} {k : Held} {v : Value} (hkept : P n = some k) :
      P.Answers (.deregister n ids) (.ok v) (P.put n (k.deregister ids))
  | described {n : String} {k : Held} {v : Value} (hkept : P n = some k)
      (hv : k.IsDescribedBy n v) :
      P.Answers (.describe n) (.ok v) P
  | missing {q : Request} {f : RemoteFault} (hq : ∀ n subnets l, q ≠ .create n subnets l)
      (hfree : P q.balancer = none) (hf : f.Says .balancerNotFound) :
      P.Answers q (.error f) P
  | unlisted {n : String} {v : Value} (hfree : P n = none) (hv : Absent (.ok v)) :
      P.Answers (.describe n) (.ok v) P
  | disturbed {q : Request} {f : RemoteFault} (hf : q.IsDisturbedBy f) :
      P.Answers q (.error f) P

inductive Provider.Serves : Provider → List Exchange → Provider → Prop
  | nil (P : Provider) : P.Serves [] P
  | cons {P Q R : Provider} {q : Request} {a : Answer} {t : List Exchange}
      (h : P.Answers q a Q) (ht : Q.Serves t R) : P.Serves ((q, a) :: t) R

end Balancer
