import Balancer.Document.Call
import Balancer.Proofs.Provisioning
import Balancer.Proofs.Refinement

/-!
Exposure: on which ports a load balancer can be reached, and on which one its manager looks.

A manager has a control plane's port of its own, on which it exposes and hides. A load balancer that
is created without a port listens on the well-known one instead. Main statement: such a load
balancer is exposed, and is closed by hiding it, exactly if the manager's port is the well-known one
(`provisioned_on_standard_port`).
-/

namespace Balancer

/-! ### The exposure of what is kept -/

namespace Held

variable {k : Held}

def exposure (k : Held) (p : Port) : Exposure :=
  if (k.listeners p).isSome then .exposed else .hidden

def IsClosed (k : Held) : Prop := ∀ p, k.listeners p = none

def HasOnly (k : Held) (l : Listener) : Prop :=
  ∀ p, k.listeners p = if p = l.frontend then some l else none

def setExposure (k : Held) (p : Port) : Exposure → Held
  | .exposed => k.bind (.forwarding p)
  | .hidden => k.unbind p.toValue

lemma listeners_unbind (p q : Port) :
    (k.unbind p.toValue).listeners q = if q = p then none else k.listeners q := by
  simp only [unbind, Description.same_toValue_iff, eq_comm (a := p)]

lemma dnsName_setExposure (p : Port) (e : Exposure) : (k.setExposure p e).dnsName = k.dnsName := by
  cases e <;> rfl

lemma exposure_setExposure (p : Port) (e : Exposure) (q : Port) :
    (k.setExposure p e).exposure q = if q = p then e else k.exposure q := by
  have hlisteners : ((k.setExposure p e).listeners q).isSome =
      if q = p then e == .exposed else (k.listeners q).isSome := by
    cases e with
    | exposed => by_cases hq : q = p <;> simp [setExposure, bind, Listener.forwarding, hq]
    | hidden => by_cases hq : q = p <;> simp [setExposure, listeners_unbind, hq]
  rw [exposure, hlisteners]
  by_cases hq : q = p
  · cases e <;> simp [hq]
  · simp [exposure, hq]

lemma HasOnly.listeners_unbind {l : Listener} (h : k.HasOnly l) (p : Port) :
    (k.unbind p.toValue).listeners l.frontend = if p = l.frontend then none else some l := by
  rw [Held.listeners_unbind, h]
  simp [eq_comm]

lemma HasOnly.isClosed_unbind_iff {l : Listener} (h : k.HasOnly l) (p : Port) :
    (k.unbind p.toValue).IsClosed ↔ p = l.frontend := by
  constructor
  · intro hclosed
    have hleft := hclosed l.frontend
    rw [h.listeners_unbind] at hleft
    by_contra hp
    simp [hp] at hleft
  · rintro rfl q
    rw [Held.listeners_unbind, h]
    by_cases hq : q = l.frontend <;> simp [hq]

lemma hasOnly_bind_bare (dnsName : String) (l : Listener) : ((bare dnsName).bind l).HasOnly l :=
  fun _ => rfl

lemma HasOnly.isToldBy {l : Listener} (h : k.HasOnly l) (hinstances : k.instances = ∅)
    (hcheck : k.check = none) (n : String) : k.IsToldBy n ⟨n, k.dnsName, [l], [], none⟩ where
  name := rfl
  dnsName := rfl
  listeners m := by
    rw [h, List.mem_singleton]
    constructor
    · rintro rfl
      exact if_pos rfl
    · intro hm
      split at hm
      · exact (Option.some.inj hm).symm
      · cases hm
  instances id := by simp [hinstances]
  check := hcheck.symm

end Held

lemma Description.Shows.exposure {d : Description} {n : String} {k : Held} (h : d.Shows n k)
    (p : Port) : d.exposure p.toValue = .ok (k.exposure p) := by
  have hlistener : d.hasListener p.toValue = .ok (k.listeners p).isSome := by
    rw [← h.listener p]
    rfl
  rw [Description.exposure, hlistener]
  rfl

lemma Description.Shows.standardExposure {d : Description} {n : String} {k : Held}
    (h : d.Shows n k) : d.standardExposure = k.exposure .controlPlane := by
  rw [Description.standardExposure, h.listener, Held.exposure]

/-! ### Operations that end well -/

namespace Provider

/-- What is kept after an operation that ended well. -/
def Follows (s : Settings) (P : Provider) (i : Intent) (Q : Provider) : Prop :=
  match i with
  | .provision n _ l => P n = none ∧ ∃ dnsName hregular,
      Q = P.put n ((Held.new dnsName l).attach s.healthCheck hregular)
  | .attach n h => ∃ k hregular, P n = some k ∧ Q = P.put n (k.attach h hregular)
  | .bind n l => ∃ k, P n = some k ∧ Q = P.put n (k.bind l)
  | .unbind n port => ∃ k, P n = some k ∧ Q = P.put n (k.unbind port)
  | .register n ids => ids = [] ∧ Q = P ∨ ∃ k, P n = some k ∧ Q = P.put n (k.register ids)
  | .deregister n ids => ids = [] ∧ Q = P ∨ ∃ k, P n = some k ∧ Q = P.put n (k.deregister ids)
  | .lookup _ => Q = P
  | .describe _ => Q = P
  | .existence _ => Q = P

variable {s : Settings} {P Q : Provider} {i : Intent} {t : List Exchange} {a : Outcome}

lemma Performs.follows (h : P.Performs s i t (.ok a) Q) : P.Follows s i Q := by
  generalize hr : (Except.ok a : Except Raised Outcome) = r at h
  cases h with
  | provisioned hfree hregular => exact ⟨hfree, _, hregular, rfl⟩
  | attached hkept hregular => exact ⟨_, hregular, hkept, rfl⟩
  | bound hkept hport => exact ⟨_, hkept, rfl⟩
  | unbound hkept => exact ⟨_, hkept, rfl⟩
  | registered hkept => exact .inr ⟨_, hkept, rfl⟩
  | deregistered hkept => exact .inr ⟨_, hkept, rfl⟩
  | skipped hskip => rcases hskip with rfl | rfl <;> exact .inl ⟨rfl, rfl⟩
  | found b => cases b <;> rfl
  | notFound b => cases b <;> rfl
  | _ => cases hr

end Provider

/-- No fault disturbed a request. -/
def IsCalm (t : List Exchange) : Prop :=
  ∀ e ∈ t, ∀ f, e.2 = .error f → ¬ e.1.IsDisturbedBy f

/-- The provider has its part in an operation, for which a client opens. -/
def Provider.Sees (P : Provider) (m : Manager) (script : Script) (o : Operation)
    (t : List Exchange) (Q : Provider) : Prop :=
  script.openError = none ∧ P.Hosts (.operate o, script) (m.act script (.operate o)) t Q

namespace Manager

variable {m : Manager} {script : Script} {P Q : Provider} {t : List Exchange}

lemma follows_of_sees {o : Operation} {a : Outcome} (h : P.Sees m script o t Q)
    (hok : (m.act script (.operate o)).result = .ok a) :
    ∃ i, o.read m.settings = .ok i ∧ P.Follows m.settings i Q := by
  obtain ⟨hopen, hhosts⟩ := h
  have hsteps := act_steps hopen hhosts
  rw [hok] at hsteps
  cases hsteps with
  | performed hread hstep => exact ⟨_, hread, hstep.follows⟩

lemma describe_of_sees {n : String} {k : Held} (hn : Name.IsValid n) (hkept : P n = some k)
    (h : P.Sees m script (.describe (.text n)) t Q) (hcalm : IsCalm t) :
    Q = P ∧ ∃ v d, t = [(.describe n, .ok v)] ∧ Description.ofAnswer v = .ok (some d) ∧
      d.Shows n k ∧
      (m.act script (.operate (.describe (.text n)))).result = .ok (.description (some d)) := by
  obtain ⟨hopen, htalk, hserves⟩ := h
  have hreaches : m.connection.reaches script.openError = true := by
    simp [Connection.reaches, hopen]
  obtain ⟨hresult, hrequests⟩ := @act_question m script n hn .describe
  have hreply : m.reply script = _ := Connection.reply_of_reaches hreaches
  have hasked : converse (m.act script (.operate (.describe (.text n)))).requests script.replies =
      [(.describe n, m.reply script)] := by
    rw [hreply]
    exact congrArg (converse · script.replies) (hrequests.trans (if_pos hreaches))
  obtain ⟨⟨q, a⟩, rfl, htold⟩ := List.map_eq_singleton_iff.mp (htalk.symm.trans hasked)
  obtain ⟨rfl, ha⟩ := Prod.mk.inj htold
  obtain _ | ⟨hanswers, ⟨⟩⟩ := hserves
  cases hanswers with
  | @described _ k' v hkept' hv =>
    obtain rfl := Option.some.inj (hkept.symm.trans hkept')
    obtain ⟨d, hd, hshows⟩ := ofAnswer_of_describes hv
    have hsought : sought n (m.reply script) = .ok (some d) := by
      rw [← ha, Answer.told_ok, sought, hd]
      rfl
    refine ⟨rfl, v, d, rfl, hd, hshows, hresult.trans ?_⟩
    rw [hsought]
    rfl
  | missing _ hfree => cases hkept.symm.trans hfree
  | unlisted hfree => cases hkept.symm.trans hfree
  | disturbed hf => exact absurd hf (hcalm _ List.mem_cons_self _ rfl)

lemma sees_describe {n : String} {k : Held} {r : Description.Report}
    {closeError : Option RemoteError} (m : Manager) (hn : Name.IsValid n) (hkept : P n = some k)
    (htold : k.IsToldBy n r) :
    P.Sees m ⟨[.ok r.answer], none, closeError⟩ (.describe (.text n))
      [(.describe n, .ok r.answer)] P := by
  have hreaches : m.connection.reaches none = true := by simp [Connection.reaches]
  have hrequests := (@act_question m ⟨[.ok r.answer], none, closeError⟩ n hn .describe).2
  refine ⟨rfl, ?_, .cons (.described hkept (Held.isDescribedBy_answer htold)) (.nil _)⟩
  exact congrArg (converse · [.ok r.answer]) (hrequests.trans (if_pos hreaches))

end Manager

lemma isCalm_of_ok {q : Request} {v : Value} : IsCalm [(q, .ok v)] := by
  intro e he f hf
  rw [List.mem_singleton.mp he] at hf
  cases hf

/-! ### Exposing and hiding -/

namespace Exposure

def operation (n : String) : Exposure → Operation
  | .exposed => .setPublic (.text n) .null
  | .hidden => .setPrivate (.text n)

def change (n : String) (p : Port) : Exposure → Intent
  | .exposed => .bind n (.forwarding p)
  | .hidden => .unbind n p.toValue

variable {n : String} {p : Port} {s : Settings}

lemma read_setPublic {v : Value} {i : Intent} (hv : v = .null ∨ v = s.controlPlanePort.toValue)
    (h : (Operation.setPublic (.text n) v).read s = .ok i) :
    i = exposed.change n s.controlPlanePort := by
  have hport : (if v.isNull then s.controlPlanePort.toValue else v) =
      s.controlPlanePort.toValue := by
    rcases hv with rfl | rfl <;> rfl
  simp only [Operation.read, hport, Listener.tcp_toValue, ok_bind, bind_eq_ok_iff] at h
  obtain ⟨n', hn', h⟩ := h
  obtain ⟨rfl, -⟩ := Name.isValid_of_check hn'
  exact (Except.ok.inj h).symm

lemma read_setPrivate {i : Intent} (h : (Operation.setPrivate (.text n)).read s = .ok i) :
    i = hidden.change n s.controlPlanePort := by
  simp only [Operation.read, bind_eq_ok_iff] at h
  obtain ⟨n', hn', h⟩ := h
  obtain ⟨rfl, -⟩ := Name.isValid_of_check hn'
  exact (Except.ok.inj h).symm

lemma read_operation {e : Exposure} {i : Intent} (h : (e.operation n).read s = .ok i) :
    i = e.change n s.controlPlanePort := by
  cases e with
  | exposed => exact read_setPublic (.inl rfl) h
  | hidden => exact read_setPrivate h

lemma follows_change {P Q : Provider} {e : Exposure} (h : P.Follows s (e.change n p) Q) :
    ∃ k, P n = some k ∧ Q = P.put n (k.setExposure p e) := by
  cases e <;> exact h

end Exposure

/-! ### What is provisioned without a port -/

lemma Operation.ofCall_provision (n : String) (subnets : List String) :
    ofCall "provision" [("name", .text n), ("subnets", .list (subnets.map .text))] =
      .ok (.provision (.text n) (.list (subnets.map .text)) Port.controlPlane.toValue) := rfl

lemma Operation.eq_of_read_provision {s : Settings} {n : String} {subnets : List String} {p : Port}
    {i : Intent}
    (h : (provision (.text n) (.list (subnets.map .text)) p.toValue).read s = .ok i) :
    i = .provision n subnets (.forwarding p) := by
  have hread := h
  simp only [read, bind_eq_ok_iff] at h
  obtain ⟨n', hn', items, hitems, -⟩ := h
  have hne : subnets ≠ [] := by
    rintro rfl
    cases hitems
  rw [Manager.read_provision (Name.isValid_of_check hn').2 hne] at hread
  exact (Except.ok.inj hread).symm

namespace Manager

variable {m : Manager} {script : Script} {P Q : Provider} {t : List Exchange}

/-- **What is provisioned without a port listens on the well-known one**, whatever port its manager
has. So the manager describes it as exposed exactly if its port is the well-known one; and what is
left when the manager hides it is closed in that case, and in no other. -/
theorem provisioned_on_standard_port {o : Operation} {n : String} {subnets : List String}
    {dnsName : Value}
    (hcall : Operation.ofCall "provision"
      [("name", .text n), ("subnets", .list (subnets.map .text))] = .ok o)
    (hsees : P.Sees m script o t Q)
    (hok : (m.act script (.operate o)).result = .ok (.dnsName dnsName)) :
    let p := m.settings.controlPlanePort
    ∀ (m' : Manager) (script' : Script) (t' : List Exchange) (R : Provider),
      m'.settings = m.settings →
      (Q.Sees m' script' (.describe (.text n)) t' R → IsCalm t' →
        ∃ d, (m'.act script' (.operate (.describe (.text n)))).result =
            .ok (.description (some d)) ∧
          d.exposure p.toValue = .ok (if p = .controlPlane then .exposed else .hidden)) ∧
      (Q.Sees m' script' (.setPrivate (.text n)) t' R →
        (m'.act script' (.operate (.setPrivate (.text n)))).result = .ok .nothing →
        ∃ k, R n = some k ∧ (k.IsClosed ↔ p = .controlPlane) ∧
          k.listeners .controlPlane =
            if p = .controlPlane then none else some (.forwarding .controlPlane)) := by
  intro p m' script' t' R hsettings
  rw [Operation.ofCall_provision] at hcall
  obtain rfl := Except.ok.inj hcall
  obtain ⟨i, hread, hfollows⟩ := follows_of_sees hsees hok
  have hn : Name.IsValid i.balancer := Operation.isValid_of_read hread
  obtain rfl := Operation.eq_of_read_provision hread
  obtain ⟨-, dns, hregular, rfl⟩ := hfollows
  let k := (Held.new dns (.forwarding .controlPlane)).attach m.settings.healthCheck hregular
  have hkept : P.put n k n = some k := Function.update_self ..
  have honly : k.HasOnly (.forwarding .controlPlane) := fun _ => rfl
  constructor
  · intro hsees' hcalm
    obtain ⟨-, v, d, -, -, hshows, hresult⟩ := describe_of_sees hn hkept hsees' hcalm
    refine ⟨d, hresult, ?_⟩
    rw [hshows.exposure, Held.exposure, honly]
    by_cases hp : p = .controlPlane <;> simp [Listener.forwarding, hp]
  · intro hsees' hok'
    obtain ⟨i, hread', hfollows'⟩ := follows_of_sees hsees' hok'
    rw [Exposure.read_setPrivate hread', hsettings] at hfollows'
    obtain ⟨k', hkept', rfl⟩ := Exposure.follows_change hfollows'
    obtain rfl : k = k' := Option.some.inj (hkept.symm.trans hkept')
    exact ⟨_, Function.update_self .., honly.isClosed_unbind_iff p, honly.listeners_unbind p⟩

/-- A load balancer that is provisioned without a port and then hidden, by a manager with any port.
-/
lemma exists_sees_hidden (p : Port) :
    let m := ofSettings ⟨.null, .null, p, .standard⟩
    let created := Value.record [("DNSName", .text "lb.example")]
    let script : Script := ⟨[.ok created, .ok (.record [])], none, none⟩
    let script' : Script := ⟨[.ok (.record [])], none, none⟩
    let o := Operation.provision (.text "api-lb") (.list (["subnet-1"].map .text))
      Port.controlPlane.toValue
    let o' := Operation.setPrivate (.text "api-lb")
    let m' := m.next (m.act script (.operate o))
    ∃ (t t' : List Exchange) (Q R : Provider) (k : Held),
      Provider.Sees (fun _ => none) m script o t Q ∧
      (m.act script (.operate o)).result = .ok (.dnsName (.text "lb.example")) ∧
      Q.Sees m' script' o' t' R ∧ (m'.act script' (.operate o')).result = .ok .nothing ∧
      k.HasOnly (.forwarding .controlPlane) ∧ R "api-lb" = some (k.unbind p.toValue) := by
  intro m created script script' o o' m'
  have hregular : HealthCheck.standard.IsRegular :=
    ⟨.text "HTTP", .int 6443, "/", 30, 3, 2, 2, rfl⟩
  let P : Provider := .put (fun _ => none) "api-lb" (.new "lb.example" (.forwarding .controlPlane))
  let k := (Held.new "lb.example" (.forwarding .controlPlane)).attach .standard hregular
  have hprovision : Provider.Sees (fun _ => none) m script o
      [(.create "api-lb" ["subnet-1"] (.forwarding .controlPlane), .ok created),
        (.attach "api-lb" .standard, .ok (.record []))] (P.put "api-lb" k) :=
    ⟨rfl, rfl, .cons (.created rfl rfl) (.cons (.attached (Function.update_self ..) hregular)
      (.nil _))⟩
  have hhide : (P.put "api-lb" k).Sees m' script' o'
      [(.unbind "api-lb" p.toValue, .ok (.record []))]
      ((P.put "api-lb" k).put "api-lb" (k.unbind p.toValue)) :=
    ⟨rfl, rfl, .cons (.unbound (Function.update_self ..)) (.nil _)⟩
  exact ⟨_, _, _, _, k, hprovision, rfl, hhide, rfl, fun _ => rfl, Function.update_self ..⟩

/-- On the well-known port the listener is closed again. -/
theorem closed_on_standard_port :
    let m := ofSettings ⟨.null, .null, .controlPlane, .standard⟩
    let created := Value.record [("DNSName", .text "lb.example")]
    let script : Script := ⟨[.ok created, .ok (.record [])], none, none⟩
    let script' : Script := ⟨[.ok (.record [])], none, none⟩
    let o := Operation.provision (.text "api-lb") (.list (["subnet-1"].map .text))
      Port.controlPlane.toValue
    let o' := Operation.setPrivate (.text "api-lb")
    let m' := m.next (m.act script (.operate o))
    Operation.ofCall "provision"
        [("name", .text "api-lb"), ("subnets", .list (["subnet-1"].map .text))] = .ok o ∧
      ∃ (t t' : List Exchange) (Q R : Provider),
        Provider.Sees (fun _ => none) m script o t Q ∧
        (m.act script (.operate o)).result = .ok (.dnsName (.text "lb.example")) ∧
        Q.Sees m' script' o' t' R ∧ (m'.act script' (.operate o')).result = .ok .nothing ∧
        ∃ k, R "api-lb" = some k ∧ k.IsClosed := by
  intro m created script script' o o' m'
  have hcall := Operation.ofCall_provision "api-lb" ["subnet-1"]
  obtain ⟨t, t', Q, R, k, hsees, hok, hsees', hok', -, -⟩ := exists_sees_hidden .controlPlane
  obtain ⟨k', hkept, hclosed, -⟩ :=
    (provisioned_on_standard_port hcall hsees hok m' script' t' R rfl).2 hsees' hok'
  exact ⟨hcall, t, t', Q, R, hsees, hok, hsees', hok', k', hkept, hclosed.mpr rfl⟩

/-- On another one it is not, though everything ends well. -/
theorem open_on_other_port :
    let m := ofSettings ⟨.null, .null, ⟨443, by decide, by decide⟩, .standard⟩
    let created := Value.record [("DNSName", .text "lb.example")]
    let script : Script := ⟨[.ok created, .ok (.record [])], none, none⟩
    let script' : Script := ⟨[.ok (.record [])], none, none⟩
    let o := Operation.provision (.text "api-lb") (.list (["subnet-1"].map .text))
      Port.controlPlane.toValue
    let o' := Operation.setPrivate (.text "api-lb")
    let m' := m.next (m.act script (.operate o))
    Operation.ofCall "provision"
        [("name", .text "api-lb"), ("subnets", .list (["subnet-1"].map .text))] = .ok o ∧
      ∃ (t t' : List Exchange) (Q R : Provider),
        Provider.Sees (fun _ => none) m script o t Q ∧
        (m.act script (.operate o)).result = .ok (.dnsName (.text "lb.example")) ∧
        Q.Sees m' script' o' t' R ∧ (m'.act script' (.operate o')).result = .ok .nothing ∧
        ∃ k, R "api-lb" = some k ∧ ¬ k.IsClosed ∧
          k.listeners .controlPlane = some (.forwarding .controlPlane) := by
  intro m created script script' o o' m'
  obtain ⟨t, t', Q, R, k, hsees, hok, hsees', hok', honly, hkept⟩ :=
    exists_sees_hidden ⟨443, by decide, by decide⟩
  refine ⟨Operation.ofCall_provision "api-lb" ["subnet-1"], t, t', Q, R, hsees, hok, hsees', hok',
    _, hkept, ?_, ?_⟩
  · rw [honly.isClosed_unbind_iff]
    decide
  · exact (honly.listeners_unbind _).trans (if_neg (by decide))

end Manager

end Balancer
