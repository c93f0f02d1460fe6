import Balancer.Proofs.Validation

/-!
The range of ports: what reaches the provider as a port.

A port comes to the provider by way of the settings, of a listener, or as it is given. Main
statements: what any request tells as a port is one, except for the port of a listener that is to be
removed (`isPort_of_tellsPort`); and what is given there is passed on, whatever it is
(`only_removed_ports_untested`).
-/

namespace Balancer

/-- What a request tells as a port: one of its listeners', or one whose listener goes. -/
def Request.TellsPort (q : Request) (v : Value) : Prop :=
  (∃ ls l key, q.Gives "Listeners" (.list ls) ∧ l ∈ ls ∧
    key ∈ ["LoadBalancerPort", "InstancePort"] ∧ l.item key = .ok v) ∨
  ∃ vs, q.Gives "LoadBalancerPorts" (.list vs) ∧ v ∈ vs

inductive Operation.TestsPort (v : Value) : Operation → Prop
  | provision (name subnets : Value) : TestsPort v (.provision name subnets v)
  | setPublic (name : Value) : TestsPort v (.setPublic name v)

def Execution.TellsPorts (a : Action) (x : Execution Outcome) : Prop :=
  ∀ q ∈ x.requests, ∀ v, q.TellsPort v → v.IsPort ∨ ∃ name, a = .operate (.removeListener name v)

section

variable {s : Settings} {o : Operation} {i : Intent} {q : Request} {v : Value}

lemma Listener.isPort_of_item {l : Listener} {key : String}
    (hkey : key ∈ ["LoadBalancerPort", "InstancePort"]) (h : l.toWire.item key = .ok v) :
    v.IsPort := by
  rcases List.mem_cons.mp hkey with rfl | hkey
  · cases h
    exact Value.isPort_toValue l.frontend
  · obtain rfl := List.mem_singleton.mp hkey
    cases h
    exact Value.isPort_toValue l.backend

/-- **Listeners have ports.** So what is told as a port is one, or it is to be removed. -/
lemma Request.isPort_of_tellsPort (h : q.TellsPort v) : v.IsPort ∨ ∃ n, q = .unbind n v := by
  rcases h with ⟨ls, l, key, hls, hl, hkey, hv⟩ | ⟨vs, hvs, hv⟩
  · cases q with
    | create n subnets k | bind n k =>
      cases hls
      obtain rfl := List.mem_singleton.mp hl
      exact .inl (Listener.isPort_of_item hkey hv)
    | _ => cases hls
  · cases q with
    | unbind n port =>
      cases hvs
      obtain rfl := List.mem_singleton.mp hv
      exact .inr ⟨n, rfl⟩
    | _ => cases hvs

lemma Operation.ComesTo.of_unbind {n : String} (h : o.ComesTo s i)
    (hq : i.MayAsk s (.unbind n v)) :
    v = s.controlPlanePort.toValue ∨ o = .removeListener (.text n) v := by
  cases hq with
  | change hq =>
    obtain rfl : i = .unbind n v := Intent.eq_of_change? hq
    cases h with
    | setPrivate => exact .inl rfl
    | removeListener => exact .inr rfl

lemma Execution.Asks.tellsPorts {a : Action} {x : Execution Outcome} (h : x.Asks s a) :
    x.TellsPorts a := by
  intro q hq v hv
  obtain ⟨o, i, rfl, hread, hasks⟩ := h q hq
  rcases Request.isPort_of_tellsPort hv with hport | ⟨n, rfl⟩
  · exact .inl hport
  · rcases (Operation.comesTo_of_read hread).of_unbind hasks with rfl | rfl
    · exact .inl (Value.isPort_toValue s.controlPlanePort)
    · exact .inr ⟨_, rfl⟩

/-! ### Ports that are tested -/

lemma Value.not_isPort_int {n : Int} (h : ¬ (1 ≤ n ∧ n ≤ 65535)) : ¬ (Value.int n).IsPort := by
  rintro ⟨m, hm, hrange⟩
  cases hm
  exact h hrange

lemma Settings.ofParts_of_not_isPort {region endpoint : Value} {check : Option HealthCheck}
    (h : ¬ v.IsPort) :
    ∃ e : Rejection, e.Refuses v ∧ ofParts region endpoint v check = .error e := by
  obtain ⟨e, he, hrefuses⟩ := Port.exists_check_error "frontend_port" h
  exact ⟨e, hrefuses, by rw [ofParts, he, error_bind]⟩

lemma Listener.ofParts_of_not_isPort {frontend backend protocol instanceProtocol : Value} :
    (¬ frontend.IsPort → ∃ e : Rejection, e.Refuses frontend ∧
      ofParts frontend backend protocol instanceProtocol = .error e) ∧
    (frontend.IsPort → ¬ backend.IsPort → ∃ e : Rejection, e.Refuses backend ∧
      ofParts frontend backend protocol instanceProtocol = .error e) := by
  constructor
  · intro hfrontend
    obtain ⟨e, he, hrefuses⟩ := Port.exists_check_error "frontend_port" hfrontend
    exact ⟨e, hrefuses, by rw [ofParts, he, error_bind]⟩
  · intro hfrontend hbackend
    obtain ⟨p, rfl⟩ := Value.isPort_iff.mp hfrontend
    obtain ⟨e, he, hrefuses⟩ := Port.exists_check_error "backend_port" hbackend
    exact ⟨e, hrefuses, by rw [ofParts, Port.check_toValue, ok_bind, he, error_bind]⟩

lemma Operation.TestsPort.rejects (h : o.TestsPort v) (hnull : v ≠ .null) (hv : ¬ v.IsPort) :
    o.Rejects := by
  cases h with
  | provision => exact .inr (.inr hv)
  | setPublic => exact .inr ⟨hnull, hv⟩

end

/-! ### The port that is not tested -/

lemma Manager.requests_removeListener {m : Manager} {script : Script} {n : String}
    (hn : Name.IsValid n) (v : Value) :
    (m.act script (.operate (.removeListener (.text n) v))).requests =
      m.sent script (.unbind n v) := by
  have hname : Name.check (.text n) = .ok n := hn
  have hread : (Operation.removeListener (.text n) v).read m.settings = .ok (.unbind n v) := by
    simp only [Operation.read, hname, ok_bind]
    rfl
  exact requests_of_change hread rfl fun _ _ h => by cases h

/-- **Only the port of a listener to remove is not tested.** Whatever is asked of a manager of
either kind, what any request tells as a port is an integer from 1 to 65535, except for the very
port that was given to remove its listener. Everywhere else an integer out of range is refused, and
nothing is asked: no settings and no listener are made of it, and no operation that tests a port
takes it. What is refused breaks a rule, unless it is an integer with too many digits, which is
refused for that. But a listener to remove is asked for with the port that is given, whatever it
is. -/
theorem only_removed_ports_untested (m : Manager) (b : BlockingManager)
    (steps : List (Action × Script)) :
    List.Forall₂ (fun step x => x.TellsPorts step.1) steps (m.runAll steps).1 ∧
    List.Forall₂ (fun step x => x.TellsPorts step.1) steps (b.runAll steps).1 ∧
    (∀ n : Int, ¬ (1 ≤ n ∧ n ≤ 65535) →
      (∀ region endpoint check, ∃ e : Rejection, e.Refuses (.int n) ∧
        Settings.ofParts region endpoint (.int n) check = .error e) ∧
      (∀ backend protocol instanceProtocol, ∃ e : Rejection, e.Refuses (.int n) ∧
        Listener.ofParts (.int n) backend protocol instanceProtocol = .error e) ∧
      (∀ frontend protocol instanceProtocol, frontend.IsPort →
        ∃ e : Rejection, e.Refuses (.int n) ∧
          Listener.ofParts frontend (.int n) protocol instanceProtocol = .error e) ∧
      ∀ o : Operation, o.IsTyped → o.TestsPort (.int n) → ∀ script : Script,
        (∃ (w : Value) (e : Rejection), o.FirstRejected w ∧ e.Refuses w ∧
          m.act script (.operate o) =
            ⟨.error (.bare (.rejected e)), m.connection, script.replies, [], []⟩) ∧
        ∃ (w : Value) (e : Rejection), o.FirstRejected w ∧ e.Refuses w ∧
          b.act script (.operate o) =
            ⟨.error (.bare (.rejected e)), b.manager.connection, script.replies, [], []⟩) ∧
    ∀ (script : Script) (n : String) (v : Value), Name.IsValid n →
      let o : Operation := .removeListener (.text n) v
      (m.act script (.operate o)).requests = m.sent script (.unbind n v) ∧
      (b.act script (.operate o)).requests = b.manager.sent script (.unbind n v) := by
  refine ⟨(m.asks_runAll steps).imp fun _ _ h => h.tellsPorts,
    (b.asks_runAll steps).imp fun _ _ h => h.tellsPorts, fun n hn => ?tested, ?removed⟩
  case tested =>
    have hport : ¬ (Value.int n).IsPort := Value.not_isPort_int hn
    refine ⟨fun _ _ _ => Settings.ofParts_of_not_isPort hport,
      fun _ _ _ => Listener.ofParts_of_not_isPort.1 hport,
      fun _ _ _ h => Listener.ofParts_of_not_isPort.2 h hport, fun o htyped htests script => ?_⟩
    have hrejects : o.Rejects := htests.rejects nofun hport
    exact ⟨m.act_of_rejects script htyped hrejects, b.manager.act_of_rejects script htyped hrejects⟩
  case removed =>
    intro script n v hn o
    exact ⟨Manager.requests_removeListener hn v, Manager.requests_removeListener hn v⟩

/-- Port 0 is refused where a listener is added, and passed on where one is removed. -/
theorem removed_port_out_of_range :
    let m := Manager.ofSettings ⟨.null, .null, .controlPlane, .standard⟩
    let script : Script := ⟨[.ok (.record [])], none, none⟩
    let x := m.act script (.operate (.removeListener (.text "api-lb") (.int 0)))
    x.result = .ok .nothing ∧ x.requests = [.unbind "api-lb" (.int 0)] ∧
      (Request.unbind "api-lb" (.int 0)).TellsPort (.int 0) ∧ ¬ (Value.int 0).IsPort ∧
      (m.act script (.operate (.setPublic (.text "api-lb") (.int 0)))).requests = [] := by
  intro m script x
  refine ⟨rfl, rfl, .inr ⟨_, rfl, List.mem_singleton_self _⟩, ?_, rfl⟩
  exact Value.not_isPort_int (by decide)

end Balancer
