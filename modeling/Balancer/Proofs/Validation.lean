import Balancer.Proofs.Arguments
import Balancer.Proofs.Quantities

/-!
Validation: arguments are tested before anything is done, and what is asked for has passed.

Main statements: whatever a step asks for, a creation, a change of members or a health check, has
passed the tests of its operation (`isTested`); and a refusal is all that happens
(`validation_precedes_effects`).
-/

namespace Balancer

/-! ### Tested requests -/

def Request.Gives (q : Request) (key : String) (v : Value) : Prop :=
  Value.field? q.parameters key = some v

/-- What a request of an operation holds has passed the tests: the given subnets in their order and
one listener; ids that ascend; the settings' health check or the given one, which is sound if it was
made and has a text for a path. -/
def Request.IsTested (s : Settings) (o : Operation) (q : Request) : Prop :=
  match q with
  | .create .. => ∃ name subnets port given, o = .provision name subnets port ∧
      subnets.members = .ok given ∧ given ≠ [] ∧ q.Gives "Subnets" (.list given) ∧ port.IsPort ∧
      q.Gives "Listeners" (.list [.record [("Protocol", .text "TCP"), ("LoadBalancerPort", port),
        ("InstanceProtocol", .text "TCP"), ("InstancePort", port)]])
  | .register _ ids | .deregister _ ids =>
      q.entries = ids.map Instances.entry ∧ ids ≠ [] ∧ ids.Pairwise (· < ·) ∧
        ∀ id ∈ ids, id ≠ "" ∧ Text.IsTrimmed id.toList
  | .attach _ check =>
      (check = s.healthCheck ∨ ∃ name, o = .configureHealthCheck name (some check)) ∧
      (∃ w, q.Gives "HealthCheck" w ∧ check.Tells w) ∧
      ∀ path, check.IsMade → check.path = .text path → check.IsSound path
  | .bind .. | .unbind .. | .describe _ => True

lemma Instances.ascending_of_read {v : Value} {ids : List String} (h : read v = .ok ids) :
    ids.Pairwise (· < ·) ∧ ∀ id ∈ ids, id ≠ "" ∧ Text.IsTrimmed id.toList := by
  obtain ⟨items, hv⟩ : ∃ items, Collects v items := by
    cases v with
    | list items => exact ⟨items, rfl, nofun⟩
    | record fields => exact ⟨_, rfl, nofun⟩
    | _ => cases h
  obtain ⟨hitems, hascends, hmem⟩ := (read_eq_ok_iff hv).mp h
  refine ⟨hascends, fun id hid => ?_⟩
  have hnames := (hmem id).mp hid
  obtain ⟨t, ht, c, hc, -⟩ := isId_of_names hitems hnames
  cases ht
  obtain ⟨s, -, hs⟩ := hnames
  refine ⟨?_, hs.1⟩
  rintro rfl
  cases hc

variable {s : Settings} {o : Operation} {i : Intent} {q : Request}

lemma isTested_of_ids {n : String} {v : Value} {ids : List String} {ask : List String → Request}
    (hask : ChangesMembers n v o ask) (hids : Instances.read v = .ok ids) (hne : ids ≠ []) :
    (ask ids).IsTested s o := by
  obtain ⟨hascends, hall⟩ := Instances.ascending_of_read hids
  cases hask with
  | add => exact ⟨rfl, hne, hascends, hall⟩
  | remove => exact ⟨rfl, hne, hascends, hall⟩

/-- **What is asked for has passed the tests.** -/
theorem Operation.ComesTo.isTested (h : o.ComesTo s i) (hq : i.MayAsk s q) : q.IsTested s o := by
  cases hq with
  | create n subnets l =>
    cases h with
    | provision hmembers hne =>
      exact ⟨_, _, _, _, rfl, hmembers, by simpa using hne, rfl, Value.isPort_toValue _, rfl⟩
  | monitor n subnets l =>
    exact ⟨.inl rfl, ⟨_, rfl, HealthCheck.tells_toWire _⟩, fun _ hmade => hmade.isSound⟩
  | describe => trivial
  | change hq =>
    cases h with
    | @configureHealthCheck n check =>
      cases hq
      refine ⟨?_, ⟨_, rfl, HealthCheck.tells_toWire _⟩, fun _ hmade => hmade.isSound⟩
      rcases check with _ | check
      · exact .inl rfl
      · exact .inr ⟨_, rfl⟩
    | addListener | setPublic | removeListener | setPrivate =>
      cases hq
      trivial
    | @addInstances n v ids hids =>
      rcases ids with _ | ⟨id, r⟩ <;> cases hq
      exact isTested_of_ids .add hids (List.cons_ne_nil id r)
    | @removeInstances n v ids hids =>
      rcases ids with _ | ⟨id, r⟩ <;> cases hq
      exact isTested_of_ids .remove hids (List.cons_ne_nil id r)
    | _ => cases hq

def Execution.IsTested (s : Settings) (a : Action) (x : Execution Outcome) : Prop :=
  ∀ q ∈ x.requests, ∃ o, a = .operate o ∧ q.IsTested s o

lemma Execution.Asks.isTested {a : Action} {x : Execution Outcome} (h : x.Asks s a) :
    x.IsTested s a := by
  intro q hq
  obtain ⟨o, i, ha, hread, hasks⟩ := h q hq
  exact ⟨o, ha, (Operation.comesTo_of_read hread).isTested hasks⟩

lemma Manager.act_of_firstRejected (m : Manager) (script : Script) {w : Value}
    (h : o.FirstRejected w) :
    ∃ e : Rejection, e.Refuses w ∧ m.act script (.operate o) =
      ⟨.error (.bare (.rejected e)), m.connection, script.replies, [], []⟩ := by
  obtain ⟨e, he, hrefuses⟩ := Operation.refuses_of_firstRejected (s := m.settings) h
  exact ⟨e, hrefuses, act_of_read_error he⟩

lemma Manager.act_of_rejects (m : Manager) (script : Script) (htyped : o.IsTyped)
    (hrejects : o.Rejects) :
    ∃ (w : Value) (e : Rejection), o.FirstRejected w ∧ e.Refuses w ∧ m.act script (.operate o) =
      ⟨.error (.bare (.rejected e)), m.connection, script.replies, [], []⟩ := by
  obtain ⟨w, hw⟩ := Operation.exists_firstRejected htyped hrejects
  obtain ⟨e, hrefuses, hact⟩ := m.act_of_firstRejected script hw
  exact ⟨w, e, hw, hrefuses, hact⟩

/-- **Validation comes before every effect.** An operation whose arguments are of the right kinds
and that rejects one of them is refused for the first that it rejects, because that breaks a rule,
if it can be written. And that is all: whatever the state of a manager of either kind, nothing is to
be seen or logged, and session and client are as they were. And whatever reaches the provider in a
run has passed the tests: a load balancer is created in the given subnets, of which there are some,
and with one listener for TCP; the ids of instances are some, ascend, and have no blanks around
them; a health check that was made, with a text for a path, has its numbers within their bounds and
its target as it should be. -/
theorem validation_precedes_effects (m : Manager) (b : BlockingManager)
    (steps : List (Action × Script)) :
    (∀ o : Operation, o.IsTyped → o.Rejects → ∀ script : Script, ∃ (w : Value) (e : Rejection),
      o.FirstRejected w ∧ (¬ w.Holds Value.IsLong → e.IsInvalid) ∧
        m.act script (.operate o) =
          ⟨.error (.bare (.rejected e)), m.connection, script.replies, [], []⟩) ∧
    (∀ o : Operation, o.IsTyped → o.Rejects → ∀ script : Script, ∃ (w : Value) (e : Rejection),
      o.FirstRejected w ∧ (¬ w.Holds Value.IsLong → e.IsInvalid) ∧
        b.act script (.operate o) =
          ⟨.error (.bare (.rejected e)), b.manager.connection, script.replies, [], []⟩) ∧
    List.Forall₂ (fun step x => x.IsTested m.settings step.1) steps (m.runAll steps).1 ∧
    List.Forall₂ (fun step x => x.IsTested b.manager.settings step.1) steps (b.runAll steps).1 := by
  refine ⟨fun o htyped hrejects script => ?_, fun o htyped hrejects script => ?_,
    (m.asks_runAll steps).imp fun _ _ h => h.isTested,
    (b.asks_runAll steps).imp fun _ _ h => h.isTested⟩
  · obtain ⟨w, e, hw, hrefuses, hact⟩ := m.act_of_rejects script htyped hrejects
    exact ⟨w, e, hw, hrefuses.invalid, hact⟩
  · obtain ⟨w, e, hw, hrefuses, hact⟩ := b.manager.act_of_rejects script htyped hrejects
    exact ⟨w, e, hw, hrefuses.invalid, hact⟩

/-- Three arguments that are all rejected, and a load balancer that is created in two subnets. -/
theorem rejected_or_created :
    let m := Manager.ofSettings ⟨.null, .null, .controlPlane, .standard⟩
    let bad : Operation := .provision (.text "api_lb") (.list []) (.bool true)
    let good : Operation :=
      .provision (.text "api-lb") (.list [.text "subnet-2", .text "subnet-1"]) (.int 443)
    let script : Script := ⟨[.ok (.record [("DNSName", .text "api-lb.example")])], none, none⟩
    let created : Request := .create "api-lb" ["subnet-2", "subnet-1"]
      (.forwarding ⟨443, by decide, by decide⟩)
    bad.IsTyped ∧ bad.Rejects ∧
      (∃ (w : Value) (e : Rejection), bad.FirstRejected w ∧
        (¬ w.Holds Value.IsLong → e.IsInvalid) ∧ m.act script (.operate bad) =
          ⟨.error (.bare (.rejected e)), .none, script.replies, [], []⟩) ∧
      (m.act script (.operate good)).requests = [created, .attach "api-lb" .standard] ∧
      created.IsTested m.settings good ∧ HealthCheck.standard.IsSound "/" := by
  intro m bad good script created
  have htyped : bad.IsTyped := ⟨⟨_, rfl⟩, [], rfl⟩
  have hrejects : bad.Rejects := .inr (.inl rfl)
  have hrequests : (m.act script (.operate good)).requests =
      [created, .attach "api-lb" .standard] := rfl
  obtain ⟨hrefused, -, hrun, -⟩ := validation_precedes_effects m
    (.ofSettings ⟨.null, .null, .controlPlane, .standard⟩) [(.operate good, script)]
  obtain ⟨hstep, -⟩ := List.forall₂_cons.mp hrun
  obtain ⟨o, ho, hcreated⟩ := hstep created (hrequests ▸ List.mem_cons_self)
  obtain ⟨o', ho', hattached⟩ := hstep (.attach "api-lb" .standard)
    (hrequests ▸ List.mem_cons_of_mem _ List.mem_cons_self)
  cases ho
  exact ⟨htyped, hrejects, hrefused bad htyped hrejects script, hrequests, hcreated,
    hattached.2.2 "/" HealthCheck.isMade_standard rfl⟩

/-- Nothing is no port, but stands for the settings' port where one is made public. A port that has
too many digits is refused, but not because it breaks a rule. -/
theorem no_port_is_control_plane :
    let m := Manager.ofSettings ⟨.null, .null, .controlPlane, .standard⟩
    let script : Script := ⟨[.ok (.record [])], none, none⟩
    let x := m.act script (.operate (.setPublic (.text "api-lb") .null))
    let y := m.act script (.operate (.setPublic (.text "api-lb") (.int Value.leastLong)))
    ¬ Value.null.IsPort ∧ x.result = .ok .nothing ∧
      x.requests = [.bind "api-lb" (.forwarding .controlPlane)] ∧
      ¬ (Value.int Value.leastLong).IsPort ∧
      y.result = .error (.bare (.rejected .unwritten)) ∧ ¬ Rejection.unwritten.IsInvalid := by
  intro m script x y
  have hport : ¬ (Value.int Value.leastLong).IsPort := fun h => by
    obtain ⟨p, hp⟩ := Value.isPort_iff.mp h
    exact Value.not_isLong_port p (hp ▸ Value.isLong_leastLong)
  have hfirst : Operation.FirstRejected (.setPublic (.text "api-lb") (.int Value.leastLong)) _ :=
    .publicPort (by simp) hport
  obtain ⟨e, hrefuses, hact⟩ := m.act_of_firstRejected script hfirst
  obtain rfl := hrefuses.unwritten (.self Value.isLong_leastLong)
  exact ⟨by simp [Value.IsPort], rfl, rfl, hport, congrArg Execution.result hact,
    Rejection.not_isInvalid_unwritten⟩

end Balancer
