import Balancer.Proofs.Membership
import Balancer.Proofs.Naming
import Balancer.Proofs.Provisioning
import Balancer.Proofs.Showing

/-!
Arguments: which ones an operation rejects, and what the others come to.

What is rejected is said of each argument alone. They are read one after another, and the first that
does not pass is the one that is told; whether one is told does not depend on that. Main statements:
an operation with arguments of the right kinds is refused exactly if it rejects one of them
(`rejects_iff`), and then for the first of those (`refuses_of_firstRejected`); what is read is what
the operation comes to (`comesTo_of_read`); and in a run every step asks for what its arguments come
to, and for nothing else (`asks_runAll`).
-/

namespace Balancer

lemma exists_bind_eq_ok_iff {ε α β : Type} {x : Except ε α} {f : α → Except ε β} :
    (∃ b, (x >>= f) = .ok b) ↔ ∃ a, x = .ok a ∧ ∃ b, f a = .ok b := by
  cases x <;> simp

lemma exists_pure_eq_ok {ε α : Type} (a : α) : ∃ b, (pure a : Except ε α) = .ok b := ⟨a, rfl⟩

/-! ### Arguments -/

/-- A port is an integer in range. A truth value is none. -/
def Value.IsPort (v : Value) : Prop := ∃ n : Int, v = .int n ∧ 1 ≤ n ∧ n ≤ 65535

def Value.IsText (v : Value) : Prop := ∃ s, v = .text s

lemma Value.isPort_iff {v : Value} : v.IsPort ↔ ∃ p : Port, v = p.toValue := by
  constructor
  · rintro ⟨n, rfl, hlo, hhi⟩
    obtain ⟨k, rfl⟩ := Int.eq_ofNat_of_zero_le (by omega : 0 ≤ n)
    exact ⟨⟨k, by omega, by omega⟩, rfl⟩
  · rintro ⟨p, rfl⟩
    have hlo := p.one_le
    have hhi := p.le_max
    exact ⟨_, rfl, by omega, by omega⟩

lemma Value.isPort_toValue (p : Port) : p.toValue.IsPort := isPort_iff.mpr ⟨p, rfl⟩

lemma Port.check_eq_ok_iff {field v : Value} {p : Port} :
    check field v = .ok p ↔ v = p.toValue := by
  constructor
  · intro h
    cases v with
    | int n => rw [check_int_eq_ok_iff.mp h, toValue]
    | _ => cases h
  · rintro rfl
    exact check_toValue field p

lemma Port.exists_check_error {v : Value} (field : String) (h : ¬ v.IsPort) :
    ∃ e : Rejection, check (.text field) v = .error e ∧ e.Refuses v := by
  rcases hcheck : check (.text field) v with e | p
  · exact ⟨e, rfl, refuses_of_check hcheck⟩
  · exact absurd (Value.isPort_iff.mpr ⟨p, check_eq_ok_iff.mp hcheck⟩) h

namespace Listener

lemma tcp_eq_ok_iff {v : Value} {l : Listener} :
    tcp v = .ok l ↔ ∃ p : Port, v = p.toValue ∧ l = .forwarding p := by
  constructor
  · intro h
    have hparts := h
    rw [tcp, ofParts, bind_eq_ok_iff] at hparts
    obtain ⟨p, hp, -⟩ := hparts
    obtain rfl := Port.check_eq_ok_iff.mp hp
    exact ⟨p, rfl, Except.ok.inj (h.symm.trans (tcp_toValue p))⟩
  · rintro ⟨p, rfl, rfl⟩
    exact tcp_toValue p

lemma exists_tcp_iff {v : Value} : (∃ l, tcp v = .ok l) ↔ ∃ p : Port, v = p.toValue := by
  simp only [tcp_eq_ok_iff]
  constructor
  · rintro ⟨l, p, rfl, -⟩
    exact ⟨p, rfl⟩
  · rintro ⟨p, rfl⟩
    exact ⟨_, p, rfl, rfl⟩

lemma exists_tcp_error {v : Value} (h : ¬ v.IsPort) :
    ∃ e : Rejection, tcp v = .error e ∧ e.Refuses v := by
  obtain ⟨e, he, hrefuses⟩ := Port.exists_check_error "frontend_port" h
  exact ⟨e, by rw [tcp, ofParts, he, error_bind], hrefuses⟩

end Listener

lemma Name.exists_check_error {s : String} (h : ¬ IsValid s) :
    ∃ e : Rejection, check (.text s) = .error e ∧ e.Refuses (.text s) := by
  obtain ⟨f, hf⟩ := check_of_not_isValid h
  exact ⟨_, hf, Rejection.refuses_breaking ..⟩

lemma Value.map_text_of_texts {items : List Value} {ss : List String} (h : texts items = .ok ss) :
    ss.map .text = items := by
  obtain ⟨ts, rfl⟩ : items ∈ Set.range (List.map Value.text) := by
    rw [Set.range_list_map]
    intro v hv
    obtain ⟨t, rfl⟩ := texts_eq_ok_iff.mp ⟨ss, h⟩ v hv
    exact ⟨t, rfl⟩
  rw [texts_map_text] at h
  cases h
  rfl

lemma readSubnets_eq_ok_iff {v : Value} {items : List Value} :
    readSubnets v = .ok items ↔ v.members = .ok items ∧ items ≠ [] := by
  rw [readSubnets, bind_eq_ok_iff]
  constructor
  · rintro ⟨given, hgiven, h⟩
    rcases given with _ | ⟨w, r⟩
    · cases h
    · cases h
      exact ⟨hgiven, by simp⟩
  · rintro ⟨hgiven, hne⟩
    rcases items with _ | ⟨w, r⟩
    · exact absurd rfl hne
    · exact ⟨_, hgiven, rfl⟩

lemma readSubnets_of_nil {v : Value} (hv : v.members = .ok []) :
    ∃ e : Rejection, readSubnets v = .error e ∧ e.Refuses (.list []) := by
  rw [readSubnets, hv, ok_bind]
  exact ⟨_, rfl, Rejection.refuses_breaking ..⟩

/-! ### Operations and their arguments -/

namespace Operation

/-- The arguments are of the kinds that the operation takes. A port may be anything, as it is
tested. -/
def IsTyped : Operation → Prop
  | .provision name subnets _ =>
    name.IsText ∧ ∃ ss : List String, subnets.members = .ok (ss.map .text)
  | .addInstances name ids | .removeInstances name ids =>
    name.IsText ∧ ∃ items, ids.members = .ok items
  | .configureHealthCheck name _ | .setPrivate name | .setPublic name _ | .addListener name _
  | .removeListener name _ | .lookup name | .describe name | .existence name => name.IsText

def RejectsName (v : Value) : Prop := ∃ n, v = .text n ∧ ¬ Name.IsValid n

/-- Ids are rejected if they are given as one text, or if one of them is none. -/
def RejectsIds (v : Value) : Prop :=
  (∃ s, v = .text s) ∨ ∃ items, v.members = .ok items ∧ ∃ w ∈ items, ¬ Instances.IsId w

/-- One of the arguments is rejected, whichever it is and whatever the others are. -/
def Rejects : Operation → Prop
  | .provision name subnets port =>
    RejectsName name ∨ subnets.members = .ok [] ∨ ¬ port.IsPort
  | .setPublic name port => RejectsName name ∨ port ≠ .null ∧ ¬ port.IsPort
  | .addInstances name ids | .removeInstances name ids => RejectsName name ∨ RejectsIds ids
  | .configureHealthCheck name _ | .setPrivate name | .addListener name _
  | .removeListener name _ | .lookup name | .describe name | .existence name => RejectsName name

variable {s : Settings} {o : Operation} {n : String} {v w : Value} {items : List Value}

lemma rejectsName_text_iff : RejectsName (.text n) ↔ ¬ Name.IsValid n := by
  simp [RejectsName]

lemma not_rejectsIds_iff (hv : v.members = .ok items) :
    ¬ RejectsIds v ↔ ∃ ids, Instances.read v = .ok ids := by
  by_cases htext : ∃ s, v = .text s
  · obtain ⟨s, rfl⟩ := htext
    simp [RejectsIds, Instances.read]
  · have hcollects : Instances.Collects v items := ⟨hv, not_exists.mp htext⟩
    simp only [RejectsIds, htext, false_or, hv, Except.ok.injEq, exists_eq_left', not_exists,
      not_and, not_not]
    constructor
    · intro h
      obtain ⟨ids, hread, -⟩ := Instances.read_of_ids hcollects h
      exact ⟨ids, hread⟩
    · rintro ⟨ids, hread⟩
      exact ((Instances.read_eq_ok_iff hcollects).mp hread).1

lemma exists_port_iff {port : Value} :
    (∃ p : Port, (if port.isNull then s.controlPlanePort.toValue else port) = p.toValue) ↔
      ¬ (port ≠ .null ∧ ¬ port.IsPort) := by
  cases port with
  | null => simp [Value.isNull]
  | _ => simp [Value.isNull, Value.isPort_iff]

lemma exists_read_iff (h : o.IsTyped) : (∃ i, o.read s = .ok i) ↔ ¬ o.Rejects := by
  cases o with
  | provision name subnets port =>
    obtain ⟨⟨n, rfl⟩, ss, hss⟩ := h
    simp only [read, Rejects, rejectsName_text_iff, not_or, not_not, exists_bind_eq_ok_iff,
      exists_pure_eq_ok, and_true, Name.check_eq_ok_iff, Value.text.injEq, and_assoc,
      exists_eq_left', readSubnets_eq_ok_iff, hss, Except.ok.injEq, Value.texts_map_text,
      exists_eq', Listener.exists_tcp_iff, Value.isPort_iff, ne_eq]
  | setPublic name port =>
    obtain ⟨n, rfl⟩ := h
    simp only [read, Rejects, rejectsName_text_iff, not_or, not_not, exists_bind_eq_ok_iff,
      exists_pure_eq_ok, and_true, Name.check_eq_ok_iff, Value.text.injEq, exists_eq_left',
      exists_and_right, Listener.exists_tcp_iff, exists_port_iff]
    exact and_comm
  | addInstances name ids | removeInstances name ids =>
    obtain ⟨⟨n, rfl⟩, items, hitems⟩ := h
    simp only [read, Rejects, rejectsName_text_iff, not_or, not_not, not_rejectsIds_iff hitems,
      exists_bind_eq_ok_iff, exists_pure_eq_ok, and_true, Name.check_eq_ok_iff, Value.text.injEq,
      and_assoc, exists_eq_left']
  | _ =>
    obtain ⟨n, rfl⟩ := h
    simp only [read, Rejects, rejectsName_text_iff, not_not, exists_bind_eq_ok_iff,
      exists_pure_eq_ok, and_true, Name.check_eq_ok_iff, Value.text.injEq, exists_eq_left']

inductive ComesTo (s : Settings) : Operation → Intent → Prop
  | provision {n : String} {v : Value} {ss : List String} {p : Port}
      (hmembers : v.members = .ok (ss.map .text)) (hne : ss ≠ []) :
      ComesTo s (.provision (.text n) v p.toValue) (.provision n ss (.forwarding p))
  | configureHealthCheck {n : String} {check : Option HealthCheck} :
      ComesTo s (.configureHealthCheck (.text n) check) (.attach n (check.getD s.healthCheck))
  | setPrivate {n : String} :
      ComesTo s (.setPrivate (.text n)) (.unbind n s.controlPlanePort.toValue)
  | setPublic {n : String} {v : Value} {p : Port}
      (hp : (if v.isNull then s.controlPlanePort.toValue else v) = p.toValue) :
      ComesTo s (.setPublic (.text n) v) (.bind n (.forwarding p))
  | addListener {n : String} {l : Listener} : ComesTo s (.addListener (.text n) l) (.bind n l)
  | removeListener {n : String} {v : Value} :
      ComesTo s (.removeListener (.text n) v) (.unbind n v)
  | addInstances {n : String} {v : Value} {ids : List String} (hids : Instances.read v = .ok ids) :
      ComesTo s (.addInstances (.text n) v) (.register n ids)
  | removeInstances {n : String} {v : Value} {ids : List String}
      (hids : Instances.read v = .ok ids) :
      ComesTo s (.removeInstances (.text n) v) (.deregister n ids)
  | lookup {n : String} : ComesTo s (.lookup (.text n)) (.lookup n)
  | describe {n : String} : ComesTo s (.describe (.text n)) (.describe n)
  | existence {n : String} : ComesTo s (.existence (.text n)) (.existence n)

/-- Whatever is read is what the operation comes to. -/
theorem comesTo_of_read {i : Intent} (h : o.read s = .ok i) : o.ComesTo s i := by
  cases o with
  | provision name v port =>
    simp only [read, bind_eq_ok_iff] at h
    obtain ⟨n, hn, items, hitems, l, hl, ss, hss, h⟩ := h
    cases h
    obtain ⟨rfl, -⟩ := Name.check_eq_ok_iff.mp hn
    obtain ⟨hmembers, hne⟩ := readSubnets_eq_ok_iff.mp hitems
    obtain ⟨p, rfl, rfl⟩ := Listener.tcp_eq_ok_iff.mp hl
    obtain rfl := Value.map_text_of_texts hss
    exact .provision hmembers (by simpa using hne)
  | setPublic name port =>
    simp only [read, bind_eq_ok_iff] at h
    obtain ⟨l, hl, n, hn, h⟩ := h
    cases h
    obtain ⟨rfl, -⟩ := Name.check_eq_ok_iff.mp hn
    obtain ⟨p, hp, rfl⟩ := Listener.tcp_eq_ok_iff.mp hl
    exact .setPublic hp
  | addInstances name v | removeInstances name v =>
    simp only [read, bind_eq_ok_iff] at h
    obtain ⟨n, hn, ids, hids, h⟩ := h
    cases h
    obtain ⟨rfl, -⟩ := Name.check_eq_ok_iff.mp hn
    constructor
    exact hids
  | _ =>
    simp only [read, bind_eq_ok_iff] at h
    obtain ⟨n, hn, h⟩ := h
    cases h
    obtain ⟨rfl, -⟩ := Name.check_eq_ok_iff.mp hn
    constructor

/-- **An operation is refused exactly if it rejects an argument.** -/
theorem rejects_iff (h : o.IsTyped) : o.Rejects ↔ ∃ e, o.read s = .error e := by
  rw [← not_iff_not, ← exists_read_iff (s := s) h]
  rcases o.read s with e | i <;> simp

/-! ### The argument that is told -/

/-- What is told of rejected ids: all of a text, or the first item that is none. -/
inductive TellsOfIds : Value → Value → Prop
  | text (t : String) : TellsOfIds (.text t) (.text t)
  | item {v w : Value} {items : List Value} (hv : Instances.Collects v items)
      (hw : Instances.FirstNoId items w) : TellsOfIds v w

def name : Operation → Value
  | .provision name _ _ | .configureHealthCheck name _ | .setPrivate name | .setPublic name _
  | .addListener name _ | .removeListener name _ | .addInstances name _ | .removeInstances name _
  | .lookup name | .describe name | .existence name => name

/-- What is told of the first argument that an operation rejects. The name comes first, and only
after the port where one is made public. -/
inductive FirstRejected : Operation → Value → Prop
  | name {o : Operation} (hport : ∀ v port, o = .setPublic v port → port = .null ∨ port.IsPort)
      (h : RejectsName o.name) : FirstRejected o o.name
  | publicPort {v port : Value} (hport : port ≠ .null) (h : ¬ port.IsPort) :
      FirstRejected (.setPublic v port) port
  | subnets {n : String} {v port : Value} (hn : Name.IsValid n) (hv : v.members = .ok []) :
      FirstRejected (.provision (.text n) v port) (.list [])
  | port {n : String} {v port : Value} {items : List Value} (hn : Name.IsValid n)
      (hv : v.members = .ok items) (hne : items ≠ []) (h : ¬ port.IsPort) :
      FirstRejected (.provision (.text n) v port) port
  | ids {n : String} {v w : Value} {o : Operation} {ask : List String → Request}
      (ho : ChangesMembers n v o ask) (hn : Name.IsValid n) (hw : TellsOfIds v w) :
      FirstRejected o w

lemma exists_tellsOfIds (h : RejectsIds v) : ∃ w, TellsOfIds v w := by
  by_cases htext : ∃ t, v = .text t
  · obtain ⟨t, rfl⟩ := htext
    exact ⟨_, .text t⟩
  · obtain ⟨items, hitems, hnone⟩ := h.resolve_left htext
    obtain ⟨w, hw⟩ := Instances.exists_firstNoId hnone
    exact ⟨w, .item ⟨hitems, not_exists.mp htext⟩ hw⟩

lemma exists_firstRejected_of_ids {ask : List String → Request} (ho : ChangesMembers n v o ask)
    (h : RejectsName (.text n) ∨ RejectsIds v) : ∃ w, o.FirstRejected w := by
  by_cases hn : Name.IsValid n
  · have hname : ¬ RejectsName (.text n) := rejectsName_text_iff.not.mpr (not_not.mpr hn)
    obtain ⟨w, hw⟩ := exists_tellsOfIds (h.resolve_left hname)
    exact ⟨w, .ids ho hn hw⟩
  · cases ho <;> exact ⟨_, .name (fun _ _ h => by cases h) (rejectsName_text_iff.mpr hn)⟩

/-- Where an argument is rejected, one is the first. -/
lemma exists_firstRejected (h : o.IsTyped) (hrejects : o.Rejects) : ∃ w, o.FirstRejected w := by
  cases o with
  | provision name subnets port =>
    obtain ⟨⟨n, rfl⟩, ss, hss⟩ := h
    by_cases hn : Name.IsValid n
    · have hname : ¬ RejectsName (.text n) := rejectsName_text_iff.not.mpr (not_not.mpr hn)
      rcases ss with _ | ⟨t, r⟩
      · exact ⟨_, .subnets hn hss⟩
      · rcases hrejects with h | h | h
        · exact absurd h hname
        · cases hss.symm.trans h
        · exact ⟨_, .port hn hss (by simp) h⟩
    · exact ⟨_, .name (fun _ _ h => by cases h) (rejectsName_text_iff.mpr hn)⟩
  | setPublic name port =>
    by_cases hport : port ≠ .null ∧ ¬ port.IsPort
    · exact ⟨_, .publicPort hport.1 hport.2⟩
    · refine ⟨_, .name (fun _ _ h => ?_) (hrejects.resolve_right hport)⟩
      cases h
      tauto
  | addInstances name ids =>
    obtain ⟨⟨n, rfl⟩, -⟩ := h
    exact exists_firstRejected_of_ids .add hrejects
  | removeInstances name ids =>
    obtain ⟨⟨n, rfl⟩, -⟩ := h
    exact exists_firstRejected_of_ids .remove hrejects
  | _ => exact ⟨_, .name (fun _ _ h => by cases h) hrejects⟩

lemma TellsOfIds.refuses (h : TellsOfIds v w) :
    ∃ e : Rejection, Instances.read v = .error e ∧ e.Refuses w := by
  cases h with
  | text t => exact ⟨_, rfl, Rejection.refuses_breaking ..⟩
  | item hv hw => exact Instances.read_of_firstNoId hv hw

/-- **An operation is refused for the first argument that it rejects.** -/
theorem refuses_of_firstRejected (h : o.FirstRejected w) :
    ∃ e : Rejection, o.read s = .error e ∧ e.Refuses w := by
  cases h with
  | name hport h =>
    obtain ⟨n, hname, hn⟩ := h
    obtain ⟨e, he, hrefuses⟩ := Name.exists_check_error hn
    rw [hname]
    refine ⟨e, ?_, hrefuses⟩
    cases o with
    | setPublic v port =>
      have hport := hport _ _ rfl
      obtain ⟨p, hp⟩ : ∃ p : Port,
          (if port.isNull then s.controlPlanePort.toValue else port) = p.toValue :=
        exists_port_iff.mpr (by tauto)
      obtain rfl : v = .text n := hname
      simp only [read, hp, Listener.tcp_toValue, ok_bind, he, error_bind]
    | _ =>
      obtain rfl := hname
      simp only [read, he, error_bind]
  | publicPort hport h =>
    obtain ⟨e, he, hrefuses⟩ := Listener.exists_tcp_error h
    have hnull : w.isNull = false := by cases w <;> first | rfl | exact absurd rfl hport
    exact ⟨e, by simp [read, hnull, he], hrefuses⟩
  | @subnets n v port hn hv =>
    have hname : Name.check (.text n) = .ok n := hn
    obtain ⟨e, he, hrefuses⟩ := readSubnets_of_nil hv
    exact ⟨e, by simp only [read, hname, ok_bind, he, error_bind], hrefuses⟩
  | @port n v port items hn hv hne h =>
    have hname : Name.check (.text n) = .ok n := hn
    have hsubnets : readSubnets v = .ok items := readSubnets_eq_ok_iff.mpr ⟨hv, hne⟩
    obtain ⟨e, he, hrefuses⟩ := Listener.exists_tcp_error h
    exact ⟨e, by simp only [read, hname, hsubnets, ok_bind, he, error_bind], hrefuses⟩
  | @ids n v w o ask ho hn hw =>
    have hname : Name.check (.text n) = .ok n := hn
    obtain ⟨e, he, hrefuses⟩ := hw.refuses
    cases ho <;> exact ⟨e, by simp only [read, hname, ok_bind, he, error_bind], hrefuses⟩

end Operation

/-! ### What is asked for -/

def Execution.Asks (s : Settings) (a : Action) (x : Execution Outcome) : Prop :=
  ∀ q ∈ x.requests, ∃ o i, a = .operate o ∧ o.read s = .ok i ∧ i.MayAsk s q

namespace Manager

lemma asks_act (m : Manager) (script : Script) (a : Action) :
    (m.act script a).Asks m.settings a := by
  intro q hq
  cases a with
  | operate o =>
    obtain ⟨i, hread, hasks⟩ := mayAsk_of_mem_requests hq
    exact ⟨o, i, rfl, hread, hasks⟩
  | close =>
    rw [requests_close] at hq
    cases hq

/-- **In a run every step asks for what its arguments come to.** -/
theorem asks_runAll (m : Manager) (steps : List (Action × Script)) :
    List.Forall₂ (fun step x => x.Asks m.settings step.1) steps (m.runAll steps).1 := by
  induction steps generalizing m with
  | nil => exact .nil
  | cons step rest ih => exact .cons (m.asks_act step.2 step.1) (ih (m.next (m.act step.2 step.1)))

end Manager

namespace BlockingManager

lemma asks_act (m : BlockingManager) (script : Script) (a : Action) :
    (m.act script a).Asks m.manager.settings a := by
  cases a with
  | operate o => exact m.manager.asks_act script (.operate o)
  | close =>
    rw [act]
    split
    · exact m.manager.asks_act script .close
    · exact fun q hq => by cases hq

lemma asks_runAll (m : BlockingManager) (steps : List (Action × Script)) :
    List.Forall₂ (fun step x => x.Asks m.manager.settings step.1) steps (m.runAll steps).1 := by
  induction steps generalizing m with
  | nil => exact .nil
  | cons step rest ih =>
    have hnext : (m.next (m.act step.2 step.1) step.1).manager.settings = m.manager.settings := by
      cases step.1 <;> rfl
    have hrest := ih (m.next (m.act step.2 step.1) step.1)
    rw [hnext] at hrest
    exact .cons (m.asks_act step.2 step.1) hrest

end BlockingManager

end Balancer
