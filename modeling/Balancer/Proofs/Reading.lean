import Balancer.Proofs.Exchange

/-!
The arguments of operations: what is read from them, and that nothing is done before all are read.
-/

namespace Balancer

/-! ### Tests one after another -/

section Checked

variable {ε α β : Type}

@[simp] lemma ok_bind (a : α) (f : α → Except ε β) : (Except.ok a >>= f) = f a := rfl

@[simp] lemma error_bind (e : ε) (f : α → Except ε β) : (Except.error e >>= f) = .error e := rfl

lemma bind_eq_ok_iff {x : Except ε α} {f : α → Except ε β} {b : β} :
    (x >>= f) = .ok b ↔ ∃ a, x = .ok a ∧ f a = .ok b := by
  cases x with
  | error e => simp
  | ok a => simp

lemma bind_eq_error_iff {x : Except ε α} {f : α → Except ε β} {e : ε} :
    (x >>= f) = .error e ↔ x = .error e ∨ ∃ a, x = .ok a ∧ f a = .error e := by
  cases x with
  | error e => simp
  | ok a => simp

end Checked

@[simp] lemma Plan.ofChecked_ok {α : Type} (a : α) : Plan.ofChecked (.ok a) = .done a := rfl

@[simp] lemma Plan.ofChecked_error {α : Type} (r : Rejection) :
    (Plan.ofChecked (.error r) : Plan α) = .fail (.bare (.rejected r)) := rfl

/-! ### Names -/

namespace Name

def IsValid (n : String) : Prop := check (.text n) = .ok n

lemma isValid_of_check {n m : String} (h : check (.text n) = .ok m) : m = n ∧ IsValid n := by
  have hself : ∀ {r : String}, check (.text n) = .ok r → r = n := by
    intro r hr
    unfold check at hr
    split at hr
    · cases hr
    · simp only at hr
      split at hr
      · cases hr
      · cases hr; rfl
  obtain rfl := hself h
  exact ⟨rfl, h⟩

lemma check_eq_ok_iff {v : Value} {n : String} : check v = .ok n ↔ v = .text n ∧ IsValid n := by
  constructor
  · intro h
    have hv := h
    unfold check at hv
    split at hv
    · cases hv
    · split at hv
      · obtain ⟨rfl, hn⟩ := isValid_of_check h
        exact ⟨rfl, hn⟩
      · -- what is no text is refused, whatever it holds
        simp only [bind_eq_ok_iff] at hv
        obtain ⟨b, -, hv⟩ := hv
        split at hv
        · cases hv
        · simp only [bind_eq_ok_iff] at hv
          obtain ⟨b, -, hv⟩ := hv
          split at hv
          · cases hv
          · simp only [bind_eq_ok_iff] at hv
            obtain ⟨b, -, hv⟩ := hv
            split at hv <;> cases hv
  · rintro ⟨rfl, h⟩
    exact h

end Name

/-! ### Operations -/

def Intent.balancer : Intent → String
  | .provision name _ _ => name
  | .attach name _ => name
  | .bind name _ => name
  | .unbind name _ => name
  | .register name _ => name
  | .deregister name _ => name
  | .lookup name => name
  | .describe name => name
  | .existence name => name

/-- No operation is about a load balancer that cannot be named. -/
theorem Operation.isValid_of_read {s : Settings} {o : Operation} {i : Intent}
    (h : o.read s = .ok i) : Name.IsValid i.balancer := by
  cases o with
  | setPublic name port =>
    simp only [Operation.read, bind_eq_ok_iff] at h
    obtain ⟨l, -, n, hn, h⟩ := h
    cases h
    exact (Name.check_eq_ok_iff.mp hn).2
  | _ =>
    simp only [Operation.read, bind_eq_ok_iff] at h
    obtain ⟨n, hn, h⟩ := h
    have hvalid := (Name.check_eq_ok_iff.mp hn).2
    simp only [pure, Except.pure] at h
    grind [Intent.balancer]

namespace Manager

variable {m : Manager} {script : Script} {o : Operation}

lemma act_of_read_ok {i : Intent} (h : o.read m.settings = .ok i) :
    m.act script (.operate o) =
      m.connection.run m.settings script.openError (i.plan m.settings) script.replies := by
  simp only [act, Operation.plan, h, Plan.ofChecked_ok, Plan.done_bind]

/-- **An operation that is refused does nothing else.** -/
theorem act_of_read_error {r : Rejection} (h : o.read m.settings = .error r) :
    m.act script (.operate o) =
      ⟨.error (.bare (.rejected r)), m.connection, script.replies, [], []⟩ := by
  simp only [act, Operation.plan, h, Plan.ofChecked_error, Plan.fail_bind, Connection.run]

lemma act_close_of_no_client (h : m.connection.client = false) :
    m.act script .close = ⟨.ok .nothing, .none, script.replies, [], []⟩ := by
  simp [act, Connection.close, h]

/-- A client is closed whether its closing fails or not; only in the one case a session stays. -/
lemma act_close_of_client (h : m.connection.client = true) :
    m.act script .close =
      match script.closeError with
      | .none => ⟨.ok .nothing, .none, script.replies, [.closed], []⟩
      | some e => ⟨.error (.bare (.remote e)), ⟨m.connection.session, false⟩, script.replies,
          [.closed], []⟩ := by
  rcases hclose : script.closeError with _ | e <;> simp [act, Connection.close, h, hclose]

lemma requests_close : (m.act script .close).requests = [] := by
  rcases hclient : m.connection.client with _ | _
  · rw [act_close_of_no_client hclient]
    rfl
  · rw [act_close_of_client hclient]
    cases script.closeError <;> rfl

lemma result_close : (m.act script .close).result = .ok .nothing ∨
    ∃ e, (m.act script .close).result = .error (.bare (.remote e)) := by
  rcases hclient : m.connection.client with _ | _
  · rw [act_close_of_no_client hclient]
    exact .inl rfl
  · rw [act_close_of_client hclient]
    rcases script.closeError with _ | e
    · exact .inl rfl
    · exact .inr ⟨e, rfl⟩

lemma result_close_of_none (h : script.closeError = none) :
    (m.act script .close).result = .ok .nothing := by
  rcases hclient : m.connection.client with _ | _
  · rw [act_close_of_no_client hclient]
  · rw [act_close_of_client hclient, h]

lemma result_useOnce (m : Manager) (script : Script) (o : Operation) :
    let x := m.act script (.operate o)
    let y := (m.next x).act script .close
    (m.useOnce script o).result = (y.result >>= fun _ => x.result) := by
  intro x y
  simp only [useOnce]
  cases y.result <;> rfl

lemma exists_act_of_mem_runAll {steps : List (Action × Script)} {x : Execution Outcome}
    (hx : x ∈ (m.runAll steps).1) :
    ∃ (m' : Manager) (script : Script) (a : Action), m'.settings = m.settings ∧
      x = m'.act script a := by
  induction steps generalizing m with
  | nil => cases hx
  | cons step rest ih =>
    rcases hx with _ | ⟨_, hx⟩
    · exact ⟨m, step.2, step.1, rfl, rfl⟩
    · obtain ⟨m', script, a, hm, hact⟩ := ih hx
      exact ⟨m', script, a, hm, hact⟩

end Manager

end Balancer
