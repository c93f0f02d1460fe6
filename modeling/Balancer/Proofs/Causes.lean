import Balancer.Proofs.Lifecycle
import Balancer.Proofs.Provisioning

/-!
Causes: a fault as it is told, and as its report tells it.

A fault is read twice. What the result of its call tells are texts, and an empty one stands in for a
code that is missing; the report keeps the service's own values, and calls a missing code unknown.
So the two do not always agree, and one chain of errors may hold both. Main statement: they agree on
a code exactly if it is given as a text, and so do a failure to provision and the report that is its
cause (`agrees_with_report_iff`).
-/

namespace Balancer

namespace RemoteFault

def LacksCode : RemoteFault → Prop
  | .service g => g.code = none
  | .transport _ => False

def CodeIsText : RemoteFault → Prop
  | .service g => ∃ c, g.code = some (.text c)
  | .transport _ => True

def MessageIsText : RemoteFault → Prop
  | .service g => ∀ v, g.message = some v → ∃ m, v = .text m
  | .transport _ => True

end RemoteFault

/-! ### Two readings of a fault -/

lemma Value.eq_text_shown_iff {v : Value} : v = .text v.shown ↔ ∃ s, v = .text s := by
  constructor
  · exact fun h => ⟨v.shown, h⟩
  · rintro ⟨s, rfl⟩
    rfl

namespace ServiceFailure

variable {operation balancer : Value} {f : RemoteFault}

lemma code_ofError_iff :
    (ofError operation balancer (.fault f)).code = .text f.code ↔ f.CodeIsText := by
  cases f with
  | transport t => exact ⟨fun _ => trivial, fun _ => rfl⟩
  | service g =>
    have hcode : (RemoteFault.service g).code = (g.code.getD (.text "")).shown := rfl
    simp only [ofError, ofServiceFault, RemoteFault.CodeIsText, hcode]
    rcases g.code with _ | v
    · simp
    · simp only [Option.getD_some, Value.eq_text_shown_iff, Option.some.injEq]

lemma code_of_lacksCode (h : f.LacksCode) :
    f.code = "" ∧ (ofError operation balancer (.fault f)).code = .text "Unknown" := by
  cases f with
  | transport t => exact h.elim
  | service g =>
    have hnone : g.code = none := h
    have hcode : (RemoteFault.service g).code = (g.code.getD (.text "")).shown := rfl
    simp only [ofError, ofServiceFault, hcode, hnone]
    exact ⟨rfl, rfl⟩

lemma shown_code_ofError_iff :
    (ofError operation balancer (.fault f)).code.shown = f.code ↔ ¬ f.LacksCode := by
  cases f with
  | transport t => exact ⟨fun _ h => h, fun _ => rfl⟩
  | service g =>
    have hcode : (RemoteFault.service g).code = (g.code.getD (.text "")).shown := rfl
    simp only [ofError, ofServiceFault, RemoteFault.LacksCode, hcode]
    rcases g.code with _ | v <;> simp

lemma shown_message_ofError :
    (ofError operation balancer (.fault f)).message.shown = f.message := by
  cases f with
  | transport t => rfl
  | service g => rfl

/-- What depends on the code and the message is the same by both readings exactly if there is a
code, provided that an empty code can be told from an unknown one. -/
lemma reading_ofError_iff {g : String → String → String} (hg : ∀ m, g "" m ≠ g "Unknown" m) :
    let w := ofError operation balancer (.fault f)
    g f.code f.message = g w.code.shown w.message.shown ↔ ¬ f.LacksCode := by
  intro w
  have hmessage : w.message.shown = f.message := shown_message_ofError
  rw [hmessage]
  by_cases hlacks : f.LacksCode
  · obtain ⟨hempty, hunknown⟩ := code_of_lacksCode hlacks
    have hshown : w.code.shown = "Unknown" := by rw [hunknown]; rfl
    rw [hempty, hshown]
    exact ⟨fun h => absurd h (hg _), fun h => absurd hlacks h⟩
  · have hcode : w.code.shown = f.code := shown_code_ofError_iff.mpr hlacks
    rw [hcode]
    exact ⟨fun _ => hlacks, fun _ => rfl⟩

lemma message_ofError_iff :
    (ofError operation balancer (.fault f)).message = .text f.message ↔ f.MessageIsText := by
  cases f with
  | transport t => exact ⟨fun _ => trivial, fun _ => rfl⟩
  | service g =>
    have hmessage : (RemoteFault.service g).message = (g.message.getD (.text g.text)).shown := rfl
    simp only [ofError, ofServiceFault, RemoteFault.MessageIsText, hmessage]
    rcases g.message with _ | v
    · simp
    · simp only [Option.getD_some, Value.eq_text_shown_iff, Option.some.injEq, forall_eq']

end ServiceFailure

namespace CallResult

variable {operation response balancer : Value} {f : RemoteFault}

lemma failure_of_not_holds (ho : ¬ operation.Holds Value.IsLong)
    (hb : ¬ balancer.Holds Value.IsLong) :
    failure ⟨operation, response, some (.fault f)⟩ balancer =
      .ok (.ofError operation balancer (.fault f)) := by
  have htext := (ServiceFailure.isSome_text?_ofError_iff (f := f)).mpr ⟨ho, hb⟩
  simp only [failure, htext, RemoteError.text?, Option.isSome_some, Bool.and_self, if_true]

lemma failure_of_holds (h : operation.Holds Value.IsLong ∨ balancer.Holds Value.IsLong) :
    failure ⟨operation, response, some (.fault f)⟩ balancer = .error (.rejected .unwritten) := by
  have htext : ¬ (ServiceFailure.ofError operation balancer (.fault f)).text?.isSome := by
    rw [ServiceFailure.isSome_text?_ofError_iff]
    tauto
  simp only [failure, htext, Bool.and_false, Bool.false_eq_true, if_false]

end CallResult

/-! ### Failures to provision -/

/-- The reason that a refusal gives, by the code and the message of a fault that says so much. -/
def reasonOf (kind : FaultKind) (code message : String) : String :=
  if kind = .duplicateName then "Name already in use (" ++ message ++ ")"
  else code ++ ": " ++ message

lemma RemoteFault.kind_of_lacksCode {f : RemoteFault} (h : f.LacksCode) : f.kind = .other := by
  cases f with
  | transport t => exact h.elim
  | service g =>
    have hnone : g.code = none := h
    have hkind : (RemoteFault.service g).kind = .ofCode (g.code.getD (.text "")).shown := rfl
    rw [hkind, hnone]
    rfl

lemma colon_empty_ne (m : String) : "" ++ ": " ++ m ≠ "Unknown" ++ ": " ++ m := by
  intro h
  have hlength := congrArg String.length h
  simp only [String.length_append] at hlength
  have hempty : "".length = 0 := rfl
  have hunknown : "Unknown".length = 7 := rfl
  omega

lemma reasonOf_ofError_iff {operation balancer : Value} {f : RemoteFault} :
    let w := ServiceFailure.ofError operation balancer (.fault f)
    reasonOf f.kind f.code f.message = reasonOf f.kind w.code.shown w.message.shown ↔
      ¬ f.LacksCode := by
  intro w
  by_cases hkind : f.kind = .duplicateName
  · -- The reason is that the name is in use. It does not tell the code, but there is one.
    have hlacks : ¬ f.LacksCode := fun h => by
      rw [RemoteFault.kind_of_lacksCode h] at hkind
      cases hkind
    have hmessage : w.message.shown = f.message := ServiceFailure.shown_message_ofError
    simp only [reasonOf, if_pos hkind, hmessage, hlacks, not_false_eq_true]
  · simp only [reasonOf, if_neg hkind]
    exact ServiceFailure.reading_ofError_iff (g := fun c m => c ++ ": " ++ m) colon_empty_ne

def Failure.GivesCodeOf (w : ServiceFailure) : Failure → Prop
  | .provision _ _ code => code = w.code
  | .healthCheck _ _ code _ => code = w.code
  | _ => False

/-- A failure to provision gives the code and the message of a report for its reason. Only a
creation is refused for a name that is in use. -/
def Failure.GivesReasonOf (kind : FaultKind) (w : ServiceFailure) : Failure → Prop
  | .provision _ reason _ => reason = .text (reasonOf kind w.code.shown w.message.shown)
  | .healthCheck _ reason _ _ => reason = .text (w.code.shown ++ ": " ++ w.message.shown)
  | _ => False

/-- A failure is raised from the report of a fault: it gives the report's code exactly if the
fault's is a text, and the report's code and message for its reason exactly if there is a code. -/
def Raised.TellsCause (e : Raised) : Prop :=
  ∃ (f : RemoteFault) (w : ServiceFailure), e.cause = some (.service w) ∧
    w.origin = some (.fault f) ∧ (e.failure.GivesCodeOf w ↔ f.CodeIsText) ∧
    (e.failure.GivesReasonOf f.kind w ↔ ¬ f.LacksCode)

/-! ### Where the two readings agree -/

lemma text_code_eq_iff {q : Request} {f : RemoteFault} :
    Value.text f.code = (Plan.report q f).code ↔ f.CodeIsText :=
  eq_comm.trans ServiceFailure.code_ofError_iff

lemma tellsCause_refused (q : Request) (f : RemoteFault) {name : Value} :
    Raised.TellsCause ⟨.provision name (.text (Plan.refusal f)) (.text f.code),
      some (.service (Plan.report q f))⟩ := by
  refine ⟨f, _, rfl, Plan.report_origin q f, text_code_eq_iff, ?_⟩
  simp only [Failure.GivesReasonOf, Value.text.injEq]
  exact reasonOf_ofError_iff

lemma tellsCause_unchecked (q : Request) (f : RemoteFault) {name : Value} (dnsName : Value) :
    Raised.TellsCause ⟨.healthCheck name (.text (f.code ++ ": " ++ f.message)) (.text f.code)
      dnsName, some (.service (Plan.report q f))⟩ := by
  refine ⟨f, _, rfl, Plan.report_origin q f, text_code_eq_iff, ?_⟩
  simp only [Failure.GivesReasonOf, Value.text.injEq]
  exact ServiceFailure.reading_ofError_iff (g := fun c m => c ++ ": " ++ m) colon_empty_ne

lemma Course.tellsCause {s : Settings} {i : Intent} {t : List Exchange} {e : Raised}
    (h : Course s i t (.error e)) (he : e.failure.IsProvisioning) : e.TellsCause := by
  generalize hr : (Except.error e : Except Raised Outcome) = r at h
  cases h with
  | @refused n subnets l f =>
    cases hr
    exact tellsCause_refused (.create n subnets l) f
  | @unmonitored n subnets l v dnsName f hv =>
    cases hr
    by_cases hlong : dnsName.Holds Value.IsLong
    · rw [Plan.unchecked_of_holds hlong] at he
      exact absurd he (Failure.not_isProvisioning_rejected _)
    · rw [Plan.unchecked_of_not_holds hlong]
      exact tellsCause_unchecked (.attach n s.healthCheck) f dnsName
  | @unattached n check f hf =>
    cases hr
    exact tellsCause_unchecked (.attach n check) f .null
  | settled hf => exact absurd he (not_isProvisioning_of_verdict hr.symm)
  | asked b => exact absurd he (not_isProvisioning_of_answer hr.symm)
  | unnamed hv =>
    cases hr
    exact absurd he (Failure.not_isProvisioning_rejected _)
  | absent hq hf =>
    cases hr
    simp [Failure.IsProvisioning, Failure.family?, Raised.bare] at he
  | troubled hq hne hf =>
    cases hr
    simp [Failure.IsProvisioning, Failure.family?] at he
  | _ => cases hr

lemma Manager.tellsCause_of_act {m : Manager} {script : Script} {a : Action} {e : Raised}
    (h : (m.act script a).result = .error e) (he : e.failure.IsProvisioning) : e.TellsCause := by
  cases a with
  | close =>
    obtain hresult | ⟨g, hresult⟩ := @result_close m script
    · cases hresult.symm.trans h
    · cases hresult.symm.trans h
      simp [Failure.IsProvisioning, Failure.family?, Raised.bare] at he
  | operate o =>
    rcases hread : o.read m.settings with r | i
    · rw [act_of_read_error hread] at h
      cases h
      exact absurd he (Failure.not_isProvisioning_rejected r)
    · rw [act_of_read_ok hread] at h
      rcases Connection.yields_or_foreign (i.plan m.settings) with ⟨t, ht, -⟩ | ⟨g, hg, -⟩
      · rw [h] at ht
        exact (Plan.course_of_yields (Operation.isValid_of_read hread) ht).tellsCause he
      · cases hg.symm.trans h
        simp [Failure.IsProvisioning, Failure.family?, Raised.bare] at he

/-- **The two readings of a fault agree on what is given as text.** The code that the result of a
call tells is its report's exactly if the service gave it as a text, and so is the message, or else
there is none; in writing they differ only in a missing code, empty here and unknown there. And
whatever either manager does, every failure to create a load balancer or to attach its health check
is raised from the report of a fault and agrees with it in the same way. There is a report if the
operation and the name can be written. -/
theorem agrees_with_report_iff (operation response balancer : Value) (f : RemoteFault) (m : Manager)
    (b : BlockingManager) (steps : List (Action × Script)) :
    let r : CallResult := ⟨operation, response, some (.fault f)⟩
    (∃ c t, r.code? = some c ∧ r.message? = some t ∧ (f.LacksCode → c = "") ∧
      (¬ operation.Holds Value.IsLong → ¬ balancer.Holds Value.IsLong →
        ∃ w, r.failure balancer = .ok w ∧ (w.code = .text c ↔ f.CodeIsText) ∧
          (w.message = .text t ↔ f.MessageIsText) ∧ (w.code.shown = c ↔ ¬ f.LacksCode) ∧
          w.message.shown = t ∧ (f.LacksCode → w.code = .text "Unknown")) ∧
      (operation.Holds Value.IsLong ∨ balancer.Holds Value.IsLong →
        r.failure balancer = .error (.rejected .unwritten))) ∧
    (∀ x ∈ (m.runAll steps).1, ∀ e, x.result = .error e → e.failure.IsProvisioning →
      e.TellsCause) ∧
    ∀ x ∈ (b.runAll steps).1, ∀ e, x.result = .error e → e.failure.IsProvisioning →
      e.TellsCause := by
  intro r
  have hlacks : f.LacksCode → f.code = "" ∧
      (ServiceFailure.ofError operation balancer (.fault f)).code = .text "Unknown" :=
    ServiceFailure.code_of_lacksCode
  refine ⟨⟨_, _, rfl, rfl, fun h => (hlacks h).1, fun ho hb => ?readings,
    CallResult.failure_of_holds⟩, fun x hx e he hprovisioning => ?run,
    fun x hx e he hprovisioning => ?blocking⟩
  case readings =>
    exact ⟨_, CallResult.failure_of_not_holds ho hb, ServiceFailure.code_ofError_iff,
      ServiceFailure.message_ofError_iff, ServiceFailure.shown_code_ofError_iff,
      ServiceFailure.shown_message_ofError, fun h => (hlacks h).2⟩
  case run =>
    obtain ⟨m', script, a, -, rfl⟩ := Manager.exists_act_of_mem_runAll hx
    exact Manager.tellsCause_of_act he hprovisioning
  case blocking =>
    rcases BlockingManager.exists_act_of_mem_runAll hx with ⟨m', script, a, rfl⟩ | ⟨hdone, -⟩
    · exact Manager.tellsCause_of_act he hprovisioning
    · cases hdone.symm.trans he

/-- A creation that is refused with a code and a message agrees with the report that is its cause.
-/
theorem refused_agrees_with_report :
    let g : ServiceFault :=
      ⟨some (.text "Throttling"), some (.text "slow"), .text "CreateLoadBalancer", none, rfl⟩
    let m := Manager.ofSettings ⟨.null, .null, .controlPlane, .standard⟩
    let steps : List (Action × Script) :=
      [(.operate (.provision (.text "api-lb") (.list [.text "subnet-1"]) (.int 6443)),
        ⟨[.error (.fault (.service g))], none, none⟩)]
    ∃ x ∈ (m.runAll steps).1, ∃ e w, x.result = .error e ∧ e.failure.IsProvisioning ∧
      e.cause = some (.service w) ∧ e.failure.GivesCodeOf w ∧
      e.failure.GivesReasonOf .other w := by
  intro g m steps
  have hagrees :=
    agrees_with_report_iff .null .null .null (.service g) m (.ofSettings m.settings) steps
  obtain ⟨f, w, hcause, horigin, hcode, hreason⟩ :=
    hagrees.2.1 _ List.mem_cons_self _ rfl (.inl rfl)
  cases hcause
  cases horigin
  exact ⟨_, List.mem_cons_self, _, _, rfl, .inl rfl, rfl, hcode.mpr ⟨"Throttling", rfl⟩,
    hreason.mpr nofun⟩

/-- A missing code is empty by one reading and unknown by the other. -/
theorem missing_code_is_read_twice :
    let r : CallResult := ⟨.text "DescribeLoadBalancers", .null,
      some (.fault (.service ⟨none, none, .text "DescribeLoadBalancers", none, rfl⟩))⟩
    r.code? = some "" ∧ ∃ w, r.failure (.text "api-lb") = .ok w ∧ w.code = .text "Unknown" :=
  ⟨rfl, _, rfl, rfl⟩

end Balancer
