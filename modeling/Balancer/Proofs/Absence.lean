import Balancer.Proofs.Reading
import Balancer.Proofs.Recognition

/-!
Absence: what it takes for a load balancer to be reported as not there.

The three questions about a load balancer make the same request and differ only in how they put what
comes back. Main statement: a load balancer is absent only to a fault that says so or to an answer
without descriptions, and every other failure is passed on (`existence_tells_absence`).
-/

namespace Balancer

/-- What comes back says that there is no such load balancer: a fault under one of the two codes for
it, or an answer that lists no description. -/
def Absent (reply : Except RemoteError Value) : Prop :=
  (∃ g : ServiceFault, reply = .error (.fault (.service g)) ∧
    (g.code = some (.text "LoadBalancerNotFound") ∨
      g.code = some (.text "AccessPointNotFoundException"))) ∨
  ∃ fields, reply = .ok (.record fields) ∧
    ∀ d, Value.field? fields "LoadBalancerDescriptions" = some d → d.isGiven = false

lemma says_balancerNotFound_iff {f : RemoteFault} :
    f.Says .balancerNotFound ↔ ∃ g, f = .service g ∧
      (g.code = some (.text "LoadBalancerNotFound") ∨
        g.code = some (.text "AccessPointNotFoundException")) := by
  simp [RemoteFault.Says, FaultKind.codes]

lemma absent_fault_iff {f : RemoteFault} :
    Absent (.error (.fault f)) ↔ f.kind = .balancerNotFound := by
  rw [RemoteFault.kind_eq_iff (by decide), says_balancerNotFound_iff]
  simp [Absent]

lemma absent_record_iff {fields : List (String × Value)} :
    Absent (.ok (.record fields)) ↔
      ∀ d, Value.field? fields "LoadBalancerDescriptions" = some d → d.isGiven = false := by
  simp [Absent]

lemma ofAnswer_record (fields : List (String × Value)) :
    Description.ofAnswer (.record fields) =
      if ((Value.field? fields "LoadBalancerDescriptions").getD (.list [])).isGiven then
        ((Value.field? fields "LoadBalancerDescriptions").getD (.list [])).head >>= fun w =>
          some <$> Description.ofWire w
      else .ok none := rfl

lemma ofAnswer_eq_none_iff {v : Value} :
    Description.ofAnswer v = .ok none ↔ Absent (.ok v) := by
  cases v with
  | record fields =>
    rw [absent_record_iff, ofAnswer_record]
    rcases hfound : Value.field? fields "LoadBalancerDescriptions" with _ | d
    · simp [Value.isGiven]
    · rw [Option.getD_some]
      rcases hgiven : d.isGiven with _ | _
      · simp [hgiven]
      · -- what is found is decoded, which fails or gives a description
        have hsome : (d.head >>= fun w => some <$> Description.ofWire w) ≠ .ok none := by
          rw [Ne, bind_eq_ok_iff]
          rintro ⟨w, -, hw⟩
          rcases hdecoded : Description.ofWire w with r | e
          · rw [hdecoded] at hw; cases hw
          · rw [hdecoded] at hw; cases hw
        simp [hgiven, hsome]
  | _ =>
    constructor
    · intro h; cases h
    · rintro (⟨_, h, _⟩ | ⟨_, h, _⟩) <;> cases h

/-- What a search for a load balancer finds, by what comes back. -/
def sought (n : String) : Except RemoteError Value → Except Raised (Option Description)
  | .error (.foreign e) => .error (.bare (.remote (.foreign e)))
  | .error (.fault f) =>
    if f.kind = .balancerNotFound then .ok none
    else .error ⟨.service (Plan.report (.describe n) f), some (.remote (.fault f))⟩
  | .ok v => (Description.ofAnswer v).mapError fun r => .bare (.rejected r)

lemma sought_error_cases {n : String} {reply : Except RemoteError Value} {e : Raised}
    (h : sought n reply = .error e) :
    (∃ f, reply = .error (.fault f) ∧
      e = ⟨.service (Plan.report (.describe n) f), some (.remote (.fault f))⟩) ∨
    (∃ g, reply = .error (.foreign g) ∧ e = .bare (.remote (.foreign g))) ∨
    ∃ r, e = .bare (.rejected r) := by
  rcases reply with (f | g) | v
  · rw [sought] at h
    split at h
    · cases h
    · exact .inl ⟨f, rfl, (Except.error.inj h).symm⟩
  · exact .inr (.inl ⟨g, rfl, (Except.error.inj h).symm⟩)
  · rw [sought] at h
    rcases hanswer : Description.ofAnswer v with r | d
    · rw [hanswer] at h
      exact .inr (.inr ⟨r, (Except.error.inj h).symm⟩)
    · rw [hanswer] at h
      cases h

lemma sought_eq_none_iff {n : String} {reply : Except RemoteError Value} :
    sought n reply = .ok none ↔ Absent reply := by
  rcases reply with (f | e) | v
  · rw [absent_fault_iff, sought]
    split
    · next h => simp [h]
    · next h => simp [h]
  · simp [sought, Absent]
  · rw [← ofAnswer_eq_none_iff, sought]
    cases Description.ofAnswer v <;> simp [Except.mapError]

lemma sought_ne_notFound {n : String} {reply : Except RemoteError Value} {name : Value} :
    sought n reply ≠ .error (.bare (.notFound name)) := by
  rcases reply with (f | e) | v
  · rw [sought]
    split <;> simp [Raised.bare]
  · simp [sought, Raised.bare]
  · rw [sought]
    cases Description.ofAnswer v <;> simp [Except.mapError, Raised.bare]

namespace Connection

variable {s : Settings} {openError : Option RemoteError} {c : Connection}
  {replies : List (Except RemoteError Value)} {n : String}

lemma run_ofChecked {α : Type} (x : Checked α) :
    run s openError (Plan.ofChecked x) c replies =
      ⟨x.mapError fun r => .bare (.rejected r), c, replies, [], []⟩ := by
  cases x <;> rfl

lemma run_lookup :
    (run s openError (Plan.lookup n) c replies).result = sought n (c.reply openError replies) ∧
      (run s openError (Plan.lookup n) c replies).requests =
        if c.reaches openError then [.describe n] else [] := by
  unfold Plan.lookup
  rcases hreply : c.reply openError replies with (f | e) | v
  · rw [run_call_fault hreply]
    simp only [Execution.preceded_result, Execution.requests_preceded, requests_trace]
    by_cases hkind : f.kind = .balancerNotFound
    · simp [sought, hkind, run, Execution.requests]
    · simp [sought, hkind, run, Execution.requests, Plan.failWith]
  · rw [run_call_foreign hreply]
    simp [sought, Execution.requests, requests_trace]
  · rw [run_call_ok hreply]
    simp only [Execution.preceded_result, Execution.requests_preceded, requests_trace]
    simp [sought, run_ofChecked, Execution.requests]

end Connection

inductive Question where
  | lookup
  | describe
  | existence

namespace Question

def operation (n : String) : Question → Operation
  | lookup => .lookup (.text n)
  | describe => .describe (.text n)
  | existence => .existence (.text n)

def intent (n : String) : Question → Intent
  | lookup => .lookup n
  | describe => .describe n
  | existence => .existence n

def answer (n : String) : Question → Option Description → Except Raised Outcome
  | lookup, d => .ok (.description d)
  | describe, some d => .ok (.description (some d))
  | describe, none => .error (.bare (.notFound (.text n)))
  | existence, some d => .ok (.existence true d.dnsName)
  | existence, none => .ok (.existence false (.text ""))

lemma read_operation {s : Settings} {n : String} (hn : Name.IsValid n) (a : Question) :
    (a.operation n).read s = .ok (a.intent n) := by
  rw [Name.IsValid] at hn
  cases a <;> simp [operation, intent, Operation.read, hn, pure, Except.pure]

def settled : Except Raised Outcome → Plan Outcome
  | .ok a => .done a
  | .error e => .fail e

lemma plan_intent {s : Settings} {n : String} (a : Question) :
    (a.intent n).plan s = Plan.lookup n >>= fun d => settled (a.answer n d) := by
  cases a with
  | lookup => rfl
  | describe =>
    change (Plan.lookup n >>= _) >>= _ = _
    rw [Plan.bind_assoc]
    congr 1
    funext d
    cases d <;> rfl
  | existence =>
    change Plan.lookup n >>= _ = _
    congr 1
    funext d
    cases d <;> rfl

/-- **One search for all questions**: each makes the same request, and differs only in what it makes
of what is found. -/
theorem run_intent {s : Settings} {openError : Option RemoteError} {c : Connection}
    {replies : List (Except RemoteError Value)} {n : String} (a : Question) :
    (Connection.run s openError ((a.intent n).plan s) c replies).result =
        (sought n (c.reply openError replies) >>= a.answer n) ∧
      (Connection.run s openError ((a.intent n).plan s) c replies).requests =
        if c.reaches openError then [.describe n] else [] := by
  obtain ⟨hresult, hrequests⟩ := @Connection.run_lookup s openError c replies n
  have hquiet : ∀ d c replies, Connection.run s openError (settled (a.answer n d)) c replies =
      ⟨a.answer n d, c, replies, [], []⟩ := by
    intro d c replies
    cases a.answer n d <;> rfl
  rw [plan_intent, Connection.run_bind_quiet hquiet, ← hresult, ← hrequests]
  exact ⟨rfl, rfl⟩

variable {n : String} {x : Except Raised (Option Description)}

lemma existence_eq_false_iff {v : Value} :
    (x >>= existence.answer n) = .ok (.existence false v) ↔ x = .ok none ∧ v = .text "" := by
  rcases x with e | _ | d <;> simp [answer, eq_comm]

lemma existence_eq_true_iff {v : Value} :
    (x >>= existence.answer n) = .ok (.existence true v) ↔
      ∃ d, (x >>= lookup.answer n) = .ok (.description (some d)) ∧ d.dnsName = v := by
  rcases x with e | _ | d <;> simp [answer]

lemma describe_eq_some_iff {d : Description} :
    (x >>= lookup.answer n) = .ok (.description (some d)) ↔
      (x >>= describe.answer n) = .ok (.description (some d)) := by
  rcases x with e | _ | d' <;> simp [answer]

lemma lookup_eq_none_iff : (x >>= lookup.answer n) = .ok (.description none) ↔ x = .ok none := by
  rcases x with e | _ | d <;> simp [answer]

lemma lookup_eq_error_iff {e : Raised} : (x >>= lookup.answer n) = .error e ↔ x = .error e := by
  rcases x with e' | _ | d <;> simp [answer]

lemma existence_eq_error_iff {e : Raised} :
    (x >>= existence.answer n) = .error e ↔ x = .error e := by
  rcases x with e' | _ | d <;> simp [answer]

lemma describe_eq_error_iff {e : Raised} : (x >>= describe.answer n) = .error e ↔
    x = .error e ∨ x = .ok none ∧ e = .bare (.notFound (.text n)) := by
  rcases x with e' | _ | d <;> simp [answer, eq_comm]

end Question

namespace Manager

variable {m : Manager} {script : Script} {n : String}

def reply (m : Manager) (script : Script) : Except RemoteError Value :=
  m.connection.reply script.openError script.replies

lemma act_question (hn : Name.IsValid n) (a : Question) :
    (m.act script (.operate (a.operation n))).result =
        (sought n (m.reply script) >>= a.answer n) ∧
      (m.act script (.operate (a.operation n))).requests =
        if m.connection.reaches script.openError then [.describe n] else [] := by
  rw [act_of_read_ok (a.read_operation hn)]
  exact a.run_intent

/-- **A failure is never mistaken for absence.** Whatever the state of the connection and whatever
comes back: a load balancer is reported as absent exactly if what comes back says so, every other
fault is passed on, a foreign error gets through unchanged, and the three questions agree. -/
theorem existence_tells_absence (m : Manager) (script : Script) {n : String}
    (hn : Name.IsValid n) :
    let ends := fun o => (m.act script (.operate o)).result
    let lookup := ends (.lookup (.text n))
    let describe := ends (.describe (.text n))
    let existence := ends (.existence (.text n))
    (existence = .ok (.existence false (.text "")) ↔ Absent (m.reply script)) ∧
    (∀ f, m.reply script = .error (.fault f) → ¬ Absent (m.reply script) →
      ∃ e, existence = .error e ∧ e.PassesOn (.describe n) f) ∧
    (∀ e, m.reply script = .error (.foreign e) →
      existence = .error (.bare (.remote (.foreign e)))) ∧
    (∀ fields d ds, m.reply script = .ok (.record fields) →
      Value.field? fields "LoadBalancerDescriptions" = some (.list (d :: ds)) →
      ∀ v, existence ≠ .ok (.existence false v)) ∧
    (∀ d, lookup = .ok (.description (some d)) ↔ describe = .ok (.description (some d))) ∧
    (∀ v, existence = .ok (.existence true v) ↔
      ∃ d, lookup = .ok (.description (some d)) ∧ d.dnsName = v) ∧
    (lookup = .ok (.description none) ↔ existence = .ok (.existence false (.text ""))) ∧
    (lookup = .ok (.description none) ↔ describe = .error (.bare (.notFound (.text n)))) ∧
    (∀ e, lookup = .error e ↔ existence = .error e) ∧
    (∀ e, describe = .error e ↔ lookup = .error e ∨
      lookup = .ok (.description none) ∧ e = .bare (.notFound (.text n))) ∧
    ∀ a : Question, (m.act script (.operate (a.operation n))).requests =
      if m.connection.reaches script.openError then [.describe n] else [] := by
  intro ends lookup describe existence
  have hlookup : lookup = (sought n (m.reply script) >>= Question.lookup.answer n) :=
    (act_question hn .lookup).1
  have hdescribe : describe = (sought n (m.reply script) >>= Question.describe.answer n) :=
    (act_question hn .describe).1
  have hexistence : existence = (sought n (m.reply script) >>= Question.existence.answer n) :=
    (act_question hn .existence).1
  rw [hlookup, hdescribe, hexistence]
  refine ⟨?absent, ?passed, ?foreign, ?listed, ?found, ?named, ?missing, ?required, ?failed,
    ?raised, fun a => (act_question hn a).2⟩
  case absent =>
    rw [Question.existence_eq_false_iff, sought_eq_none_iff, and_iff_left rfl]
  case passed =>
    intro f hf hpresent
    rw [hf, absent_fault_iff] at hpresent
    refine ⟨_, ?_, Plan.passesOn_report (.describe n) f⟩
    rw [Question.existence_eq_error_iff, hf, sought, if_neg hpresent]
  case foreign =>
    intro e he
    rw [Question.existence_eq_error_iff, he, sought]
  case listed =>
    intro fields d ds hr hd v
    rw [Ne, Question.existence_eq_false_iff, sought_eq_none_iff, hr, absent_record_iff]
    rintro ⟨hnone, -⟩
    cases hnone _ hd
  case found =>
    intro d
    exact Question.describe_eq_some_iff
  case named =>
    intro v
    exact Question.existence_eq_true_iff
  case missing =>
    rw [Question.lookup_eq_none_iff, Question.existence_eq_false_iff, and_iff_left rfl]
  case required =>
    rw [Question.lookup_eq_none_iff, Question.describe_eq_error_iff]
    simp [sought_ne_notFound]
  case failed =>
    intro e
    rw [Question.lookup_eq_error_iff, Question.existence_eq_error_iff]
  case raised =>
    intro e
    rw [Question.describe_eq_error_iff, Question.lookup_eq_error_iff, Question.lookup_eq_none_iff]

/-- A throttled request says nothing about the load balancer. -/
theorem existence_of_throttled :
    let f : RemoteFault := .service
      ⟨some (.text "Throttling"), some (.text "Rate exceeded"), .text "DescribeLoadBalancers", none,
        rfl⟩
    let m := ofSettings ⟨.null, .null, .controlPlane, .standard⟩
    Name.IsValid "api-lb" ∧
      ∃ e, (m.act ⟨[.error (.fault f)], none, none⟩
        (.operate (.existence (.text "api-lb")))).result = .error e ∧
          e.PassesOn (.describe "api-lb") f := by
  intro f m
  have hn : Name.IsValid "api-lb" := rfl
  have hpresent : ¬ Absent (m.reply ⟨[.error (.fault f)], none, none⟩) := by
    have hreply : m.reply ⟨[.error (.fault f)], none, none⟩ = .error (.fault f) := rfl
    rw [hreply, absent_fault_iff]
    decide
  exact ⟨hn, (existence_tells_absence m ⟨[.error (.fault f)], none, none⟩ hn).2.1 f rfl hpresent⟩

end Manager

end Balancer
