import Balancer.Proofs.Mutation
import Balancer.Proofs.Writing

/-!
The courses that operations take: what is asked, what comes back, and what an operation ends in.

Where every error is a fault, a plan goes on until it ends, and what it does is told by its talk:
its requests, each with its answer. Main statements: whatever a plan does on a connection is one of
its talks, with the answers that the script gives (`exists_yields`), and an operation has no talks
but the few listed here (`course_of_yields`). So what a manager does is one of them
(`exists_course`), and what it answers is of its kind, whatever the script (`answers_of_act`).
-/

namespace Balancer

abbrev Exchange := Request × Answer

def Answer.told : Answer → Except RemoteError Value := Except.mapError .fault

def Exchange.told (e : Exchange) : Request × Except RemoteError Value := (e.1, Answer.told e.2)

@[simp] lemma Answer.told_ok (v : Value) : Answer.told (.ok v) = .ok v := rfl

@[simp] lemma Answer.told_error (f : RemoteFault) :
    Answer.told (.error f) = .error (.fault f) := rfl

lemma Exchange.told_injective : Function.Injective Exchange.told := by
  rintro ⟨q, a⟩ ⟨q', a'⟩ h
  rw [told, told, Prod.mk.injEq] at h
  obtain ⟨rfl, h⟩ := h
  rcases a with f | v <;> rcases a' with g | w <;> cases h <;> rfl

namespace Plan

variable {α β : Type}

/-- What a plan may do: the talk that it has, and what it ends in. -/
inductive Yields : Plan α → List Exchange → Except Raised α → Prop
  | done (a : α) : Yields (.done a) [] (.ok a)
  | fail (e : Raised) : Yields (.fail e) [] (.error e)
  | log {next : Plan α} {t : List Exchange} {r : Except Raised α} (entry : LogEntry)
      (h : Yields next t r) : Yields (.log entry next) t r
  | ask {next : Answer → Plan α} {t : List Exchange} {r : Except Raised α} (q : Request)
      (a : Answer) (h : Yields (next a) t r) : Yields (.ask q next) ((q, a) :: t) r

@[simp] lemma yields_done_iff {a : α} {t : List Exchange} {r : Except Raised α} :
    (Plan.done a).Yields t r ↔ t = [] ∧ r = .ok a := by
  constructor
  · rintro ⟨⟩
    exact ⟨rfl, rfl⟩
  · rintro ⟨rfl, rfl⟩
    exact .done a

@[simp] lemma yields_fail_iff {e : Raised} {t : List Exchange} {r : Except Raised α} :
    (Plan.fail e).Yields t r ↔ t = [] ∧ r = .error e := by
  constructor
  · rintro ⟨⟩
    exact ⟨rfl, rfl⟩
  · rintro ⟨rfl, rfl⟩
    exact .fail e

@[simp] lemma yields_log_iff {entry : LogEntry} {next : Plan α} {t : List Exchange}
    {r : Except Raised α} : (Plan.log entry next).Yields t r ↔ next.Yields t r := by
  constructor
  · rintro ⟨⟩
    assumption
  · exact .log entry

lemma yields_ask_iff {q : Request} {next : Answer → Plan α} {t : List Exchange}
    {r : Except Raised α} :
    (Plan.ask q next).Yields t r ↔ ∃ a u, t = (q, a) :: u ∧ (next a).Yields u r := by
  constructor
  · rintro ⟨⟩
    exact ⟨_, _, rfl, ‹_›⟩
  · rintro ⟨a, u, rfl, h⟩
    exact .ask q a h

lemma yields_call_iff {q : Request} {k : Answer → Plan α} {t : List Exchange}
    {r : Except Raised α} :
    (call q >>= k).Yields t r ↔ ∃ a u, t = (q, a) :: u ∧ (k a).Yields u r := by
  rw [call, ask_bind, yields_ask_iff]
  constructor
  · rintro ⟨_ | _, u, rfl, h⟩ <;> exact ⟨_, u, rfl, by simpa using h⟩
  · rintro ⟨_ | _, u, rfl, h⟩ <;> exact ⟨_, u, rfl, by simpa using h⟩

lemma exists_yields (p : Plan α) : ∃ t r, p.Yields t r := by
  induction p with
  | done a => exact ⟨_, _, .done a⟩
  | fail e => exact ⟨_, _, .fail e⟩
  | log entry next ih =>
    obtain ⟨t, r, h⟩ := ih
    exact ⟨t, r, .log entry h⟩
  | ask q next ih =>
    obtain ⟨t, r, h⟩ := ih (.ok .null)
    exact ⟨_, r, .ask q _ h⟩

lemma yields_bind_quiet {p : Plan α} {g : α → Plan β} {f : α → Except Raised β}
    (hg : ∀ a t r, (g a).Yields t r → t = [] ∧ r = f a) {t : List Exchange}
    {r : Except Raised β} (h : (p >>= g).Yields t r) : ∃ x, p.Yields t x ∧ r = (x >>= f) := by
  induction p generalizing t with
  | done a =>
    obtain ⟨rfl, rfl⟩ := hg a t r h
    exact ⟨_, .done a, rfl⟩
  | fail e =>
    rw [fail_bind, yields_fail_iff] at h
    obtain ⟨rfl, rfl⟩ := h
    exact ⟨_, .fail e, rfl⟩
  | log entry next ih =>
    rw [log_bind, yields_log_iff] at h
    obtain ⟨x, hx, rfl⟩ := ih h
    exact ⟨x, .log entry hx, rfl⟩
  | ask q next ih =>
    rw [ask_bind, yields_ask_iff] at h
    obtain ⟨a, u, rfl, h⟩ := h
    obtain ⟨x, hx, rfl⟩ := ih a h
    exact ⟨x, .ask q a hx, rfl⟩

end Plan

/-- Requests in turn, each with what a script gives for it. -/
def converse : List Request → List (Except RemoteError Value) →
    List (Request × Except RemoteError Value)
  | [], _ => []
  | q :: qs, replies => (q, replies.headD (.ok (.record []))) :: converse qs (replies.drop 1)

namespace Connection

variable {α : Type} {s : Settings} {openError : Option RemoteError} {c : Connection}
  {replies : List (Except RemoteError Value)}

lemma run_ask {q : Request} {next : Answer → Plan α} {a : Answer}
    (h : c.reply openError replies = a.told) :
    run s openError (.ask q next) c replies =
      (run s openError (next a) (c.after s openError) (c.left openError replies)).preceded
        (c.trace s openError q) [] := by
  have hdeliver : deliver a.told = .ok a := by cases a <;> rfl
  simp only [run, request_eq, h, hdeliver, Execution.follow]
  rfl

lemma exists_answer (h : ∀ e, c.reply openError replies ≠ .error (.foreign e)) :
    ∃ a : Answer, c.reply openError replies = a.told := by
  rcases hreply : c.reply openError replies with (f | e) | v
  · exact ⟨.error f, rfl⟩
  · exact absurd hreply (h e)
  · exact ⟨.ok v, rfl⟩

lemma run_ask_of_reaches {q : Request} {next : Answer → Plan α} {a : Answer}
    (h : c.reaches openError = true) (ha : c.reply openError replies = a.told) :
    let x := run s openError (.ask q next) c replies
    let y := run s openError (next a) (c.after s openError) (replies.drop 1)
    x.result = y.result ∧ x.requests = q :: y.requests := by
  have hleft : c.left openError replies = replies.drop 1 := by simp [left, h]
  rw [run_ask ha, hleft]
  refine ⟨rfl, ?_⟩
  rw [Execution.requests_preceded, requests_trace, if_pos h]
  rfl

lemma run_ask_of_not_reaches {q : Request} {next : Answer → Plan α} {a : Answer}
    (h : c.reaches openError = false) (ha : c.reply openError replies = a.told) :
    let x := run s openError (.ask q next) c replies
    let y := run s openError (next a) (c.after s openError) replies
    x.result = y.result ∧ x.requests = y.requests := by
  have hleft : c.left openError replies = replies := by simp [left, h]
  rw [run_ask ha, hleft]
  refine ⟨rfl, ?_⟩
  rw [Execution.requests_preceded, requests_trace, h]
  rfl

lemma exists_requests_ask {q : Request} {next : Answer → Plan α}
    (h : c.reaches openError = true) :
    ∃ qs, (run s openError (.ask q next) c replies).requests = q :: qs := by
  have htrace : (c.trace s openError q).filterMap Event.request? = [q] := by
    rw [requests_trace, if_pos h]
  simp only [run, request_eq]
  rcases deliver (c.reply openError replies) with e | a
  · exact ⟨[], htrace⟩
  · refine ⟨(run s openError (next a) (c.after s openError)
      (c.left openError replies)).requests, ?_⟩
    simp only [Execution.follow, Execution.requests, List.filterMap_append, htrace]
    rfl

lemma origin_of_foreign {q : Request} {next : Answer → Plan α} {g : ForeignError}
    (h : c.reply openError replies = .error (.foreign g)) :
    openError = some (.foreign g) ∨
      ∃ e ∈ converse (run s openError (.ask q next) c replies).requests replies,
        e.2 = .error (.foreign g) := by
  rcases hreaches : c.reaches openError with _ | _
  · obtain ⟨e, he, hreply⟩ := @reply_of_not_reaches openError c replies hreaches
    cases hreply.symm.trans h
    exact .inl he
  · obtain ⟨qs, hqs⟩ := @exists_requests_ask α s openError c replies q next hreaches
    rw [hqs, converse, ← reply_of_reaches hreaches]
    exact .inr ⟨_, List.mem_cons_self, h⟩

/-- **A run is one of the plan's talks**, with the answers that the script gives, unless no request
gets through. Or else it ends in an error from outside, of opening a client or of a request. -/
theorem yields_or_foreign (p : Plan α) :
    let x := run s openError p c replies
    (∃ t, p.Yields t x.result ∧
      (c.reaches openError = true → converse x.requests replies = t.map Exchange.told) ∧
      (c.reaches openError = false → x.requests = [] ∧ ∀ e ∈ t, ∃ f, e.2 = .error f)) ∨
    ∃ g, x.result = .error (.bare (.remote (.foreign g))) ∧
      (openError = some (.foreign g) ∨
        ∃ e ∈ converse x.requests replies, e.2 = .error (.foreign g)) := by
  intro x
  induction p generalizing c replies with
  | done a => exact .inl ⟨[], .done a, fun _ => rfl, fun _ => ⟨rfl, by simp⟩⟩
  | fail e => exact .inl ⟨[], .fail e, fun _ => rfl, fun _ => ⟨rfl, by simp⟩⟩
  | log entry next ih =>
    obtain ⟨t, ht, hreached, hlost⟩ | hforeign := @ih c replies
    · exact .inl ⟨t, .log entry ht, hreached, hlost⟩
    · exact .inr hforeign
  | ask q next ih =>
    by_cases hforeign : ∃ g, c.reply openError replies = .error (.foreign g)
    · obtain ⟨g, hg⟩ := hforeign
      exact .inr ⟨g, congrArg Execution.result (run_ask_foreign hg), origin_of_foreign hg⟩
    obtain ⟨a, ha⟩ := exists_answer (not_exists.mp hforeign)
    rcases hreaches : c.reaches openError with _ | _
    -- every request ends in the error of opening
    · obtain ⟨hresult, hrequests⟩ := @run_ask_of_not_reaches α s openError c replies q next a
        hreaches ha
      rw [hrequests, hresult]
      have hfirst : ∃ f, a = .error f := by
        obtain ⟨e, -, hreply⟩ := @reply_of_not_reaches openError c replies hreaches
        rw [ha] at hreply
        rcases a with f | v
        · exact ⟨f, rfl⟩
        · cases hreply
      refine (ih a).imp_left ?_
      rintro ⟨t, ht, -, hlost⟩
      obtain ⟨hnone, herrors⟩ := hlost (reaches_after.trans hreaches)
      exact ⟨(q, a) :: t, .ask q a ht, fun h => absurd h (by simp), fun _ =>
        ⟨hnone, List.forall_mem_cons.mpr ⟨hfirst, herrors⟩⟩⟩
    -- the first request is answered by the first reply, the others by the rest
    · obtain ⟨hresult, hrequests⟩ := @run_ask_of_reaches α s openError c replies q next a
        hreaches ha
      rw [hrequests, hresult, converse, ← reply_of_reaches hreaches, ha]
      obtain ⟨t, ht, hreached, -⟩ | ⟨g, hg, horigin⟩ :=
        @ih a (c.after s openError) (replies.drop 1)
      · refine .inl ⟨(q, a) :: t, .ask q a ht, fun _ => ?_, fun h => absurd h (by simp)⟩
        rw [hreached (reaches_after.trans hreaches)]
        rfl
      · exact .inr ⟨g, hg,
          horigin.imp_right fun ⟨e, he, heq⟩ => ⟨e, List.mem_cons_of_mem _ he, heq⟩⟩

lemma exists_yields (p : Plan α)
    (hreplies : ∀ e ∈ converse (run s openError p c replies).requests replies,
      ∀ g, e.2 ≠ .error (.foreign g))
    (hopen : ∀ g, openError ≠ some (.foreign g)) :
    ∃ t, p.Yields t (run s openError p c replies).result ∧
      (c.reaches openError = true →
        converse (run s openError p c replies).requests replies = t.map Exchange.told) ∧
      (c.reaches openError = false →
        (run s openError p c replies).requests = [] ∧ ∀ e ∈ t, ∃ f, e.2 = .error f) := by
  rcases yields_or_foreign p with h | ⟨g, -, hg | ⟨e, he, hg⟩⟩
  · exact h
  · exact absurd hg (hopen g)
  · exact absurd hg (hreplies e he g)

lemma exists_yields_of_mem_requests {p : Plan α} {q : Request}
    (hq : q ∈ (run s openError p c replies).requests) :
    ∃ t r a, p.Yields t r ∧ (q, a) ∈ t := by
  induction p generalizing c replies with
  | done a => cases hq
  | fail e => cases hq
  | log entry next ih =>
    obtain ⟨t, r, a, h, hmem⟩ := ih hq
    exact ⟨t, r, a, .log entry h, hmem⟩
  | ask q' next ih =>
    have hfirst : ∀ {q}, q ∈ (c.trace s openError q').filterMap Event.request? → q = q' := by
      intro q hq
      rw [requests_trace] at hq
      split at hq
      · exact List.mem_singleton.mp hq
      · cases hq
    simp only [run, request_eq] at hq
    rcases hreply : deliver (c.reply openError replies) with e | a
    -- an error from outside ends the run, so the talk may go on in any way
    · rw [hreply] at hq
      obtain rfl := hfirst hq
      obtain ⟨t, r, h⟩ := (next (.ok .null)).exists_yields
      exact ⟨_, r, _, .ask q _ h, List.mem_cons_self⟩
    · rw [hreply] at hq
      simp only [Execution.follow, Execution.requests, List.filterMap_append, List.mem_append] at hq
      rcases hq with hq | hq
      · obtain rfl := hfirst hq
        obtain ⟨t, r, h⟩ := (next a).exists_yields
        exact ⟨_, r, a, .ask q a h, List.mem_cons_self⟩
      · obtain ⟨t, r, b, h, hmem⟩ := ih a hq
        exact ⟨_, r, b, .ask q' a h, List.mem_cons_of_mem _ hmem⟩

end Connection

/-! ### The courses of an operation -/

def Plan.named (v : Value) : Checked Value :=
  if v.isNull then misuse .noAnswer else v.item "DNSName"

lemma Plan.named_of_item {v dnsName : Value} (h : v.item "DNSName" = .ok dnsName) :
    named v = .ok dnsName := by
  rcases hnull : v.isNull with _ | _
  · simp [named, hnull, h]
  · cases v <;> cases hnull
    cases h

def Plan.refusal (f : RemoteFault) : String :=
  if f.kind = .duplicateName then "Name already in use (" ++ f.message ++ ")"
  else f.code ++ ": " ++ f.message

/-- The verdict on a listener that was refused as a duplicate, by what a search finds. -/
def Plan.verdict (n : String) (l : Listener) (f : RemoteFault) :
    Option Description → Except Raised Outcome
  | none => .error (.bare (.notFound (.text n)))
  | some d =>
    if (d.listener? l.frontend.toValue).any fun m => !l.conflictsWith m then .ok .nothing
    else .error ⟨.conflict (.text n) l (.text f.message), some (.remote (.fault f))⟩

lemma Plan.verdict_some {n : String} {l : Listener} {f : RemoteFault} {v : Value} {d : Description}
    (hd : Description.ofWire v = .ok d) :
    verdict n l f (some d) = if d.listener? l.frontend.toValue = some l then .ok .nothing
      else .error ⟨.conflict (.text n) l (.text f.message), some (.remote (.fault f))⟩ := by
  simp only [verdict, Description.any_not_conflicting_iff hd]

/-- All that an operation may do and end in. -/
inductive Course (s : Settings) : Intent → List Exchange → Except Raised Outcome → Prop
  | refused {n : String} {subnets : List String} {l : Listener} {f : RemoteFault} :
      Course s (.provision n subnets l) [(.create n subnets l, .error f)]
        (.error ⟨.provision (.text n) (.text (Plan.refusal f)) (.text f.code),
          some (.service (Plan.report (.create n subnets l) f))⟩)
  | unnamed {n : String} {subnets : List String} {l : Listener} {v : Value} {r : Rejection}
      (hv : Plan.named v = .error r) :
      Course s (.provision n subnets l) [(.create n subnets l, .ok v)]
        (.error (.bare (.rejected r)))
  | provisioned {n : String} {subnets : List String} {l : Listener} {v w dnsName : Value}
      (hv : Plan.named v = .ok dnsName) :
      Course s (.provision n subnets l)
        [(.create n subnets l, .ok v), (.attach n s.healthCheck, .ok w)] (.ok (.dnsName dnsName))
  | unmonitored {n : String} {subnets : List String} {l : Listener} {v dnsName : Value}
      {f : RemoteFault} (hv : Plan.named v = .ok dnsName) :
      Course s (.provision n subnets l)
        [(.create n subnets l, .ok v), (.attach n s.healthCheck, .error f)]
        (.error (Plan.unchecked (.attach n s.healthCheck) f dnsName))
  | changed {i : Intent} {q : Request} {v : Value} (hq : i.change? = some q) :
      Course s i [(q, .ok v)] (.ok .nothing)
  | absent {i : Intent} {q : Request} {f : RemoteFault} (hq : i.change? = some q)
      (hf : f.Says .balancerNotFound) :
      Course s i [(q, .error f)] (.error (.bare (.notFound (.text q.balancer))))
  | moot {i : Intent} {q : Request} {f : RemoteFault} (hq : i.change? = some q) (hf : q.IsMoot f) :
      Course s i [(q, .error f)] (.ok .nothing)
  | settled {n : String} {l : Listener} {f : RemoteFault} {a : Answer}
      (hf : f.Says .duplicateListener) :
      Course s (.bind n l) [(.bind n l, .error f), (.describe n, a)]
        (sought n a.told >>= Plan.verdict n l f)
  | unattached {n : String} {check : HealthCheck} {f : RemoteFault}
      (hf : (Request.attach n check).IsForeignTo f) :
      Course s (.attach n check) [(.attach n check, .error f)]
        (.error ⟨.healthCheck (.text n) (.text (f.code ++ ": " ++ f.message)) (.text f.code) .null,
          some (.service (Plan.report (.attach n check) f))⟩)
  | troubled {i : Intent} {q : Request} {f : RemoteFault} (hq : i.change? = some q)
      (hne : ∀ n check, q ≠ .attach n check) (hf : q.IsForeignTo f) :
      Course s i [(q, .error f)]
        (.error ⟨.service (Plan.report q f), some (.remote (.fault f))⟩)
  | skipped {n : String} {i : Intent} (hi : i = .register n [] ∨ i = .deregister n []) :
      Course s i [] (.ok .nothing)
  | asked {n : String} {a : Answer} (b : Question) :
      Course s (b.intent n) [(.describe n, a)] (sought n a.told >>= b.answer n)

lemma Question.balancer_intent (b : Question) (n : String) : (b.intent n).balancer = n := by
  cases b <;> rfl

namespace Plan

variable {s : Settings} {t : List Exchange}

lemma yields_lookup {n : String} {x : Except Raised (Option Description)}
    (h : (lookup n).Yields t x) : ∃ a, t = [(.describe n, a)] ∧ x = sought n a.told := by
  rw [lookup, yields_call_iff] at h
  obtain ⟨f | v, u, rfl, h⟩ := h
  · refine ⟨.error f, ?_⟩
    simp only at h
    by_cases hkind : f.kind = .balancerNotFound
    · simp_all [sought]
    · simp_all [sought, failWith]
  · refine ⟨.ok v, ?_⟩
    simp only at h
    rcases hanswer : Description.ofAnswer v with r | d <;> simp_all [sought, Except.mapError]

lemma yields_compared {n : String} {l : Listener} {f : RemoteFault} {d : Description}
    {r : Except Raised Outcome} (h : (compared n l f d).Yields t r) :
    t = [] ∧ r = verdict n l f (some d) := by
  simp only [compared] at h
  simp only [verdict]
  split at h
  · next hl =>
    rw [if_pos hl]
    exact yields_done_iff.mp (yields_log_iff.mp h)
  · next hl =>
    rw [if_neg hl]
    exact yields_fail_iff.mp h

lemma yields_settle {n : String} {l : Listener} {f : RemoteFault} (hn : Name.IsValid n)
    {r : Except Raised Outcome} (h : (settle n l f).Yields t r) :
    ∃ a, t = [(.describe n, a)] ∧ r = (sought n a.told >>= verdict n l f) := by
  rw [settle_of_isValid hn, describe, bind_assoc] at h
  obtain ⟨x, hx, rfl⟩ := @yields_bind_quiet _ _ _ _ (verdict n l f) (by
    rintro (_ | d) t r h
    · exact yields_fail_iff.mp h
    · exact yields_compared h) _ _ h
  obtain ⟨a, rfl, rfl⟩ := yields_lookup hx
  exact ⟨a, rfl, rfl⟩

lemma course_of_question {n : String} {r : Except Raised Outcome} (b : Question)
    (h : ((b.intent n).plan s).Yields t r) : Course s (b.intent n) t r := by
  have hquiet : ∀ d t r, (Question.settled (b.answer n d)).Yields t r →
      t = [] ∧ r = b.answer n d := by
    intro d t r h
    rcases hanswer : b.answer n d with e | o
    · rw [hanswer] at h; exact yields_fail_iff.mp h
    · rw [hanswer] at h; exact yields_done_iff.mp h
  rw [b.plan_intent] at h
  obtain ⟨x, hx, rfl⟩ := yields_bind_quiet hquiet h
  obtain ⟨a, rfl, rfl⟩ := yields_lookup hx
  exact .asked b

lemma course_of_change {i : Intent} {q : Request} (hn : Name.IsValid i.balancer)
    (hq : i.change? = some q) {r : Except Raised Outcome} (h : (i.plan s).Yields t r) :
    Course s i t r := by
  obtain ⟨k, hplan, hfault, hdone⟩ := @Intent.isChange s i q hq
  rw [hplan, yields_call_iff] at h
  obtain ⟨f | v, u, rfl, h⟩ := h
  · rw [hfault] at h
    rcases q.fault_cases f with hf | hf | ⟨⟨n, l, rfl⟩, hf⟩ | ⟨hf, ⟨n, check, rfl⟩ | hne⟩
    · rw [facing_of_absent hf, failNotFound, yields_fail_iff] at h
      obtain ⟨rfl, rfl⟩ := h
      exact .absent hq hf
    · obtain ⟨⟨n, port, rfl⟩, hcode⟩ := hf
      rw [facing_of_moot hcode] at h
      obtain ⟨rfl, rfl⟩ := yields_done_iff.mp (yields_log_iff.mp h)
      exact .moot hq ⟨⟨n, port, rfl⟩, hcode⟩
    · obtain rfl : i = .bind n l := Intent.eq_of_change? hq
      rw [facing_of_duplicate hf] at h
      obtain ⟨a, rfl, rfl⟩ := yields_settle hn h
      exact .settled hf
    · obtain rfl : i = .attach n check := Intent.eq_of_change? hq
      rw [facing_attach hf.1, yields_fail_iff] at h
      obtain ⟨rfl, rfl⟩ := h
      exact .unattached hf
    · rw [facing_of_foreign hne hf, failWith, yields_fail_iff] at h
      obtain ⟨rfl, rfl⟩ := h
      exact .troubled hq hne hf
  · obtain ⟨entry, hentry⟩ := hdone v
    rw [hentry, yields_log_iff, yields_done_iff] at h
    obtain ⟨rfl, rfl⟩ := h
    exact .changed hq

lemma provision_eq (s : Settings) (n : String) (subnets : List String) (l : Listener) :
    ∃ entry k, provision s n subnets l = .log entry (call (.create n subnets l) >>= k) ∧
      (∀ f, k (.error f) = .fail ⟨.provision (.text n) (.text (refusal f)) (.text f.code),
        some (.service (report (.create n subnets l) f))⟩) ∧
      ∀ v, k (.ok v) = (ofChecked (named v) >>= monitor s n) := by
  refine ⟨_, _, rfl, fun f => rfl, fun v => ?_⟩
  unfold named
  rcases hnull : v.isNull with _ | _
  · simp only [hnull]; rfl
  · simp only [hnull]; rfl

lemma monitor_eq (s : Settings) (n : String) (dnsName : Value) :
    ∃ entry k, monitor s n dnsName = .log entry (call (.attach n s.healthCheck) >>= k) ∧
      (∀ f, ∃ entry, k (.error f) =
        .log entry (.fail (unchecked (.attach n s.healthCheck) f dnsName))) ∧
      ∀ v, ∃ entry, k (.ok v) = .log entry (.done (.dnsName dnsName)) :=
  ⟨_, _, rfl, fun _ => ⟨_, rfl⟩, fun _ => ⟨_, rfl⟩⟩

lemma course_of_provision {n : String} {subnets : List String} {l : Listener}
    {r : Except Raised Outcome} (h : (provision s n subnets l).Yields t r) :
    Course s (.provision n subnets l) t r := by
  obtain ⟨entry, k, hplan, hrefused, hcreated⟩ := provision_eq s n subnets l
  rw [hplan, yields_log_iff, yields_call_iff] at h
  obtain ⟨f | v, u, rfl, h⟩ := h
  · rw [hrefused, yields_fail_iff] at h
    obtain ⟨rfl, rfl⟩ := h
    exact .refused
  · rw [hcreated] at h
    rcases hnamed : named v with e | dnsName
    · rw [hnamed] at h
      obtain ⟨rfl, rfl⟩ := yields_fail_iff.mp h
      exact .unnamed hnamed
    · obtain ⟨entry, k, hplan, hfailed, hdone⟩ := monitor_eq s n dnsName
      rw [hnamed, ofChecked_ok, done_bind, hplan, yields_log_iff, yields_call_iff] at h
      obtain ⟨f | w, u, rfl, h⟩ := h
      · obtain ⟨entry, hentry⟩ := hfailed f
        rw [hentry] at h
        obtain ⟨rfl, rfl⟩ := yields_fail_iff.mp (yields_log_iff.mp h)
        exact .unmonitored hnamed
      · obtain ⟨entry, hentry⟩ := hdone w
        rw [hentry] at h
        obtain ⟨rfl, rfl⟩ := yields_done_iff.mp (yields_log_iff.mp h)
        exact .provisioned hnamed

/-- **Every talk of an operation is one of its courses.** -/
theorem course_of_yields {i : Intent} (hn : Name.IsValid i.balancer) {r : Except Raised Outcome}
    (h : (i.plan s).Yields t r) : Course s i t r := by
  cases i with
  | provision n subnets l => exact course_of_provision h
  | attach n check => exact course_of_change hn rfl h
  | bind n l => exact course_of_change hn rfl h
  | unbind n port => exact course_of_change hn rfl h
  | register n ids =>
    rcases ids with _ | ⟨id, r⟩
    · obtain ⟨rfl, rfl⟩ := yields_done_iff.mp (yields_log_iff.mp h)
      exact .skipped (.inl rfl)
    · exact course_of_change hn rfl h
  | deregister n ids =>
    rcases ids with _ | ⟨id, r⟩
    · obtain ⟨rfl, rfl⟩ := yields_done_iff.mp (yields_log_iff.mp h)
      exact .skipped (.inr rfl)
    · exact course_of_change hn rfl h
  | lookup n => exact course_of_question .lookup h
  | describe n => exact course_of_question .describe h
  | existence n => exact course_of_question .existence h

end Plan

/-- **What an operation does is one of its courses**, with the answers that the script gives, unless
no request gets through. -/
theorem Manager.exists_course {m : Manager} {script : Script} {o : Operation} {i : Intent}
    (hread : o.read m.settings = .ok i)
    (hreplies : ∀ e ∈ converse (m.act script (.operate o)).requests script.replies,
      ∀ g, e.2 ≠ .error (.foreign g))
    (hopen : ∀ g, script.openError ≠ some (.foreign g)) :
    let x := m.act script (.operate o)
    ∃ t, Course m.settings i t x.result ∧
      (m.connection.reaches script.openError = true →
        converse x.requests script.replies = t.map Exchange.told) ∧
      (m.connection.reaches script.openError = false →
        x.requests = [] ∧ ∀ e ∈ t, ∃ f, e.2 = .error f) := by
  intro x
  have hx : x = _ := act_of_read_ok hread
  rw [act_of_read_ok hread] at hreplies
  obtain ⟨t, ht, htalk⟩ := m.connection.exists_yields (s := m.settings) (i.plan m.settings)
    hreplies hopen
  rw [hx]
  exact ⟨t, Plan.course_of_yields (Operation.isValid_of_read hread) ht, htalk⟩

/-- Where the client opens, what is talked with the provider is a course. -/
lemma Manager.course_of_talk {m : Manager} {script : Script} {o : Operation} {i : Intent}
    {t : List Exchange} (hread : o.read m.settings = .ok i) (hopen : script.openError = none)
    (htalk : converse (m.act script (.operate o)).requests script.replies = t.map Exchange.told) :
    Course m.settings i t (m.act script (.operate o)).result := by
  have hreaches : m.connection.reaches script.openError = true := by
    simp [Connection.reaches, hopen]
  obtain ⟨u, hcourse, hreached, -⟩ := exists_course hread (by
    intro e he g
    rw [htalk] at he
    obtain ⟨⟨q, a⟩, -, rfl⟩ := List.mem_map.mp he
    rcases a with f | v <;> simp [Exchange.told]) (by simp [hopen])
  obtain rfl : t = u :=
    List.map_injective_iff.mpr Exchange.told_injective (htalk.symm.trans (hreached hreaches))
  exact hcourse

/-- What may be asked for an intent: the two requests of a provision, its change, or a description
of a load balancer. -/
inductive Intent.MayAsk (s : Settings) : Intent → Request → Prop
  | create (n : String) (subnets : List String) (l : Listener) :
      MayAsk s (.provision n subnets l) (.create n subnets l)
  | monitor (n : String) (subnets : List String) (l : Listener) :
      MayAsk s (.provision n subnets l) (.attach n s.healthCheck)
  | change {i : Intent} {q : Request} (hq : i.change? = some q) : MayAsk s i q
  | describe (i : Intent) : MayAsk s i (.describe i.balancer)

lemma Intent.MayAsk.balancer_eq {s : Settings} {i : Intent} {q : Request} (h : i.MayAsk s q) :
    q.balancer = i.balancer := by
  cases h with
  | change hq => exact Intent.balancer_of_change? hq
  | _ => rfl

lemma Course.mayAsk {s : Settings} {i : Intent} {t : List Exchange} {r : Except Raised Outcome}
    (h : Course s i t r) {e : Exchange} (he : e ∈ t) : i.MayAsk s e.1 := by
  cases h with
  | changed hq | absent hq | moot hq | troubled hq =>
    obtain rfl := List.mem_singleton.mp he
    exact .change hq
  | refused | unnamed =>
    obtain rfl := List.mem_singleton.mp he
    exact .create ..
  | provisioned | unmonitored =>
    obtain rfl | he := List.mem_cons.mp he
    · exact .create ..
    · obtain rfl := List.mem_singleton.mp he
      exact .monitor ..
  | settled =>
    obtain rfl | he := List.mem_cons.mp he
    · exact .change rfl
    · obtain rfl := List.mem_singleton.mp he
      exact .describe _
  | unattached =>
    obtain rfl := List.mem_singleton.mp he
    exact .change rfl
  | skipped => cases he
  | @asked n a b =>
    obtain rfl := List.mem_singleton.mp he
    have hask : (b.intent n).MayAsk s (.describe (b.intent n).balancer) := .describe _
    rwa [b.balancer_intent] at hask

/-- **Nothing is asked but what the arguments come to**, whatever the script. -/
theorem Manager.mayAsk_of_mem_requests {m : Manager} {script : Script} {o : Operation} {q : Request}
    (hq : q ∈ (m.act script (.operate o)).requests) :
    ∃ i, o.read m.settings = .ok i ∧ i.MayAsk m.settings q := by
  rcases hread : o.read m.settings with r | i
  · rw [act_of_read_error hread] at hq
    cases hq
  · rw [act_of_read_ok hread] at hq
    obtain ⟨t, r, a, ht, hmem⟩ := Connection.exists_yields_of_mem_requests hq
    exact ⟨i, rfl, (Plan.course_of_yields (Operation.isValid_of_read hread) ht).mayAsk hmem⟩

/-- **What an operation asks for is about the load balancer that it names**, whatever the script. -/
theorem Manager.balancer_of_mem_requests {m : Manager} {script : Script} {o : Operation}
    {q : Request} (hq : q ∈ (m.act script (.operate o)).requests) :
    ∃ i, o.read m.settings = .ok i ∧ q.balancer = i.balancer := by
  obtain ⟨i, hi, hasks⟩ := mayAsk_of_mem_requests hq
  exact ⟨i, hi, hasks.balancer_eq⟩

/-! ### What an operation answers -/

def Intent.Answers : Intent → Outcome → Prop
  | .provision .., a => ∃ dnsName, a = .dnsName dnsName
  | .lookup _, a => ∃ d, a = .description d
  | .describe _, a => ∃ d, a = .description (some d)
  | .existence _, a => ∃ found dnsName, a = .existence found dnsName
  | _, a => a = .nothing

lemma Intent.answers_nothing_of_change {i : Intent} {q : Request} (hq : i.change? = some q) :
    i.Answers .nothing := by
  cases i <;> simp_all [Intent.change?, Intent.Answers]

lemma Question.answers_intent {n : String} {b : Question} {d : Option Description} {a : Outcome}
    (h : b.answer n d = .ok a) : (b.intent n).Answers a := by
  cases b <;> cases d <;> simp_all [Question.answer, Question.intent, Intent.Answers, eq_comm]

lemma Course.answers {s : Settings} {i : Intent} {t : List Exchange} {a : Outcome}
    (h : Course s i t (.ok a)) : i.Answers a := by
  generalize hr : (Except.ok a : Except Raised Outcome) = r at h
  cases h with
  | provisioned hv =>
    cases hr
    exact ⟨_, rfl⟩
  | changed hq =>
    cases hr
    exact Intent.answers_nothing_of_change hq
  | moot hq hf =>
    cases hr
    exact Intent.answers_nothing_of_change hq
  | @settled n l f b hf =>
    obtain ⟨d, -, hd⟩ := bind_eq_ok_iff.mp hr.symm
    rcases d with _ | d
    · cases hd
    · simp only [Plan.verdict] at hd
      split at hd <;> cases hd
      rfl
  | skipped hi =>
    cases hr
    rcases hi with rfl | rfl <;> rfl
  | asked b =>
    obtain ⟨d, -, hd⟩ := bind_eq_ok_iff.mp hr.symm
    exact Question.answers_intent hd
  | _ => cases hr

/-- **What an operation answers is of its kind**, whatever the manager and the script. -/
theorem Manager.answers_of_act {m : Manager} {script : Script} {o : Operation} {a : Outcome}
    (h : (m.act script (.operate o)).result = .ok a) :
    ∃ i, o.read m.settings = .ok i ∧ i.Answers a := by
  rcases hread : o.read m.settings with r | i
  · rw [act_of_read_error hread] at h
    cases h
  · rw [act_of_read_ok hread] at h
    rcases Connection.yields_or_foreign (i.plan m.settings) with ⟨t, ht, -⟩ | ⟨e, he, -⟩
    · rw [h] at ht
      exact ⟨i, rfl, (Plan.course_of_yields (Operation.isValid_of_read hread) ht).answers⟩
    · cases he.symm.trans h

end Balancer
