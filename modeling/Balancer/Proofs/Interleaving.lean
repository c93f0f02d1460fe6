import Balancer.Proofs.Duplicate
import Balancer.Proofs.Exposure
import Mathlib.Logic.Relation

/-!
Interleaving: what adding a listener tells while other clients change the same load balancer.

A listener that is refused as a duplicate takes a second request, and other clients may be answered
in between. Main statement: success is true when the last request is answered, and so is a conflict
at one of the two, unless the listener itself was there at the first one and the port was free at
the second (`verdict_was_true`).
-/

namespace Balancer

namespace Provider

def listener? (P : Provider) (n : String) (p : Port) : Option Listener :=
  (P n).bind fun k => k.listeners p

def Moves : Provider → Provider → Prop :=
  Relation.ReflTransGen fun P Q => ∃ q a, P.Answers q a Q

/-- The provider has its part in a talk, and answers other clients before each request of it. What
it keeps right after each of these requests is told in turn. -/
inductive ServesAmong : Provider → List Exchange → List Provider → Prop
  | nil (P : Provider) : P.ServesAmong [] []
  | cons {P Q R : Provider} {q : Request} {a : Answer} {t : List Exchange} {moments : List Provider}
      (hothers : P.Moves Q) (h : Q.Answers q a R) (ht : R.ServesAmong t moments) :
      P.ServesAmong ((q, a) :: t) (R :: moments)

variable {P Q : Provider} {n : String} {l : Listener} {f : RemoteFault}

lemma servesAmong_nil_iff {moments : List Provider} : P.ServesAmong [] moments ↔ moments = [] := by
  constructor
  · rintro ⟨⟩
    rfl
  · rintro rfl
    exact .nil P

lemma servesAmong_cons_iff {q : Request} {a : Answer} {t : List Exchange}
    {moments : List Provider} : P.ServesAmong ((q, a) :: t) moments ↔
      ∃ Q R rest, moments = R :: rest ∧ P.Moves Q ∧ Q.Answers q a R ∧ R.ServesAmong t rest := by
  constructor
  · rintro ⟨⟩
    exact ⟨_, _, _, rfl, ‹_›, ‹_›, ‹_›⟩
  · rintro ⟨Q, R, rest, rfl, hothers, h, ht⟩
    exact .cons hothers h ht

lemma listener?_of_kept {k : Held} (hkept : P n = some k) (p : Port) :
    P.listener? n p = k.listeners p := by
  simp [listener?, hkept]

lemma listener?_of_accepted {v : Value} (h : P.Answers (.bind n l) (.ok v) Q) :
    Q.listener? n l.frontend = some l := by
  cases h with
  | @bound _ _ k _ hkept hport =>
    have hbound : (P.put n (k.bind l)) n = some (k.bind l) := Function.update_self ..
    exact (listener?_of_kept hbound _).trans (if_pos rfl)

lemma listener?_of_duplicate (h : P.Answers (.bind n l) (.error f) Q)
    (hf : f.Says .duplicateListener) : ∃ k, Q.listener? n l.frontend = some k := by
  cases h with
  | duplicate hkept hport _ => exact ⟨_, (listener?_of_kept hkept _).trans hport⟩
  | missing _ hfree hf' => cases hf.unique hf'
  | disturbed hf' => exact absurd ⟨⟨n, l, rfl⟩, hf⟩ hf'.2.2

/-- The verdict on a duplicate is true of what is described. -/
lemma verdict_of_answers {a : Answer} {r : Except Raised Outcome} (h : P.Answers (.describe n) a Q)
    (hr : r = (sought n a.told >>= Plan.verdict n l f)) :
    (∀ b, r = .ok b → Q.listener? n l.frontend = some l) ∧
      ∀ e, r = .error e → e.failure.family? = some .conflict →
        Q.listener? n l.frontend ≠ some l := by
  obtain ⟨rfl, ⟨k, d, hkept, hshows, hsought⟩ | ⟨-, hsought⟩ | ⟨g, -, -, hsought⟩⟩ :=
    sought_of_answers h
  · rw [verdict_of_shows hsought hshows] at hr
    rw [listener?_of_kept hkept]
    by_cases hl : k.listeners l.frontend = some l
    · rw [if_pos hl] at hr
      subst hr
      exact ⟨fun _ _ => hl, fun e he => (by cases he)⟩
    · rw [if_neg hl] at hr
      subst hr
      exact ⟨fun b hb => (by cases hb), fun _ _ _ => hl⟩
  · rw [hsought] at hr
    subst hr
    refine ⟨fun b hb => (by cases hb), fun e he hconflict => ?_⟩
    cases he
    cases hconflict
  · rw [hsought] at hr
    subst hr
    refine ⟨fun b hb => (by cases hb), fun e he hconflict => ?_⟩
    cases he
    cases hconflict

end Provider

lemma Course.of_bind {s : Settings} {n : String} {l : Listener} {t : List Exchange}
    {r : Except Raised Outcome} (h : Course s (.bind n l) t r) :
    (∃ v, t = [(.bind n l, .ok v)] ∧ r = .ok .nothing) ∨
    (∃ f a, f.Says .duplicateListener ∧ t = [(.bind n l, .error f), (.describe n, a)] ∧
      r = (sought n a.told >>= Plan.verdict n l f)) ∨
    ∃ e, r = .error e ∧ e.failure.family? ≠ some .conflict := by
  generalize hi : Intent.bind n l = i at h
  cases h with
  | changed hq => subst hi; cases hq; exact .inl ⟨_, rfl, rfl⟩
  | settled hf => cases hi; exact .inr (.inl ⟨_, _, hf, rfl, rfl⟩)
  | absent => exact .inr (.inr ⟨_, rfl, by simp [Raised.bare, Failure.family?]⟩)
  | troubled => exact .inr (.inr ⟨_, rfl, by simp [Failure.family?]⟩)
  | moot hq hf =>
    subst hi
    cases hq
    obtain ⟨⟨_, _, hf⟩, -⟩ := hf
    cases hf
  | skipped hskip =>
    subst hi
    rcases hskip with h | h <;> cases h
  | asked b => cases b <;> cases hi
  | _ => cases hi

lemma Rejection.family?_ne_conflict (r : Rejection) :
    (Failure.rejected r).family? ≠ some .conflict := by
  cases r <;> simp [Failure.family?]

namespace Manager

/-- **A verdict was true when it was found.** Whatever other clients do meanwhile: if adding a
listener ends well, the listener is on its port when the last of its requests is answered. If it
ends in a conflict, another listener is there when one of its two requests is answered, unless the
listener itself is there at the first one and none at the second. -/
theorem verdict_was_true (m : Manager) (script : Script) (hopen : script.openError = none)
    (n : String) (l : Listener) {P : Provider} {t : List Exchange} {moments : List Provider}
    (htalk : converse (m.act script (.operate (.addListener (.text n) l))).requests script.replies =
      t.map Exchange.told)
    (hs : P.ServesAmong t moments) :
    let x := m.act script (.operate (.addListener (.text n) l))
    (∀ a, x.result = .ok a →
      ∃ M, moments.getLast? = some M ∧ M.listener? n l.frontend = some l) ∧
    ∀ e, x.result = .error e → e.failure.family? = some .conflict →
      ∃ M₁ M₂, moments = [M₁, M₂] ∧
        ((∃ M ∈ moments, ∃ k, M.listener? n l.frontend = some k ∧ k ≠ l) ∨
          M₁.listener? n l.frontend = some l ∧ M₂.listener? n l.frontend = none) := by
  intro x
  rcases hread : (Operation.addListener (.text n) l).read m.settings with r | i
  -- a name that does not pass is refused, and that is no conflict
  · have hx : x = _ := act_of_read_error hread
    rw [hx]
    refine ⟨fun a ha => ?_, fun e he hconflict => ?_⟩
    · cases ha
    · cases he; exact absurd hconflict r.family?_ne_conflict
  obtain ⟨name, hname, hi⟩ := bind_eq_ok_iff.mp hread
  cases (Name.check_eq_ok_iff.mp hname).1
  cases hi
  have hcourse : Course m.settings (.bind n l) t x.result := course_of_talk hread hopen htalk
  rcases hcourse.of_bind with ⟨v, rfl, hx⟩ | ⟨f, a, hf, rfl, hx⟩ | ⟨e, hx, hfamily⟩
  -- accepted
  · obtain ⟨Q, M, rest, rfl, -, hbind, hrest⟩ := Provider.servesAmong_cons_iff.mp hs
    obtain rfl := Provider.servesAmong_nil_iff.mp hrest
    rw [hx]
    exact ⟨fun a ha => ⟨M, rfl, Provider.listener?_of_accepted hbind⟩, fun e he => (by cases he)⟩
  -- settled: what is there at the second request decides
  · obtain ⟨Q, M₁, rest, rfl, -, hbind, hrest⟩ := Provider.servesAmong_cons_iff.mp hs
    obtain ⟨Q', M₂, rest, rfl, -, hdescribe, hrest⟩ := Provider.servesAmong_cons_iff.mp hrest
    obtain rfl := Provider.servesAmong_nil_iff.mp hrest
    obtain ⟨k, hk⟩ := Provider.listener?_of_duplicate hbind hf
    obtain ⟨hok, hconflict⟩ := Provider.verdict_of_answers hdescribe hx
    refine ⟨fun b hb => ⟨M₂, rfl, hok b hb⟩, fun e he hfamily => ⟨M₁, M₂, rfl, ?_⟩⟩
    have hother := hconflict e he hfamily
    rcases hsecond : M₂.listener? n l.frontend with _ | j
    · by_cases hkl : k = l
      · exact .inr ⟨hkl ▸ hk, rfl⟩
      · exact .inl ⟨M₁, .head _, k, hk, hkl⟩
    · refine .inl ⟨M₂, .tail _ (.head _), j, hsecond, ?_⟩
      rintro rfl
      exact hother hsecond
  -- failed, and told so
  · rw [hx]
    refine ⟨fun a ha => ?_, fun e' he hconflict => ?_⟩
    · cases ha
    · cases he; exact absurd hconflict hfamily

section Meanwhile

def refusedListener : RemoteFault :=
  .service ⟨some (.text "DuplicateListener"), some (.text "in use"),
    .text "CreateLoadBalancerListeners", none, rfl⟩

lemma refusedListener_says : refusedListener.Says .duplicateListener := ⟨_, rfl, _, .head _, rfl⟩

lemma act_bind_described {m : Manager} {n : String} (hn : Name.IsValid n) {l : Listener} {k : Held}
    {answer : Value} (hanswer : k.IsDescribedBy n answer) :
    let script : Script := ⟨[.error (.fault refusedListener), .ok answer], none, none⟩
    let x := m.act script (.operate (.addListener (.text n) l))
    converse x.requests script.replies =
        List.map Exchange.told [(.bind n l, .error refusedListener), (.describe n, .ok answer)] ∧
      x.result = if k.listeners l.frontend = some l then .ok .nothing
        else .error ⟨.conflict (.text n) l (.text refusedListener.message),
          some (.remote (.fault refusedListener))⟩ := by
  intro script x
  obtain ⟨d, hd, hshows⟩ := ofAnswer_of_describes hanswer
  have hsought : sought n (.ok answer) = .ok (some d) := by rw [sought, hd]; rfl
  have hreaches : m.connection.reaches script.openError = true := by
    simp [Connection.reaches, script]
  have hfirst : m.reply script = .error (.fault refusedListener) :=
    Connection.reply_of_reaches hreaches
  have hleft : (m.rest script).replies = [.ok answer] := if_pos hreaches
  have hsecond : (m.later script).reply (m.rest script) = .ok answer := by
    rw [reply, hleft]
    exact Connection.reply_of_reaches (Connection.reaches_after.trans hreaches)
  obtain ⟨hresult, hrequests⟩ := act_bind_duplicate (l := l) hn hfirst refusedListener_says
  rw [hsecond, Provider.verdict_of_shows hsought hshows] at hresult
  rw [hreaches, if_pos rfl] at hrequests
  exact ⟨by rw [hrequests]; rfl, hresult⟩

/-- Another listener is replaced before it is looked for. -/
theorem present_after_replacement :
    let l := Listener.forwarding .controlPlane
    let old : Listener := { l with backend := ⟨8080, by decide, by decide⟩ }
    let m := ofSettings ⟨.null, .null, .controlPlane, .standard⟩
    let described : Description.Report := ⟨"api-lb", "lb.example", [l], [], none⟩
    let script : Script := ⟨[.error (.fault refusedListener), .ok described.answer], none, none⟩
    let P : Provider := Provider.put (fun _ => none) "api-lb" (.new "lb.example" old)
    let x := m.act script (.operate (.addListener (.text "api-lb") l))
    P.listener? "api-lb" .controlPlane = some old ∧ x.result = .ok .nothing ∧
      ∃ t moments, converse x.requests script.replies = t.map Exchange.told ∧
        P.ServesAmong t moments ∧
        ∃ M, moments.getLast? = some M ∧ M.listener? "api-lb" .controlPlane = some l := by
  intro l old m described script P x
  let k := (Held.new "lb.example" old).unbind Port.controlPlane.toValue
  let Q := P.put "api-lb" k
  let R := Q.put "api-lb" (k.bind l)
  have hnew : (Held.new "lb.example" old).HasOnly old := fun _ => rfl
  have hclosed : k.IsClosed := (hnew.isClosed_unbind_iff .controlPlane).mpr rfl
  have honly : (k.bind l).HasOnly l := fun p => by simp only [Held.bind, hclosed p]
  have hP : P "api-lb" = some (.new "lb.example" old) := Function.update_self ..
  have hQ : Q "api-lb" = some k := Function.update_self ..
  have hR : R "api-lb" = some (k.bind l) := Function.update_self ..
  have hunbound : P.Answers (.unbind "api-lb" Port.controlPlane.toValue) (.ok (.record [])) Q :=
    .unbound hP
  have hbound : Q.Answers (.bind "api-lb" l) (.ok (.record [])) R :=
    .bound hQ fun j hj => by rw [hclosed] at hj; cases hj
  have hmoves : P.Moves R := .tail (.single ⟨_, _, hunbound⟩) ⟨_, _, hbound⟩
  have htold : (k.bind l).IsDescribedBy "api-lb" described.answer :=
    Held.isDescribedBy_answer (honly.isToldBy rfl rfl "api-lb")
  have hserves : P.ServesAmong [(.bind "api-lb" l, .error refusedListener),
      (.describe "api-lb", .ok described.answer)] [P, R] :=
    .cons .refl (.duplicate hP (hnew _) refusedListener_says)
      (.cons hmoves (.described hR htold) (.nil R))
  obtain ⟨htalk, hresult⟩ := act_bind_described (m := m) (n := "api-lb") (l := l) rfl htold
  rw [honly, if_pos rfl, if_pos rfl] at hresult
  exact ⟨(Provider.listener?_of_kept hP _).trans (hnew _), hresult, _, _, htalk, hserves,
    (verdict_was_true m script rfl "api-lb" l htalk hserves).1 _ hresult⟩

/-- The listener itself is refused as a duplicate, and is removed before it is looked for. No other
listener is ever there. -/
theorem conflict_without_other_listener :
    let l := Listener.forwarding .controlPlane
    let m := ofSettings ⟨.null, .null, .controlPlane, .standard⟩
    let described : Description.Report := ⟨"api-lb", "lb.example", [], [], none⟩
    let script : Script := ⟨[.error (.fault refusedListener), .ok described.answer], none, none⟩
    let P : Provider := Provider.put (fun _ => none) "api-lb" (.new "lb.example" l)
    let x := m.act script (.operate (.addListener (.text "api-lb") l))
    (∃ e, x.result = .error e ∧ e.failure.family? = some .conflict) ∧
      ∃ t moments, converse x.requests script.replies = t.map Exchange.told ∧
        P.ServesAmong t moments ∧
        ∀ M ∈ moments, ∀ k, M.listener? "api-lb" .controlPlane = some k → k = l := by
  intro l m described script P x
  let k := (Held.new "lb.example" l).unbind Port.controlPlane.toValue
  let Q := P.put "api-lb" k
  have hnew : (Held.new "lb.example" l).HasOnly l := fun _ => rfl
  have hclosed : k.IsClosed := (hnew.isClosed_unbind_iff .controlPlane).mpr rfl
  have hP : P "api-lb" = some (.new "lb.example" l) := Function.update_self ..
  have hQ : Q "api-lb" = some k := Function.update_self ..
  have hunbound : P.Answers (.unbind "api-lb" Port.controlPlane.toValue) (.ok (.record [])) Q :=
    .unbound hP
  have htold : k.IsDescribedBy "api-lb" described.answer :=
    Held.isDescribedBy_answer ⟨rfl, rfl, fun j => by simp [described, hclosed _],
      fun id => by simp [described, k, Held.unbind, Held.new], rfl⟩
  have hserves : P.ServesAmong [(.bind "api-lb" l, .error refusedListener),
      (.describe "api-lb", .ok described.answer)] [P, Q] :=
    .cons .refl (.duplicate hP (hnew _) refusedListener_says)
      (.cons (.single ⟨_, _, hunbound⟩) (.described hQ htold) (.nil Q))
  obtain ⟨htalk, hresult⟩ := act_bind_described (m := m) (n := "api-lb") (l := l) rfl htold
  rw [hclosed, if_neg (by simp)] at hresult
  refine ⟨⟨_, hresult, rfl⟩, _, _, htalk, hserves, ?_⟩
  rintro M (_ | ⟨_, _ | ⟨_, ⟨⟩⟩⟩) j hj
  · rw [Provider.listener?_of_kept hP, hnew] at hj
    exact (Option.some.inj hj).symm
  · rw [Provider.listener?_of_kept hQ, hclosed] at hj
    cases hj

end Meanwhile

end Manager

end Balancer
