import Balancer.Proofs.Provider

/-!
What operations come to where the provider keeps its promises.

The load balancers are those that the provider keeps, and each operation is one step on them: it
does what it is for, or is refused for a reason that the provider's state gives, or fails with the
fault that disturbed it. Main statement: so it is along every run, from whatever state the manager
and the provider are in (`run_refines`).
-/

namespace Balancer

/-- One operation on the load balancers that are kept: its talk with the provider, what it ends in,
and what is kept then. Without a fault that disturbs it, what is kept decides what it ends in. -/
inductive Provider.Performs (s : Settings) (P : Provider) :
    Intent → List Exchange → Except Raised Outcome → Provider → Prop
  | provisioned {n dnsName : String} {subnets : List String} {l : Listener} {t : List Exchange}
      (hfree : P n = none) (hregular : s.healthCheck.IsRegular) :
      P.Performs s (.provision n subnets l) t (.ok (.dnsName (.text dnsName)))
        (P.put n ((Held.new dnsName l).attach s.healthCheck hregular))
  | unmonitored {n dnsName : String} {subnets : List String} {l : Listener} {t : List Exchange}
      {f : RemoteFault} (hfree : P n = none) (ht : (.attach n s.healthCheck, .error f) ∈ t)
      (hf : (Request.attach n s.healthCheck).IsDisturbedBy f) :
      P.Performs s (.provision n subnets l) t
        (.error ⟨.healthCheck (.text n) (.text (f.code ++ ": " ++ f.message)) (.text f.code)
          (.text dnsName), some (.service (Plan.report (.attach n s.healthCheck) f))⟩)
        (P.put n (.new dnsName l))
  | taken {n : String} {subnets : List String} {l : Listener} {k : Held} {t : List Exchange}
      {f : RemoteFault} (hkept : P n = some k) (ht : (.create n subnets l, .error f) ∈ t)
      (hf : f.Says .duplicateName) :
      P.Performs s (.provision n subnets l) t
        (.error ⟨.provision (.text n) (.text ("Name already in use (" ++ f.message ++ ")"))
          (.text f.code), some (.service (Plan.report (.create n subnets l) f))⟩) P
  | uncreated {n : String} {subnets : List String} {l : Listener} {t : List Exchange}
      {f : RemoteFault} (ht : (.create n subnets l, .error f) ∈ t)
      (hf : (Request.create n subnets l).IsDisturbedBy f) :
      P.Performs s (.provision n subnets l) t
        (.error ⟨.provision (.text n) (.text (f.code ++ ": " ++ f.message)) (.text f.code),
          some (.service (Plan.report (.create n subnets l) f))⟩) P
  | missing {i : Intent} {q : Request} {t : List Exchange} (hq : i.change? = some q)
      (hfree : P q.balancer = none) :
      P.Performs s i t (.error (.bare (.notFound (.text q.balancer)))) P
  | attached {n : String} {h : HealthCheck} {k : Held} {t : List Exchange} (hkept : P n = some k)
      (hregular : h.IsRegular) :
      P.Performs s (.attach n h) t (.ok .nothing) (P.put n (k.attach h hregular))
  | unattached {n : String} {h : HealthCheck} {t : List Exchange} {f : RemoteFault}
      (ht : (.attach n h, .error f) ∈ t) (hf : (Request.attach n h).IsDisturbedBy f) :
      P.Performs s (.attach n h) t
        (.error ⟨.healthCheck (.text n) (.text (f.code ++ ": " ++ f.message)) (.text f.code) .null,
          some (.service (Plan.report (.attach n h) f))⟩) P
  | bound {n : String} {l : Listener} {k : Held} {t : List Exchange} (hkept : P n = some k)
      (hport : ∀ m, k.listeners l.frontend = some m → m = l) :
      P.Performs s (.bind n l) t (.ok .nothing) (P.put n (k.bind l))
  | conflict {n : String} {l m : Listener} {k : Held} {t : List Exchange} {f : RemoteFault}
      (hkept : P n = some k) (hport : k.listeners l.frontend = some m) (hne : m ≠ l)
      (ht : (.bind n l, .error f) ∈ t) (hf : f.Says .duplicateListener) :
      P.Performs s (.bind n l) t
        (.error ⟨.conflict (.text n) l (.text f.message), some (.remote (.fault f))⟩) P
  | unsettled {n : String} {l m : Listener} {k : Held} {t : List Exchange} {f : RemoteFault}
      (hkept : P n = some k) (hport : k.listeners l.frontend = some m)
      (ht : (.describe n, .error f) ∈ t) (hf : (Request.describe n).IsDisturbedBy f) :
      P.Performs s (.bind n l) t
        (.error ⟨.service (Plan.report (.describe n) f), some (.remote (.fault f))⟩) P
  | unbound {n : String} {port : Value} {k : Held} {t : List Exchange} (hkept : P n = some k) :
      P.Performs s (.unbind n port) t (.ok .nothing) (P.put n (k.unbind port))
  | registered {n : String} {ids : List String} {k : Held} {t : List Exchange}
      (hkept : P n = some k) :
      P.Performs s (.register n ids) t (.ok .nothing) (P.put n (k.register ids))
  | deregistered {n : String} {ids : List String} {k : Held} {t : List Exchange}
      (hkept : P n = some k) :
      P.Performs s (.deregister n ids) t (.ok .nothing) (P.put n (k.deregister ids))
  | skipped {n : String} {i : Intent} (hi : i = .register n [] ∨ i = .deregister n []) :
      P.Performs s i [] (.ok .nothing) P
  | disturbed {i : Intent} {q : Request} {t : List Exchange} {f : RemoteFault}
      (hq : i.change? = some q) (hne : ∀ n h, q ≠ .attach n h) (ht : (q, .error f) ∈ t)
      (hf : q.IsDisturbedBy f) :
      P.Performs s i t (.error ⟨.service (Plan.report q f), some (.remote (.fault f))⟩) P
  | found (b : Question) {n : String} {k : Held} {d : Description} {t : List Exchange}
      (hkept : P n = some k) (hd : d.Shows n k) :
      P.Performs s (b.intent n) t (b.answer n (some d)) P
  | notFound (b : Question) {n : String} {t : List Exchange} (hfree : P n = none) :
      P.Performs s (b.intent n) t (b.answer n none) P
  | unanswered (b : Question) {n : String} {t : List Exchange} {f : RemoteFault}
      (ht : (.describe n, .error f) ∈ t) (hf : (Request.describe n).IsDisturbedBy f) :
      P.Performs s (b.intent n) t
        (.error ⟨.service (Plan.report (.describe n) f), some (.remote (.fault f))⟩) P

inductive Provider.Steps (s : Settings) (P : Provider) :
    Action → List Exchange → Except Raised Outcome → Provider → Prop
  | refused {o : Operation} {r : Rejection} (h : o.read s = .error r) :
      P.Steps s (.operate o) [] (.error (.bare (.rejected r))) P
  | performed {o : Operation} {i : Intent} {t : List Exchange} {r : Except Raised Outcome}
      {Q : Provider} (h : o.read s = .ok i) (hstep : P.Performs s i t r Q) :
      P.Steps s (.operate o) t r Q
  | closed : P.Steps s .close [] (.ok .nothing) P
  | unclosed (e : RemoteError) : P.Steps s .close [] (.error (.bare (.remote e))) P

/-! ### One operation -/

lemma Intent.isForeignTo_iff {i : Intent} {q : Request} {f : RemoteFault}
    (hq : i.change? = some q) : q.IsDisturbedBy f ↔ q.IsForeignTo f := by
  cases q with
  | create n subnets l => exact (Intent.eq_of_change? hq).elim
  | _ => rfl

namespace Provider

variable {s : Settings} {P Q : Provider} {t : List Exchange}

lemma performs_of_refused {n : String} {subnets : List String} {l : Listener} {f : RemoteFault}
    (hs : P.Answers (.create n subnets l) (.error f) Q)
    (ht : (.create n subnets l, .error f) ∈ t) :
    P.Performs s (.provision n subnets l) t
      (.error ⟨.provision (.text n) (.text (Plan.refusal f)) (.text f.code),
        some (.service (Plan.report (.create n subnets l) f))⟩) Q := by
  cases hs with
  | taken hkept hf =>
    rw [Plan.refusal, if_pos hf.kind_eq]
    exact .taken hkept ht hf
  | missing hq hfree hf => exact absurd rfl (hq n subnets l)
  | disturbed hf =>
    have hkind : f.kind ≠ .duplicateName := by
      rw [Ne, RemoteFault.kind_eq_iff (by decide)]
      exact hf
    rw [Plan.refusal, if_neg hkind]
    exact .uncreated ht hf

lemma performs_of_monitored {n dnsName : String} {subnets : List String} {l : Listener} {v : Value}
    (hfree : P n = none)
    (hs : (P.put n (.new dnsName l)).Answers (.attach n s.healthCheck) (.ok v) Q) :
    P.Performs s (.provision n subnets l) t (.ok (.dnsName (.text dnsName))) Q := by
  cases hs with
  | attached hkept hregular =>
    rw [put, Function.update_self] at hkept
    obtain rfl := Option.some.inj hkept
    rw [put, put, Function.update_idem]
    exact .provisioned hfree hregular

lemma performs_of_unmonitored {n dnsName : String} {subnets : List String} {l : Listener}
    {f : RemoteFault} (hfree : P n = none)
    (hs : (P.put n (.new dnsName l)).Answers (.attach n s.healthCheck) (.error f) Q)
    (ht : (.attach n s.healthCheck, .error f) ∈ t) :
    P.Performs s (.provision n subnets l) t
      (.error ⟨.healthCheck (.text n) (.text (f.code ++ ": " ++ f.message)) (.text f.code)
        (.text dnsName), some (.service (Plan.report (.attach n s.healthCheck) f))⟩) Q := by
  cases hs with
  | missing hq hnone hf =>
    rw [put, Request.balancer, Function.update_self] at hnone
    cases hnone
  | disturbed hf => exact .unmonitored hfree ht hf

lemma performs_of_changed {i : Intent} {q : Request} {v : Value} (hq : i.change? = some q)
    (hs : P.Answers q (.ok v) Q) : P.Performs s i t (.ok .nothing) Q := by
  cases hs with
  | created hfree hv => exact (Intent.eq_of_change? hq).elim
  | attached hkept hregular =>
    obtain rfl : i = .attach _ _ := Intent.eq_of_change? hq
    exact .attached hkept hregular
  | bound hkept hport =>
    obtain rfl : i = .bind _ _ := Intent.eq_of_change? hq
    exact .bound hkept hport
  | unbound hkept =>
    obtain rfl : i = .unbind _ _ := Intent.eq_of_change? hq
    exact .unbound hkept
  | registered hkept =>
    obtain rfl : i = .register _ _ := Intent.eq_of_change? hq
    exact .registered hkept
  | deregistered hkept =>
    obtain rfl : i = .deregister _ _ := Intent.eq_of_change? hq
    exact .deregistered hkept
  | described hkept hv => exact (Intent.eq_of_change? hq).elim
  | unlisted hfree hv => exact (Intent.eq_of_change? hq).elim

lemma performs_of_absent {i : Intent} {q : Request} {f : RemoteFault} (hq : i.change? = some q)
    (hf : f.Says .balancerNotFound) (hs : P.Answers q (.error f) Q) :
    P.Performs s i t (.error (.bare (.notFound (.text q.balancer)))) Q := by
  cases hs with
  | taken hkept hf' => cases hf.unique hf'
  | duplicate hkept hport hf' => cases hf.unique hf'
  | unheard hkept hport hf' => cases hf.unique hf'
  | missing _ hfree _ => exact .missing hq hfree
  | disturbed hf' => exact absurd hf ((Intent.isForeignTo_iff hq).mp hf').1

lemma performs_of_moot {i : Intent} {q : Request} {f : RemoteFault} (hq : i.change? = some q)
    (hf : q.IsMoot f) (hs : P.Answers q (.error f) Q) : P.Performs s i t (.ok .nothing) Q := by
  obtain ⟨⟨n, port, rfl⟩, hcode⟩ := hf
  obtain rfl : i = .unbind n port := Intent.eq_of_change? hq
  cases hs with
  | @unheard _ _ k _ hkept hport _ =>
    have hsame : P.put n (k.unbind port) = P := by
      rw [Held.unbind_eq_self hport, put_eq_self hkept]
    have hdone : P.Performs s (.unbind n port) t (.ok .nothing) (P.put n (k.unbind port)) :=
      .unbound hkept
    rwa [hsame] at hdone
  | missing _ hfree hf' => cases hcode.unique hf'
  | disturbed hf' => exact absurd ⟨⟨n, port, rfl⟩, hcode⟩ hf'.2.1

lemma isDisturbedBy_of_foreign {i : Intent} {q : Request} {f : RemoteFault}
    (hq : i.change? = some q) (hf : q.IsForeignTo f) (hs : P.Answers q (.error f) Q) :
    Q = P ∧ q.IsDisturbedBy f :=
  ⟨by cases hs <;> rfl, (Intent.isForeignTo_iff hq).mpr hf⟩

lemma sought_of_answers {n : String} {a : Answer} (hs : P.Answers (.describe n) a Q) :
    Q = P ∧
      ((∃ k d, P n = some k ∧ d.Shows n k ∧ sought n a.told = .ok (some d)) ∨
        (P n = none ∧ sought n a.told = .ok none) ∨
        ∃ f, a = .error f ∧ (Request.describe n).IsDisturbedBy f ∧
          sought n a.told =
            .error ⟨.service (Plan.report (.describe n) f), some (.remote (.fault f))⟩) := by
  cases hs with
  | @described _ k v hkept hv =>
    obtain ⟨d, hd, hshows⟩ := ofAnswer_of_describes hv
    refine ⟨rfl, .inl ⟨k, d, hkept, hshows, ?_⟩⟩
    rw [Answer.told_ok, sought, hd]
    rfl
  | missing _ hfree hf =>
    refine ⟨rfl, .inr (.inl ⟨hfree, ?_⟩)⟩
    rw [Answer.told_error, sought, if_pos hf.kind_eq]
  | unlisted hfree hv => exact ⟨rfl, .inr (.inl ⟨hfree, sought_eq_none_iff.mpr hv⟩)⟩
  | @disturbed _ f hf =>
    have hkind : f.kind ≠ .balancerNotFound := by
      rw [Ne, RemoteFault.kind_eq_iff (by decide)]
      exact hf.1
    refine ⟨rfl, .inr (.inr ⟨f, rfl, hf, ?_⟩)⟩
    rw [Answer.told_error, sought, if_neg hkind]

lemma performs_of_asked {n : String} {a : Answer} (b : Question)
    (hs : P.Answers (.describe n) a Q) :
    P.Performs s (b.intent n) [(.describe n, a)] (sought n a.told >>= b.answer n) Q := by
  obtain ⟨rfl, ⟨k, d, hkept, hshows, hsought⟩ | ⟨hfree, hsought⟩ | ⟨f, rfl, hf, hsought⟩⟩ :=
    sought_of_answers hs
  · rw [hsought]
    exact .found b hkept hshows
  · rw [hsought]
    exact .notFound b hfree
  · rw [hsought]
    exact .unanswered b (.head _) hf

lemma verdict_of_shows {n : String} {l : Listener} {f : RemoteFault} {d : Description} {k : Held}
    {reply : Except RemoteError Value} (hsought : sought n reply = .ok (some d))
    (hshows : d.Shows n k) :
    (sought n reply >>= Plan.verdict n l f) = if k.listeners l.frontend = some l then .ok .nothing
      else .error ⟨.conflict (.text n) l (.text f.message), some (.remote (.fault f))⟩ := by
  obtain ⟨v, hv⟩ := ofWire_of_sought hsought
  rw [hsought, ok_bind, Plan.verdict_some hv, hshows.listener]

/-- A listener that is refused as a duplicate is a success exactly if it is there already. -/
lemma performs_of_settled {n : String} {l : Listener} {f : RemoteFault} {a : Answer}
    {R : Provider} (hf : f.Says .duplicateListener) (hs : P.Answers (.bind n l) (.error f) Q)
    (hs' : Q.Answers (.describe n) a R) :
    P.Performs s (.bind n l) [(.bind n l, .error f), (.describe n, a)]
      (sought n a.told >>= Plan.verdict n l f) R := by
  cases hs with
  | missing _ hfree hf' => cases hf.unique hf'
  | disturbed hf' => exact absurd ⟨⟨n, l, rfl⟩, hf⟩ hf'.2.2
  | @duplicate _ _ m k _ hkept hport _ =>
    obtain ⟨rfl, ⟨k', d, hkept', hshows, hsought⟩ | ⟨hfree, -⟩ | ⟨g, rfl, hg, hsought⟩⟩ :=
      sought_of_answers hs'
    · obtain rfl := Option.some.inj (hkept.symm.trans hkept')
      rw [verdict_of_shows hsought hshows, hport]
      by_cases hne : m = l
      · obtain rfl := hne
        have hsame : R.put n (k.bind m) = R := by
          rw [Held.bind_eq_self hport, put_eq_self hkept]
        have hdone : R.Performs s (.bind n m) [(.bind n m, .error f), (.describe n, a)]
            (.ok .nothing) (R.put n (k.bind m)) :=
          .bound hkept fun m' hm' => Option.some.inj (hm'.symm.trans hport)
        rw [if_pos rfl]
        rwa [hsame] at hdone
      · rw [if_neg (by simpa using hne)]
        exact .conflict hkept hport hne (.head _) hf
    · rw [hkept] at hfree
      cases hfree
    · rw [hsought]
      exact .unsettled hkept hport (.tail _ (.head _)) hg

/-- **Every course of an operation is a step**, whatever the provider answers. -/
theorem performs_of_course {i : Intent} {r : Except Raised Outcome} (h : Course s i t r)
    (hs : P.Serves t Q) : P.Performs s i t r Q := by
  cases h with
  | refused =>
    obtain _ | ⟨hs, ⟨⟩⟩ := hs
    exact performs_of_refused hs (.head _)
  | unnamed hv =>
    obtain _ | ⟨hs, ⟨⟩⟩ := hs
    cases hs with
    | created hfree hitem => rw [Plan.named_of_item hitem] at hv; cases hv
  | provisioned hv =>
    obtain _ | ⟨hs, _ | ⟨hs', ⟨⟩⟩⟩ := hs
    cases hs with
    | created hfree hitem =>
      rw [Plan.named_of_item hitem] at hv
      cases hv
      exact performs_of_monitored hfree hs'
  | unmonitored hv =>
    obtain _ | ⟨hs, _ | ⟨hs', ⟨⟩⟩⟩ := hs
    cases hs with
    | created hfree hitem =>
      rw [Plan.named_of_item hitem] at hv
      cases hv
      rw [Plan.unchecked_text]
      exact performs_of_unmonitored hfree hs' (.tail _ (.head _))
  | changed hq =>
    obtain _ | ⟨hs, ⟨⟩⟩ := hs
    exact performs_of_changed hq hs
  | absent hq hf =>
    obtain _ | ⟨hs, ⟨⟩⟩ := hs
    exact performs_of_absent hq hf hs
  | moot hq hf =>
    obtain _ | ⟨hs, ⟨⟩⟩ := hs
    exact performs_of_moot hq hf hs
  | settled hf =>
    obtain _ | ⟨hs, _ | ⟨hs', ⟨⟩⟩⟩ := hs
    exact performs_of_settled hf hs hs'
  | @unattached n check f hf =>
    obtain _ | ⟨hs, ⟨⟩⟩ := hs
    have hq : (Intent.attach n check).change? = some (.attach n check) := rfl
    obtain ⟨rfl, hf⟩ := isDisturbedBy_of_foreign hq hf hs
    exact .unattached (.head _) hf
  | troubled hq hne hf =>
    obtain _ | ⟨hs, ⟨⟩⟩ := hs
    obtain ⟨rfl, hf⟩ := isDisturbedBy_of_foreign hq hf hs
    exact .disturbed hq hne (.head _) hf
  | skipped hi =>
    cases hs
    exact .skipped hi
  | asked b =>
    obtain _ | ⟨hs, ⟨⟩⟩ := hs
    exact performs_of_asked b hs

/-- The provider has its part in what happens: it answers the requests as it may, and the script
gives its answers. -/
def Hosts (P : Provider) (step : Action × Script) (x : Execution Outcome) (t : List Exchange)
    (Q : Provider) : Prop :=
  converse x.requests step.2.replies = t.map Exchange.told ∧ P.Serves t Q

/-- Along a run, from one state of the provider to the next: what is asked, what happens, and what
is talked. -/
inductive Along
    (R : Provider → Action × Script → Execution Outcome → List Exchange → Provider → Prop) :
    Provider → List (Action × Script) → List (Execution Outcome) → List (List Exchange) →
      Provider → Prop
  | nil (P : Provider) : Along R P [] [] [] P
  | cons {P Q U : Provider} {step : Action × Script} {steps : List (Action × Script)}
      {x : Execution Outcome} {xs : List (Execution Outcome)} {t : List Exchange}
      {ts : List (List Exchange)} (h : R P step x t Q) (hrest : Along R Q steps xs ts U) :
      Along R P (step :: steps) (x :: xs) (t :: ts) U

end Provider

namespace Manager

variable {m : Manager} {script : Script}

/-- One thing that a manager does is one step. -/
theorem act_steps {P Q : Provider} {a : Action} {t : List Exchange}
    (hopen : script.openError = none) (h : P.Hosts (a, script) (m.act script a) t Q) :
    P.Steps m.settings a t (m.act script a).result Q := by
  obtain ⟨htalk, hs⟩ := h
  cases a with
  | close =>
    rw [requests_close] at htalk
    obtain rfl : t = [] := List.map_eq_nil_iff.mp htalk.symm
    cases hs
    rcases @result_close m script with hresult | ⟨e, hresult⟩
    · rw [hresult]
      exact .closed
    · rw [hresult]
      exact .unclosed e
  | operate o =>
    rcases hread : o.read m.settings with r | i
    · rw [act_of_read_error hread] at htalk ⊢
      obtain rfl : t = [] := List.map_eq_nil_iff.mp htalk.symm
      cases hs
      exact .refused hread
    · exact .performed hread (Provider.performs_of_course (course_of_talk hread hopen htalk) hs)

/-- **Every run refines the load balancers that are kept.** -/
theorem run_refines (m : Manager) (steps : List (Action × Script))
    (hopen : ∀ step ∈ steps, step.2.openError = none) {P U : Provider}
    {ts : List (List Exchange)}
    (h : Provider.Along Provider.Hosts P steps (m.runAll steps).1 ts U) :
    Provider.Along (fun P step x t Q => P.Steps m.settings step.1 t x.result Q) P steps
      (m.runAll steps).1 ts U := by
  induction steps generalizing m P ts with
  | nil =>
    cases h
    exact .nil _
  | cons step rest ih =>
    obtain ⟨a, script⟩ := step
    cases h with
    | cons hfirst hrest =>
      exact .cons (act_steps (hopen _ List.mem_cons_self) hfirst)
        (ih _ (fun step hstep => hopen step (List.mem_cons_of_mem _ hstep)) hrest)

/-- A load balancer that is created and hidden again is kept without its listener. -/
theorem refines_of_hidden :
    let m := ofSettings ⟨.null, .null, .controlPlane, .standard⟩
    let created := Value.record [("DNSName", .text "lb.example")]
    let steps : List (Action × Script) :=
      [(.operate (.provision (.text "api-lb") (.list [.text "subnet-1"]) (.int 6443)),
        ⟨[.ok created, .ok (.record [])], none, none⟩),
      (.operate (.setPrivate (.text "api-lb")), ⟨[.ok (.record [])], none, none⟩),
      (.close, ⟨[], none, none⟩)]
    ∃ ts U, Provider.Along (fun P step x t Q => P.Steps m.settings step.1 t x.result Q)
        (fun _ => none) steps (m.runAll steps).1 ts U ∧
      ∃ k, U "api-lb" = some k ∧ k.listeners .controlPlane = none := by
  intro m created steps
  have hregular : HealthCheck.standard.IsRegular :=
    ⟨.text "HTTP", .int 6443, "/", 30, 3, 2, 2, rfl⟩
  let k := (Held.new "lb.example" (.forwarding .controlPlane)).attach .standard hregular
  have hrun : Provider.Along Provider.Hosts (fun _ => none) steps (m.runAll steps).1
      [[(.create "api-lb" ["subnet-1"] (.forwarding .controlPlane), .ok created),
          (.attach "api-lb" .standard, .ok (.record []))],
        [(.unbind "api-lb" (.int 6443), .ok (.record []))], []]
      (((Provider.put (fun _ => none) "api-lb"
        (Held.new "lb.example" (.forwarding .controlPlane))).put "api-lb" k).put "api-lb"
          (k.unbind (.int 6443))) :=
    .cons ⟨rfl, .cons (.created rfl rfl) (.cons (.attached (Function.update_self ..) hregular)
      (.nil _))⟩ (.cons ⟨rfl, .cons (.unbound (Function.update_self ..)) (.nil _)⟩
        (.cons ⟨rfl, .nil _⟩ (.nil _)))
  have hopen : ∀ step ∈ steps, step.2.openError = none := by
    simp [steps]
  exact ⟨_, _, run_refines m steps hopen hrun, _, Function.update_self .., rfl⟩

end Manager

end Balancer
