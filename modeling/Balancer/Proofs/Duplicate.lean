import Balancer.Proofs.Course

/-!
Duplicates: what becomes of a listener that is refused because its port is taken.

The provider's own report decides: the last of its entries on the listener's port has to write that
listener, in whatever spelling. Main statements: which listener a description has on a port
(`listener?_eq_some_iff`), and what adding a listener comes to, for all answers
(`bind_settled_by_last_entry`).
-/

namespace Balancer

namespace Listener

/-! ### Entries of a report -/

def IsEntry (l : Listener) (entry : Value) : Prop :=
  ∃ w, entry.item "Listener" = .ok w ∧ l.IsWrittenAs w

def IsEntryOn (p : Port) (entry : Value) : Prop :=
  ∃ w v, entry.item "Listener" = .ok w ∧ w.item "LoadBalancerPort" = .ok v ∧
    v.toInteger = .ok (p.number : Int)

/-- The last one of the entries on a listener's port writes the listener. -/
def IsLastOf (l : Listener) (entries : List Value) : Prop :=
  ∃ before entry after, entries = before ++ entry :: after ∧ l.IsEntry entry ∧
    ∀ e ∈ after, ¬ IsEntryOn l.frontend e

def IsLastIn (l : Listener) (report : Value) : Prop :=
  ∃ entries, Description.itemsUnder report "ListenerDescriptions" = .ok entries ∧ l.IsLastOf entries

lemma isEntryOn_iff {l : Listener} {p : Port} {entry : Value} (h : l.IsEntry entry) :
    IsEntryOn p entry ↔ l.frontend = p := by
  obtain ⟨w, hw, ⟨v, hv, hint⟩, -, -, -⟩ := h
  constructor
  · rintro ⟨w', v', hw', hv', hint'⟩
    obtain rfl := Except.ok.inj (hw.symm.trans hw')
    obtain rfl := Except.ok.inj (hv.symm.trans hv')
    have hnumber : (l.frontend.number : Int) = p.number := Except.ok.inj (hint.symm.trans hint')
    cases hl : l.frontend
    cases p
    simpa [hl, Int.natCast_inj] using hnumber
  · rintro rfl
    exact ⟨w, v, hw, hv, hint⟩

lemma IsEntry.unique {l m : Listener} {entry : Value} (hl : l.IsEntry entry)
    (hm : m.IsEntry entry) : l = m := by
  obtain ⟨w, hw, hl⟩ := hl
  obtain ⟨w', hw', hm⟩ := hm
  obtain rfl := Except.ok.inj (hw.symm.trans hw')
  exact Except.ok.inj ((ofWire_eq_ok_iff.mpr hl).symm.trans (ofWire_eq_ok_iff.mpr hm))

lemma not_isLastOf_nil {l : Listener} : ¬ l.IsLastOf [] := by
  rintro ⟨before, entry, after, h, -⟩
  cases before <;> cases h

lemma isLastOf_cons {l : Listener} {entry : Value} {entries : List Value} :
    l.IsLastOf (entry :: entries) ↔
      l.IsLastOf entries ∨ l.IsEntry entry ∧ ∀ e ∈ entries, ¬ IsEntryOn l.frontend e := by
  constructor
  · rintro ⟨before, e, after, h, he, hafter⟩
    cases before with
    | nil => cases h; exact .inr ⟨he, hafter⟩
    | cons b before => cases h; exact .inl ⟨before, e, after, rfl, he, hafter⟩
  · rintro (⟨before, e, after, rfl, he, hafter⟩ | ⟨he, hafter⟩)
    · exact ⟨entry :: before, e, after, rfl, he, hafter⟩
    · exact ⟨[], entry, entries, rfl, he, hafter⟩

lemma find?_reverse_eq_some_iff {entries : List Value} {ls : List Listener} {l : Listener}
    (h : List.Forall₂ (fun e m => m.IsEntry e) entries ls) :
    (ls.reverse.find? fun m => m.frontend == l.frontend) = some l ↔ l.IsLastOf entries := by
  induction h with
  | nil => simpa using not_isLastOf_nil
  | @cons e m entries ls he hrest ih =>
    have hnone : (ls.reverse.find? fun m => m.frontend == l.frontend) = none ↔
        ∀ e ∈ entries, ¬ IsEntryOn l.frontend e := by
      clear ih
      induction hrest with
      | nil => simp
      | cons he' _ ih =>
        simp only [List.reverse_cons, List.find?_append, Option.or_eq_none_iff, ih,
          List.forall_mem_cons, isEntryOn_iff he']
        simp [and_comm]
    have hfirst : ([m].find? fun m => m.frontend == l.frontend) = some l ↔ l.IsEntry e := by
      rw [List.find?_singleton]
      constructor
      · intro h
        split at h
        · cases h; exact he
        · cases h
      · intro h
        obtain rfl := he.unique h
        simp
    rw [List.reverse_cons, List.find?_append, Option.or_eq_some_iff, ih, hnone, hfirst,
      isLastOf_cons]
    simp only [and_comm]

lemma conflictsWith_comm (a b : Listener) : a.conflictsWith b = b.conflictsWith a := by
  rw [Bool.eq_iff_iff, conflictsWith_iff, conflictsWith_iff, ne_comm, eq_comm]

lemma conflictsWith_iff_parts (a b : Listener) :
    a.conflictsWith b ↔ a.frontend = b.frontend ∧ (a.backend ≠ b.backend ∨
      a.protocol ≠ b.protocol ∨ a.instanceProtocol ≠ b.instanceProtocol) := by
  rw [conflictsWith_iff]
  cases a
  cases b
  grind

end Listener

/-! ### What an answer describes -/

namespace Description

/-- **The last entry counts**: a description has a listener on its port exactly if the last entry on
that port writes it. -/
theorem listener?_eq_some_iff {v : Value} {d : Description} (h : ofWire v = .ok d) {l : Listener} :
    d.listener? l.frontend.toValue = some l ↔ l.IsLastIn v := by
  obtain ⟨bound, hbound, hd⟩ := listeners_of_ofWire h
  simp only [readListeners, bind_eq_ok_iff] at hbound
  obtain ⟨entries, hentries, ls, hls, hfold⟩ := hbound
  cases hfold
  have hwritten : List.Forall₂ (fun e l => Listener.IsEntry l e) entries ls := by
    refine (mapM_eq_ok_iff.mp hls).imp fun e l he => ?_
    obtain ⟨w, hw, hl⟩ := bind_eq_ok_iff.mp he
    exact ⟨w, hw, Listener.ofWire_eq_ok_iff.mp hl⟩
  rw [listener?_eq_find? hd, Listener.find?_foldl_bind, Listener.find?_reverse_eq_some_iff hwritten]
  simp [Listener.IsLastIn, hentries]

end Description

/-! ### A refused listener -/

namespace Manager

variable {m : Manager} {script : Script} {n : String} {l : Listener} {f : RemoteFault}

lemma act_bind_accepted (hn : Name.IsValid n) {v : Value} (h : m.reply script = .ok v) :
    let x := m.act script (.operate (.addListener (.text n) l))
    x.result = .ok .nothing ∧ x.requests = [.bind n l] := by
  obtain ⟨i, hread, hi⟩ := (Mutates.addListener (s := m.settings) (l := l) hn).read_eq
  obtain ⟨k, hplan, -, hdone⟩ := Intent.isChange (s := m.settings) hi
  obtain ⟨entry, hentry⟩ := hdone v
  have hreaches : m.connection.reaches script.openError = true :=
    Connection.reaches_of_reply_ok h
  intro x
  have hx : x = _ := act_of_read_ok hread
  rw [hplan, Connection.run_call_ok h, hentry] at hx
  rw [hx, Execution.requests_preceded, Connection.requests_trace, if_pos hreaches]
  exact ⟨rfl, rfl⟩

lemma act_bind_duplicate (hn : Name.IsValid n) (hf : m.reply script = .error (.fault f))
    (h : f.Says .duplicateListener) :
    let x := m.act script (.operate (.addListener (.text n) l))
    x.result = (sought n ((m.later script).reply (m.rest script)) >>= Plan.verdict n l f) ∧
      x.requests =
        if m.connection.reaches script.openError then [.bind n l, .describe n] else [] := by
  intro x
  obtain ⟨hresult, hrequests⟩ := act_of_duplicate (.addListener (l := l) hn) hf h
  have hdescribe : ((m.later script).act (m.rest script) (.operate (.describe (.text n)))).result =
      _ := (act_question hn .describe).1
  constructor
  · rw [hdescribe] at hresult
    rcases hsought : sought n ((m.later script).reply (m.rest script)) with e | _ | d
    · rw [hsought] at hresult
      obtain ⟨e', he, hx⟩ | ⟨d, hd, -⟩ := hresult
      · cases he; exact hx
      · cases hd
    · rw [hsought] at hresult
      obtain ⟨e', he, hx⟩ | ⟨d, hd, -⟩ := hresult
      · cases he; exact hx
      · cases hd
    · rw [hsought] at hresult
      obtain ⟨e', he, -⟩ | ⟨d', hd, hx⟩ := hresult
      · cases he
      · cases hd
        obtain ⟨v, hv⟩ := ofWire_of_sought hsought
        rw [ok_bind, Plan.verdict_some hv]
        exact hx
  · have hagain : (m.later script).connection.reaches (m.rest script).openError =
        m.connection.reaches script.openError := Connection.reaches_after
    refine hrequests.trans ?_
    rw [sent, sent, hagain]
    split <;> rfl

lemma verdict_of_isFirstOf {v w : Value} {d : Description} (hw : Description.IsFirstOf w v)
    (hd : Description.ofWire w = .ok d) :
    (sought n (.ok v) >>= Plan.verdict n l f) = if d.listener? l.frontend.toValue = some l
      then .ok .nothing
      else .error ⟨.conflict (.text n) l (.text f.message), some (.remote (.fault f))⟩ := by
  rw [sought, Description.ofAnswer_eq_some_iff.mpr ⟨w, hw, hd⟩]
  exact Plan.verdict_some hd

/-- **The last entry on the port decides.** A listener that the provider accepts takes one request.
If it is refused as a duplicate, a description is asked for, once, and the listener is there already
exactly if the first description can be read and the last of its entries on the port writes that
listener. If another one is there, or none, it is a conflict, with the refusal as its reason and
cause. Whatever else comes back is what it would be for the description alone. -/
theorem bind_settled_by_last_entry (m : Manager) (script : Script) {n : String}
    (hn : Name.IsValid n) (l : Listener) :
    let x := m.act script (.operate (.addListener (.text n) l))
    let first := m.reply script
    let second := (m.later script).reply (m.rest script)
    (∀ v, first = .ok v → x.result = .ok .nothing ∧ x.requests = [.bind n l]) ∧
    (∀ f, first = .error (.fault f) → f.Says .duplicateListener →
      x.requests =
        (if m.connection.reaches script.openError then [.bind n l, .describe n] else []) ∧
      (x.result = .ok .nothing ↔ ∃ v w d, second = .ok v ∧ Description.IsFirstOf w v ∧
        Description.ofWire w = .ok d ∧ l.IsLastIn w) ∧
      (∀ v w d, second = .ok v → Description.IsFirstOf w v → Description.ofWire w = .ok d →
        ¬ l.IsLastIn w → x.result =
          .error ⟨.conflict (.text n) l (.text f.message), some (.remote (.fault f))⟩) ∧
      (Absent second → x.result = .error (.bare (.notFound (.text n)))) ∧
      (∀ g, second = .error (.fault g) → ¬ Absent second →
        ∃ e, x.result = .error e ∧ e.PassesOn (.describe n) g) ∧
      (∀ e, second = .error (.foreign e) → x.result = .error (.bare (.remote (.foreign e)))) ∧
      ∀ v, second = .ok v → ¬ Absent second →
        (∀ w d, Description.IsFirstOf w v → Description.ofWire w ≠ .ok d) →
        ∃ r, x.result = .error (.bare (.rejected r))) ∧
    ∀ a b : Listener, (a.conflictsWith b ↔ a.frontend = b.frontend ∧
      (a.backend ≠ b.backend ∨ a.protocol ≠ b.protocol ∨
        a.instanceProtocol ≠ b.instanceProtocol)) ∧
      a.conflictsWith b = b.conflictsWith a := by
  intro x first second
  refine ⟨fun v hv => act_bind_accepted hn hv, fun f hf hsays => ?_,
    fun a b => ⟨a.conflictsWith_iff_parts b, a.conflictsWith_comm b⟩⟩
  obtain ⟨hresult, hrequests⟩ := act_bind_duplicate (l := l) hn hf hsays
  change x.result = (sought n second >>= Plan.verdict n l f) at hresult
  have hread : ∀ v w d, second = .ok v → Description.IsFirstOf w v → Description.ofWire w = .ok d →
      x.result = if d.listener? l.frontend.toValue = some l then .ok .nothing
        else .error ⟨.conflict (.text n) l (.text f.message), some (.remote (.fault f))⟩ := by
    intro v w d hv hw hd
    rw [hresult, hv, verdict_of_isFirstOf hw hd]
  refine ⟨hrequests, ⟨?present, ?listed⟩, ?other, ?absent, ?passed, ?foreign, ?unread⟩
  case present =>
    intro hok
    obtain ⟨found, hfound, hverdict⟩ := bind_eq_ok_iff.mp (hresult.symm.trans hok)
    cases found with
    | none => cases hverdict
    | some d =>
      obtain ⟨v, w, hv, hw, hd⟩ := Description.sought_eq_some_iff.mp hfound
      refine ⟨v, w, d, hv, hw, hd, (Description.listener?_eq_some_iff hd).mp ?_⟩
      rw [Plan.verdict_some hd] at hverdict
      split at hverdict
      · assumption
      · cases hverdict
  case listed =>
    rintro ⟨v, w, d, hv, hw, hd, hlast⟩
    rw [hread v w d hv hw hd, if_pos ((Description.listener?_eq_some_iff hd).mpr hlast)]
  case other =>
    intro v w d hv hw hd hlast
    rw [hread v w d hv hw hd, if_neg (mt (Description.listener?_eq_some_iff hd).mp hlast)]
  case absent =>
    intro h
    rw [hresult, sought_eq_none_iff.mpr h]
    rfl
  case passed =>
    intro g hg hpresent
    rw [hg, absent_fault_iff] at hpresent
    refine ⟨_, ?_, Plan.passesOn_report (.describe n) g⟩
    rw [hresult, hg, sought, if_neg hpresent]
    rfl
  case foreign =>
    intro e he
    rw [hresult, he]
    rfl
  case unread =>
    intro v hv hpresent hnone
    rw [hv, ← ofAnswer_eq_none_iff] at hpresent
    rw [hresult, hv, sought]
    rcases hanswer : Description.ofAnswer v with r | _ | d
    · exact ⟨r, rfl⟩
    · exact absurd hanswer hpresent
    · obtain ⟨w, hw, hd⟩ := Description.ofAnswer_eq_some_iff.mp hanswer
      exact absurd hd (hnone w d hw)

/-- The last entry on the port is spelled in its own way, and is the listener that was asked for. -/
theorem present_of_last_entry :
    let f : RemoteFault := .service ⟨some (.text "DuplicateListener"), some (.text "in use"),
      .text "CreateLoadBalancerListeners", none, rfl⟩
    let m := ofSettings ⟨.null, .null, .controlPlane, .standard⟩
    let l : Listener := ⟨⟨443, by decide, by decide⟩, ⟨8443, by decide, by decide⟩, .tcp, .tcp⟩
    let entry := fun port instancePort protocol => Value.record [("Listener", .record
      [("LoadBalancerPort", port), ("InstancePort", instancePort), ("Protocol", .text protocol)])]
    let answer : Value := .record [("LoadBalancerDescriptions", .list [.record
      [("LoadBalancerName", .text "api-lb"), ("ListenerDescriptions", .list
        [entry (.int 443) (.int 80) "HTTP", entry (.text " 443") (.text "08443") "tcp",
          entry (.int 80) (.int 80) "HTTP"])]])]
    Name.IsValid "api-lb" ∧
      (m.act ⟨[.error (.fault f), .ok answer], none, none⟩
        (.operate (.addListener (.text "api-lb") l))).result = .ok .nothing := by
  intro f m l entry answer
  have hsays : f.Says .duplicateListener := ⟨_, rfl, _, .head _, rfl⟩
  have hlast : l.IsLastOf [entry (.int 443) (.int 80) "HTTP",
      entry (.text " 443") (.text "08443") "tcp", entry (.int 80) (.int 80) "HTTP"] := by
    refine ⟨[_], _, [_], rfl, ⟨_, rfl, ⟨_, rfl, rfl⟩, ⟨_, rfl, rfl⟩, ⟨_, rfl, rfl⟩, none, rfl,
      .inl ⟨rfl, rfl⟩⟩, ?_⟩
    rintro e (_ | ⟨_, ⟨⟩⟩) ⟨_, _, hw, hv, hport⟩
    cases hw
    cases hv
    cases hport
  obtain ⟨-, hduplicate, -⟩ := bind_settled_by_last_entry m
    ⟨[.error (.fault f), .ok answer], none, none⟩ (n := "api-lb") rfl l
  exact ⟨rfl, (hduplicate f rfl hsays).2.1.mpr
    ⟨answer, _, _, rfl, ⟨[], rfl⟩, rfl, _, rfl, hlast⟩⟩

end Manager

end Balancer
