import Balancer.Proofs.Absence
import Balancer.Proofs.Target
import Mathlib.Data.List.Forall2

/-!
Decoding: what a description holds, by what the provider reports.

Main statements: which values write a listener (`Listener.ofWire_eq_ok_iff`), which answers describe
a load balancer (`ofAnswer_eq_some_iff`), and that a report is described as it is
(`ofWire_of_tells`).
-/

namespace Balancer

lemma mapM_eq_ok_iff {ε α β : Type} {f : α → Except ε β} {as : List α} {bs : List β} :
    as.mapM f = .ok bs ↔ List.Forall₂ (fun a b => f a = .ok b) as bs := by
  induction as generalizing bs with
  | nil => cases bs <;> simp [pure, Except.pure]
  | cons a as ih =>
    rw [List.mapM_cons, bind_eq_ok_iff]
    simp only [bind_eq_ok_iff, ih]
    constructor
    · rintro ⟨b, hb, bs, hbs, h⟩
      cases h
      exact .cons hb hbs
    · rintro (_ | ⟨hb, hbs⟩)
      exact ⟨_, hb, _, hbs, rfl⟩

lemma Value.get?_of_item {v w : Value} {key : String} (h : v.item key = .ok w) :
    v.get? key = .ok (some w) := by
  cases v with
  | record fields =>
    simp only [Value.item] at h
    split at h
    · next hfield => cases h; simp [Value.get?, hfield]
    · cases h
  | _ => cases h

/-! ### Listeners -/

namespace Protocol

lemma ofText?_eq_some_iff {s : String} {p : Protocol} :
    ofText? s = some p ↔ Text.capitals s = p.name := by
  constructor
  · intro h
    have hname := List.find?_some h
    exact (beq_iff_eq.mp hname).symm
  · intro h
    rw [ofText?, h]
    cases p <;> rfl

lemma check_eq_ok_iff {v : Value} {p : Protocol} :
    check v = .ok p ↔ ∃ s, v = .text s ∧ Text.capitals s = p.name := by
  cases v with
  | text s =>
    simp only [check, Value.text.injEq, exists_eq_left', ← ofText?_eq_some_iff]
    cases ofText? s <;> simp
  | _ => simp [check, misuse]

lemma capitals_name (p : Protocol) : Text.capitals p.name = p.name := by
  cases p <;> rfl

lemma isGiven_of_capitals {s : String} {p : Protocol} (h : Text.capitals s = p.name) :
    (Value.text s).isGiven = true := by
  rw [Value.isGiven, Bool.not_eq_true', ← Bool.not_eq_true, String.isEmpty_iff]
  rintro rfl
  revert h
  cases p <;> decide

end Protocol

lemma Port.check_int_eq_ok_iff {field : Value} {n : Int} {p : Port} :
    check field (.int n) = .ok p ↔ n = p.number := by
  rw [← ofInt?_eq_some_iff, check]
  cases ofInt? n <;> simp

namespace Listener

/-- A value writes a listener: its ports are any numbers or numerals, and its protocols are spelled
in any letter case. The one towards the instances may be left out or empty if it is the same. -/
structure IsWrittenAs (l : Listener) (v : Value) : Prop where
  frontend : ∃ w, v.item "LoadBalancerPort" = .ok w ∧ w.toInteger = .ok (l.frontend.number : Int)
  backend : ∃ w, v.item "InstancePort" = .ok w ∧ w.toInteger = .ok (l.backend.number : Int)
  protocol : ∃ s, v.item "Protocol" = .ok (.text s) ∧ Text.capitals s = l.protocol.name
  instanceProtocol : ∃ w, v.get? "InstanceProtocol" = .ok w ∧
    ((Value.ofOption w).isGiven = false ∧ l.instanceProtocol = l.protocol ∨
      ∃ s, w = some (.text s) ∧ Text.capitals s = l.instanceProtocol.name)

lemma towards_eq_ok_iff {w : Value} {k : Option Protocol → Checked Listener} {l : Listener} :
    (if w.isGiven then (some <$> Protocol.check w) >>= k else pure none >>= k) = .ok l ↔
      w.isGiven = false ∧ k none = .ok l ∨
        ∃ s p, w = .text s ∧ Text.capitals s = p.name ∧ k (some p) = .ok l := by
  by_cases hgiven : w.isGiven = true
  · rw [if_pos hgiven]
    constructor
    · intro h
      rcases hcheck : Protocol.check w with r | p
      · rw [hcheck] at h; cases h
      · rw [hcheck] at h
        obtain ⟨s, hs, hname⟩ := Protocol.check_eq_ok_iff.mp hcheck
        exact .inr ⟨s, p, hs, hname, h⟩
    · rintro (⟨hnot, -⟩ | ⟨s, p, hs, hname, h⟩)
      · rw [hgiven] at hnot; cases hnot
      · rw [Protocol.check_eq_ok_iff.mpr ⟨s, hs, hname⟩]
        exact h
  · rw [if_neg hgiven]
    constructor
    · intro h
      exact .inl ⟨Bool.eq_false_iff.mpr hgiven, h⟩
    · rintro (⟨-, h⟩ | ⟨s, p, rfl, hname, -⟩)
      · exact h
      · exact absurd (Protocol.isGiven_of_capitals hname) hgiven

lemma ofParts_int_eq_ok_iff {m n : Int} {p : Protocol} {q : Option Protocol} {l : Listener} :
    ofParts (.int m) (.int n) p.toValue (Value.ofOption (q.map Protocol.toValue)) = .ok l ↔
      m = l.frontend.number ∧ n = l.backend.number ∧ p = l.protocol ∧
        q.getD p = l.instanceProtocol := by
  have htowards : (Value.ofOption (q.map Protocol.toValue)).orElse p.toValue =
      (q.getD p).toValue := by
    rcases q with _ | q
    · rfl
    · cases q <;> rfl
  simp only [ofParts, bind_eq_ok_iff, Port.check_int_eq_ok_iff]
  constructor
  · rintro ⟨frontend, hf, backend, hb, protocol, hp, towards, ht, h⟩
    rw [Protocol.check_toValue] at hp
    obtain rfl := Except.ok.inj hp
    rw [htowards, Protocol.check_toValue] at ht
    cases h
    exact ⟨hf, hb, rfl, Except.ok.inj ht⟩
  · rintro ⟨hf, hb, rfl, ht⟩
    refine ⟨_, hf, _, hb, _, Protocol.check_toValue _, l.instanceProtocol, ?_, rfl⟩
    rw [htowards, Protocol.check_toValue, ht]

/-- **What is read is what is written.** -/
theorem ofWire_eq_ok_iff {l : Listener} {v : Value} : ofWire v = .ok l ↔ l.IsWrittenAs v := by
  simp only [ofWire, bind_eq_ok_iff, ofParts_int_eq_ok_iff, Protocol.check_eq_ok_iff,
    towards_eq_ok_iff]
  constructor
  · rintro ⟨a, ha, _, hm, b, hb, _, hn, c, hc, _, ⟨s, rfl, hs⟩, w, hw, h⟩
    rcases h with ⟨hgiven, rfl, rfl, rfl, hsame⟩ | ⟨t, p, ht, hname, rfl, rfl, rfl, rfl⟩
    · exact ⟨⟨a, ha, hm⟩, ⟨b, hb, hn⟩, ⟨s, hc, hs⟩, w, hw, .inl ⟨hgiven, hsame.symm⟩⟩
    · refine ⟨⟨a, ha, hm⟩, ⟨b, hb, hn⟩, ⟨s, hc, hs⟩, w, hw, .inr ⟨t, ?_, hname⟩⟩
      cases w with
      | none => cases ht
      | some w => exact congrArg some ht
  · rintro ⟨⟨a, ha, hm⟩, ⟨b, hb, hn⟩, ⟨s, hc, hs⟩, w, hw, hq⟩
    refine ⟨a, ha, _, hm, b, hb, _, hn, _, hc, _, ⟨s, rfl, hs⟩, w, hw, ?_⟩
    rcases hq with ⟨hgiven, hsame⟩ | ⟨t, rfl, hname⟩
    · exact .inl ⟨hgiven, rfl, rfl, rfl, hsame.symm⟩
    · exact .inr ⟨t, _, rfl, hname, rfl, rfl, rfl, rfl⟩

/-- A value holds a listener in the provider's form, whatever else it holds. -/
structure Tells (l : Listener) (v : Value) : Prop where
  frontend : v.item "LoadBalancerPort" = .ok l.frontend.toValue
  backend : v.item "InstancePort" = .ok l.backend.toValue
  protocol : v.item "Protocol" = .ok l.protocol.toValue
  instanceProtocol : v.item "InstanceProtocol" = .ok l.instanceProtocol.toValue

lemma tells_toWire (l : Listener) : l.Tells l.toWire := ⟨rfl, rfl, rfl, rfl⟩

lemma isWrittenAs_of_tells {l : Listener} {v : Value} (h : l.Tells v) : l.IsWrittenAs v where
  frontend := ⟨_, h.frontend, rfl⟩
  backend := ⟨_, h.backend, rfl⟩
  protocol := ⟨_, h.protocol, l.protocol.capitals_name⟩
  instanceProtocol := ⟨_, Value.get?_of_item h.instanceProtocol,
    .inr ⟨_, rfl, l.instanceProtocol.capitals_name⟩⟩

/-- **A listener survives the wire.** -/
theorem ofWire_of_tells {l : Listener} {v : Value} (h : l.Tells v) : ofWire v = .ok l :=
  ofWire_eq_ok_iff.mpr (isWrittenAs_of_tells h)

lemma find?_bind (l : Listener) (ls : List Listener) (p : Port) :
    (l.bind ls).find? (fun m => m.frontend == p) =
      if l.frontend = p then some l else ls.find? fun m => m.frontend == p := by
  by_cases hl : l.frontend = p
  · rw [if_pos hl]
    induction ls with
    | nil => simp [bind, hl]
    | cons m r ih =>
      rw [bind]
      split
      · simp [hl]
      · split
        · simp [hl]
        · next hm => simp [ih, show m.frontend ≠ p from fun h => hm (hl.trans h.symm)]
  · rw [if_neg hl]
    induction ls with
    | nil => simp [bind, hl]
    | cons m r ih =>
      rw [bind]
      split
      · simp [hl]
      · split
        · next hm => simp [hl, show m.frontend ≠ p from fun h => hl (hm.trans h)]
        · simp [List.find?_cons, ih]

lemma find?_foldl_bind (ls : List Listener) (p : Port) :
    (ls.foldl (fun bound l => l.bind bound) []).find? (fun m => m.frontend == p) =
      ls.reverse.find? fun m => m.frontend == p := by
  have hfold : ∀ (ls bound : List Listener),
      (ls.foldl (fun bound l => l.bind bound) bound).find? (fun m => m.frontend == p) =
        (ls.reverse ++ bound).find? fun m => m.frontend == p := by
    intro ls
    induction ls with
    | nil => exact fun _ => rfl
    | cons l r ih =>
      intro bound
      rw [List.foldl_cons, ih, List.reverse_cons, List.append_assoc, List.find?_append,
        List.find?_append, find?_bind]
      by_cases hl : l.frontend = p <;> simp [hl]
  rw [hfold, List.append_nil]

end Listener

/-! ### Listeners of a description -/

namespace Description

lemma same_int_iff {m n : Int} : (Value.int m).same (.int n) = true ↔ m = n := by
  have hcompare : (Value.int m).same (.int n) = (some (compare m n) == some .eq) := by
    simp only [Value.same, Value.compareNumbers?, Value.compareWith?]
  rw [hcompare, beq_iff_eq, Option.some.injEq, Std.LawfulEqOrd.compare_eq_iff_eq]

lemma same_toValue_iff {p r : Port} : p.toValue.same r.toValue = true ↔ p = r := by
  rw [Port.toValue, Port.toValue, same_int_iff, Int.natCast_inj]
  cases p
  cases r
  simp

lemma listeners_of_ofWire {v : Value} {d : Description} (h : ofWire v = .ok d) :
    ∃ ls, readListeners v = .ok ls ∧ d.listeners = ls.map fun l => (l.frontend.toValue, l) := by
  simp only [ofWire, bind_eq_ok_iff] at h
  obtain ⟨ls, hls, check, -, name, -, dnsName, -, instances, -, subnets, -, zones, -, scheme, -,
    created, -, h⟩ := h
  cases h
  exact ⟨ls, hls, rfl⟩

lemma listener?_eq_find? {d : Description} {ls : List Listener}
    (h : d.listeners = ls.map fun l => (l.frontend.toValue, l)) (p : Port) :
    d.listener? p.toValue = ls.find? fun l => l.frontend == p := by
  have hsame : (fun l : Listener => l.frontend.toValue.same p.toValue) =
      fun l => l.frontend == p := by
    funext l
    rw [Bool.eq_iff_iff, same_toValue_iff, beq_iff_eq]
  rw [listener?, h, List.find?_map, Option.map_map]
  simp only [Function.comp_def, hsame, Option.map_id']

lemma frontend_of_listener? {v : Value} {d : Description} (h : ofWire v = .ok d) {p : Port}
    {l : Listener} (hl : d.listener? p.toValue = some l) : l.frontend = p := by
  obtain ⟨ls, -, hd⟩ := listeners_of_ofWire h
  rw [listener?_eq_find? hd] at hl
  have hport := List.find?_some hl
  exact beq_iff_eq.mp hport

lemma any_not_conflicting_iff {v : Value} {d : Description} (h : ofWire v = .ok d)
    {l : Listener} :
    ((d.listener? l.frontend.toValue).any fun m => !l.conflictsWith m) = true ↔
      d.listener? l.frontend.toValue = some l := by
  rcases hm : d.listener? l.frontend.toValue with _ | m
  · simp
  · have hport : m.frontend = l.frontend := frontend_of_listener? h hm
    simp only [Listener.conflictsWith, hport, beq_self_eq_true, Bool.true_and, Option.any_some,
      bne, Bool.not_not, beq_iff_eq, Option.some.injEq]
    exact eq_comm

def IsFirstOf (w v : Value) : Prop :=
  ∃ ws, v.get? "LoadBalancerDescriptions" = .ok (some (.list (w :: ws)))

lemma ofAnswer_of_isFirstOf {v w : Value} (h : IsFirstOf w v) :
    ofAnswer v = some <$> ofWire w := by
  obtain ⟨ws, hv⟩ := h
  cases v with
  | record fields =>
    have hfield : Value.field? fields "LoadBalancerDescriptions" = some (.list (w :: ws)) :=
      Except.ok.inj hv
    rw [ofAnswer_record, hfield]
    rfl
  | _ => cases hv

lemma exists_record_of_ofWire {v : Value} {d : Description} (h : ofWire v = .ok d) :
    ∃ fields, v = .record fields := by
  obtain ⟨ls, hls, -⟩ := listeners_of_ofWire h
  cases v with
  | record fields => exact ⟨fields, rfl⟩
  | _ => cases hls

lemma ofAnswer_eq_some_iff {v : Value} {d : Description} :
    ofAnswer v = .ok (some d) ↔ ∃ w, IsFirstOf w v ∧ ofWire w = .ok d := by
  constructor
  · intro h
    cases v with
    | record fields =>
      rw [ofAnswer_record] at h
      split at h
      · obtain ⟨w, hhead, hw⟩ := bind_eq_ok_iff.mp h
        rcases hd : ofWire w with r | d'
        · rw [hd] at hw; cases hw
        · rw [hd] at hw
          cases hw
          -- only the items of a list are records
          obtain ⟨_, rfl⟩ := exists_record_of_ofWire hd
          rcases hfound : Value.field? fields "LoadBalancerDescriptions" with _ | found
          · rw [hfound] at hhead; cases hhead
          · rw [hfound, Option.getD_some] at hhead
            refine ⟨_, ?_, hd⟩
            unfold Value.head at hhead
            split at hhead
            · cases hhead; exact ⟨_, congrArg Except.ok hfound⟩
            · split at hhead <;> cases hhead
            · cases hhead
            · cases hhead
            · cases hhead
      · cases h
    | _ => cases h
  · rintro ⟨w, hw, hd⟩
    rw [ofAnswer_of_isFirstOf hw, hd]
    rfl

lemma sought_eq_some_iff {n : String} {reply : Except RemoteError Value} {d : Description} :
    sought n reply = .ok (some d) ↔
      ∃ v w, reply = .ok v ∧ IsFirstOf w v ∧ ofWire w = .ok d := by
  rcases reply with (f | e) | v
  · rw [sought]
    split <;> simp
  · simp [sought]
  · have hanswer : sought n (.ok v) = .ok (some d) ↔ ofAnswer v = .ok (some d) := by
      rw [sought]
      cases ofAnswer v <;> simp [Except.mapError]
    rw [hanswer, ofAnswer_eq_some_iff]
    simp

/-! ### Reports -/

lemma readListeners_of_tells {v : Value} {entries : List Value} {ls : List Listener}
    (hentries : itemsUnder v "ListenerDescriptions" = .ok entries)
    (hls : List.Forall₂ (fun e l => ∃ w, e.item "Listener" = .ok w ∧ l.Tells w) entries ls) :
    readListeners v = .ok (ls.foldl (fun bound l => l.bind bound) []) := by
  have hmap : (entries.mapM fun e => do Listener.ofWire (← e.item "Listener")) = .ok ls := by
    rw [mapM_eq_ok_iff]
    refine hls.imp fun e l h => ?_
    obtain ⟨w, hw, hl⟩ := h
    rw [hw, ok_bind, Listener.ofWire_of_tells hl]
  rw [readListeners, hentries, ok_bind, hmap, ok_bind]
  rfl

lemma adjoin_text (known : List String) (id : String) :
    Value.adjoin (known.map .text) (.text id) =
      .ok ((if id ∈ known then known else known ++ [id]).map .text) := by
  have hany : (known.map Value.text).any (·.same (.text id)) = true ↔ id ∈ known := by
    simp [Value.same]
  rw [Value.adjoin, if_neg (by simp [Value.isHashable])]
  by_cases hid : id ∈ known
  · rw [if_pos (hany.mpr hid), if_pos hid]
  · rw [if_neg (by rwa [hany]), if_neg hid]
    simp

lemma foldlM_adjoin {entries : List Value} {ids : List String}
    (h : List.Forall₂ (fun e id => e.item "InstanceId" = .ok (.text id)) entries ids)
    (known : List String) (hknown : known.Nodup) :
    ∃ all : List String, all.Nodup ∧ (∀ id, id ∈ all ↔ id ∈ known ∨ id ∈ ids) ∧
      entries.foldlM (fun set e => do Value.adjoin set (← e.item "InstanceId"))
        (known.map Value.text) = .ok (all.map .text) := by
  induction h generalizing known with
  | nil => exact ⟨known, hknown, by simp, rfl⟩
  | @cons e id entries ids he hrest ih =>
    have hnext : (if id ∈ known then known else known ++ [id]).Nodup := by
      split
      · exact hknown
      · next hid =>
        rw [List.nodup_append]
        refine ⟨hknown, by simp, ?_⟩
        rintro i hi j hj rfl
        obtain rfl := List.mem_singleton.mp hj
        exact hid hi
    obtain ⟨all, hall, hmem, hfold⟩ := ih _ hnext
    refine ⟨all, hall, fun i => ?_, ?_⟩
    · rw [hmem, List.mem_cons]
      split
      · next hid =>
        constructor
        · tauto
        · rintro (h | rfl | h)
          · exact .inl h
          · exact .inl hid
          · exact .inr h
      · rw [List.mem_append, List.mem_singleton, or_assoc]
    · rw [List.foldlM_cons, he, ok_bind, adjoin_text, ok_bind]
      exact hfold

lemma readInstances_of_tells {v : Value} {entries : List Value} {ids : List String}
    (hentries : itemsUnder v "Instances" = .ok entries)
    (hids : List.Forall₂ (fun e id => e.item "InstanceId" = .ok (.text id)) entries ids) :
    ∃ all : List String, all.Nodup ∧ (∀ id, id ∈ all ↔ id ∈ ids) ∧
      readInstances v = .ok (all.map .text) := by
  obtain ⟨all, hall, hmem, hfold⟩ := foldlM_adjoin hids [] List.nodup_nil
  refine ⟨all, hall, fun id => by simpa using hmem id, ?_⟩
  rw [readInstances, hentries, ok_bind]
  exact hfold

def TellsCheck (v : Value) : Option HealthCheck → Prop
  | some h => ∃ c, v.get? "HealthCheck" = .ok (some c) ∧ h.Tells c
  | none => v.get? "HealthCheck" = .ok none ∨
    ∃ c target, v.get? "HealthCheck" = .ok (some c) ∧ c.get? "Target" = .ok target ∧
      (Value.ofOption target).isGiven = false

lemma isGiven_target (h : HealthCheck) : (Value.text h.target).isGiven = true := by
  simp [Value.isGiven, HealthCheck.target]

lemma readHealthCheck_of_tells {v : Value} {check : Option HealthCheck} (hv : TellsCheck v check)
    (hregular : ∀ h, check = some h → h.IsRegular) : readHealthCheck v = .ok check := by
  rcases check with _ | h
  · rcases hv with hnone | ⟨c, target, hc, htarget, hgiven⟩
    · simp only [readHealthCheck, hnone, ok_bind]
      rfl
    · simp only [readHealthCheck, hc, ok_bind, Option.getD_some, htarget, hgiven]
      rfl
  · obtain ⟨c, hc, htells⟩ := hv
    simp only [readHealthCheck, hc, ok_bind, Option.getD_some, Value.get?_of_item htells.target,
      Value.ofOption, isGiven_target, if_true,
      HealthCheck.ofWire_of_tells (hregular h rfl) htells]
    rfl

/-- A value holds listeners and instances in the provider's form, and what else it holds can be
read. -/
structure Lists (v : Value) (ls : List Listener) (ids : List String) : Prop where
  listeners : ∃ entries, itemsUnder v "ListenerDescriptions" = .ok entries ∧
    List.Forall₂ (fun e l => ∃ w, e.item "Listener" = .ok w ∧ l.Tells w) entries ls
  instances : ∃ entries, itemsUnder v "Instances" = .ok entries ∧
    List.Forall₂ (fun e id => e.item "InstanceId" = .ok (.text id)) entries ids
  name : ∃ w, v.item "LoadBalancerName" = .ok w
  check : ∃ check, readHealthCheck v = .ok check
  subnets : ∃ items, itemsUnder v "Subnets" = .ok items
  zones : ∃ items, itemsUnder v "AvailabilityZones" = .ok items

/-- **What is listed is described**: the listeners by their ports, of which the last counts, and the
instances as a set. -/
theorem ofWire_of_lists {v : Value} {ls : List Listener} {ids : List String} (hv : Lists v ls ids) :
    ∃ d, ofWire v = .ok d ∧
      (d.listeners = (ls.foldl (fun bound l => l.bind bound) []).map
        fun l => (l.frontend.toValue, l)) ∧
      (∃ known : List String, known.Nodup ∧ (∀ id, id ∈ known ↔ id ∈ ids) ∧
        d.instances = known.map .text) ∧
      v.item "LoadBalancerName" = .ok d.name ∧
      (∃ w, v.get? "DNSName" = .ok w ∧ d.dnsName = w.getD (.text "")) ∧
      readHealthCheck v = .ok d.healthCheck := by
  obtain ⟨⟨_, hentries, hls⟩, ⟨_, hitems, hids⟩, ⟨name, hname⟩, ⟨check, hcheck⟩,
    ⟨subnets, hsubnets⟩, ⟨zones, hzones⟩⟩ := hv
  obtain ⟨known, hnodup, hmem, hinstances⟩ := readInstances_of_tells hitems hids
  have hget : ∀ key, ∃ w, v.get? key = .ok w := by
    intro key
    cases v with
    | record fields => exact ⟨_, rfl⟩
    | _ => cases hname
  obtain ⟨dnsName, hdnsName⟩ := hget "DNSName"
  obtain ⟨scheme, hscheme⟩ := hget "Scheme"
  obtain ⟨created, hcreated⟩ := hget "CreatedTime"
  refine ⟨⟨name, dnsName.getD (.text ""), _, known.map .text, check, subnets, zones,
    Value.ofOption scheme, Value.ofOption created⟩, ?_, rfl, ⟨known, hnodup, hmem, rfl⟩, hname,
    ⟨dnsName, hdnsName, rfl⟩, hcheck⟩
  simp only [ofWire, readListeners_of_tells hentries hls, hcheck, hname, hdnsName, hinstances,
    hsubnets, hzones, hscheme, hcreated, ok_bind]
  rfl

structure Report where
  name : String
  dnsName : String
  listeners : List Listener
  instances : List String
  check : Option HealthCheck

/-- A value holds a report in the provider's form, whatever else it holds. The subnets and zones are
lists if they are told at all. -/
structure Report.Tells (r : Report) (v : Value) : Prop where
  name : v.item "LoadBalancerName" = .ok (.text r.name)
  dnsName : v.item "DNSName" = .ok (.text r.dnsName)
  listeners : ∃ entries, itemsUnder v "ListenerDescriptions" = .ok entries ∧
    List.Forall₂ (fun e l => ∃ w, e.item "Listener" = .ok w ∧ l.Tells w) entries r.listeners
  instances : ∃ entries, itemsUnder v "Instances" = .ok entries ∧
    List.Forall₂ (fun e id => e.item "InstanceId" = .ok (.text id)) entries r.instances
  check : TellsCheck v r.check
  subnets : ∃ items, itemsUnder v "Subnets" = .ok items
  zones : ∃ items, itemsUnder v "AvailabilityZones" = .ok items

def Report.toWire (r : Report) : Value :=
  .record ([("LoadBalancerName", .text r.name), ("DNSName", .text r.dnsName),
    ("ListenerDescriptions", .list (r.listeners.map fun l => .record [("Listener", l.toWire)])),
    ("Instances", .list (r.instances.map fun id => .record [("InstanceId", .text id)]))] ++
    (r.check.map fun h => ("HealthCheck", h.toWire)).toList)

def Report.answer (r : Report) : Value :=
  .record [("LoadBalancerDescriptions", .list [r.toWire])]

lemma Report.tells_toWire (r : Report) : r.Tells r.toWire where
  name := rfl
  dnsName := rfl
  listeners := ⟨_, rfl, List.forall₂_map_left_iff.mpr
    (List.forall₂_same.mpr fun l _ => ⟨l.toWire, rfl, l.tells_toWire⟩)⟩
  instances := ⟨_, rfl, List.forall₂_map_left_iff.mpr (List.forall₂_same.mpr fun _ _ => rfl)⟩
  check := by
    obtain ⟨_, _, _, _, _ | h⟩ := r
    · exact .inl rfl
    · exact ⟨h.toWire, rfl, h.tells_toWire⟩
  subnets := by
    obtain ⟨_, _, _, _, _ | h⟩ := r <;> exact ⟨[], rfl⟩
  zones := by
    obtain ⟨_, _, _, _, _ | h⟩ := r <;> exact ⟨[], rfl⟩

/-- **A report is described as it is**: its listeners by their ports, of which the last counts, its
instances as a set, and its health check. -/
theorem ofWire_of_tells {r : Report} {v : Value} (hv : r.Tells v)
    (hregular : ∀ h, r.check = some h → h.IsRegular) :
    ∃ d, ofWire v = .ok d ∧ d.name = .text r.name ∧ d.dnsName = .text r.dnsName ∧
      (d.listeners = (r.listeners.foldl (fun bound l => l.bind bound) []).map
        fun l => (l.frontend.toValue, l)) ∧
      (∃ ids : List String, ids.Nodup ∧ (∀ id, id ∈ ids ↔ id ∈ r.instances) ∧
        d.instances = ids.map .text) ∧
      d.healthCheck = r.check := by
  have hcheck := readHealthCheck_of_tells hv.check hregular
  obtain ⟨d, hd, hlisteners, hinstances, hname, ⟨w, hw, hdnsName⟩, hread⟩ := ofWire_of_lists
    ⟨hv.listeners, hv.instances, ⟨_, hv.name⟩, ⟨_, hcheck⟩, hv.subnets, hv.zones⟩
  obtain rfl : w = some (.text r.dnsName) :=
    Except.ok.inj (hw.symm.trans (Value.get?_of_item hv.dnsName))
  exact ⟨d, hd, Except.ok.inj (hname.symm.trans hv.name), hdnsName, hlisteners, hinstances,
    Except.ok.inj (hread.symm.trans hcheck)⟩

end Description

end Balancer
