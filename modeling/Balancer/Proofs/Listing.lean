import Balancer.Proofs.Ascending
import Balancer.Proofs.Showing

/-!
Listings: a load balancer is described as it is listed.

What is listed are listeners, in any order and more than one on a port, and ids of instances, in any
order and with repeats. Main statements: the description has the last listener on each port, in the
order of ports, and the set of ids; the dictionary that the listeners are first put in is sorted by
its keys alone; and neither the order of ids matters nor that of listeners on ports of their own
(`described_as_listed`).
-/

namespace Balancer.Description

variable {d : Description} {v v' : Value} {ls : List Listener} {ids : List String}

def entry (l : Listener) : Value × Listener := (l.frontend.toValue, l)

/-! ### On which ports there are listeners -/

lemma exists_number_bindAll_iff {n : Int} :
    (∃ l ∈ Listener.bindAll ls, (l.frontend.number : Int) = n) ↔
      ∃ l ∈ ls, (l.frontend.number : Int) = n := by
  constructor
  · rintro ⟨l, hl, rfl⟩
    obtain ⟨k, hk, hsame⟩ := Listener.exists_mem_bindAll_iff.mp ⟨l, hl, rfl⟩
    exact ⟨k, hk, by rw [hsame]⟩
  · rintro ⟨l, hl, rfl⟩
    obtain ⟨k, hk, hsame⟩ := Listener.exists_mem_bindAll_iff.mpr ⟨l, hl, rfl⟩
    exact ⟨k, hk, by rw [hsame]⟩

section Bound

variable (h : d.listeners = (Listener.bindAll ls).map entry)

include h

lemma hasListener_int (n : Int) :
    d.hasListener (.int n) = .ok (decide (∃ l ∈ ls, (l.frontend.number : Int) = n)) := by
  have hsome : (d.listener? (.int n)).isSome = true ↔ ∃ l ∈ ls, (l.frontend.number : Int) = n := by
    rw [listener?, Option.isSome_map, List.find?_isSome, h, ← exists_number_bindAll_iff]
    simp [entry, Port.toValue, same_int_iff]
  have hhashable : (Value.int n).isHashable = true := by simp [Value.isHashable]
  rw [hasListener, if_pos hhashable, Bool.eq_iff_iff.mpr (hsome.trans decide_eq_true_iff.symm)]

lemma exposure_int (n : Int) :
    d.exposure (.int n) =
      .ok (if ∃ l ∈ ls, (l.frontend.number : Int) = n then .exposed else .hidden) := by
  rw [exposure, hasListener_int h, ok_bind]
  by_cases hn : ∃ l ∈ ls, (l.frontend.number : Int) = n
  · rw [if_pos hn, decide_eq_true hn]
    rfl
  · rw [if_neg hn, decide_eq_false hn]
    rfl

lemma listener?_of_bound (p : Port) :
    d.listener? p.toValue = (ls.filter fun l => l.frontend == p).getLast? := by
  rw [listener?_eq_find? h, Listener.find?_bindAll]

end Bound

/-! ### The dictionary that is sorted -/

/-- The dictionary that listeners are put in one after the other, each under its port. -/
def gather (ls : List Listener) : Checked (List (Value × Listener)) :=
  ls.foldlM (fun entries l => setListener l.frontend.toValue l entries) []

/-- Whether an entry comes before another one. Its key tells, unless the keys are the same: what
stands under them has no order. -/
def precedes? (e e' : Value × Listener) : Option Bool :=
  if e.1.same e'.1 then none else (e.1.order? e'.1).map (· == .lt)

lemma same_entry_iff {l m : Listener} :
    (entry l).1.same m.frontend.toValue = true ↔ m.frontend = l.frontend :=
  same_toValue_iff.trans eq_comm

lemma setListener_perm {entries : List (Value × Listener)} {bound : List Listener}
    (hbound : Listener.Ascends bound) (hperm : entries.Perm (bound.map entry)) (l : Listener) :
    ∃ next, setListener l.frontend.toValue l entries = .ok next ∧
      next.Perm ((l.bind bound).map entry) := by
  have hhashable : l.frontend.toValue.isHashable = true := by simp [Port.toValue, Value.isHashable]
  have hany : (entries.any fun e => e.1.same l.frontend.toValue) = true ↔
      ∃ m ∈ bound, l.frontend = m.frontend := by
    simp [List.any_eq_true, hperm.mem_iff, same_entry_iff]
  simp only [setListener, hhashable, hany]
  by_cases hold : ∃ m ∈ bound, l.frontend = m.frontend
  · have hreplaced : (bound.map entry).map (fun e => if e.1.same l.frontend.toValue then (e.1, l)
        else e) = (l.bind bound).map entry := by
      rw [Listener.bind_eq_map hbound hold, List.map_map, List.map_map]
      refine List.map_congr_left fun m _ => ?_
      rw [Function.comp_apply, Function.comp_apply]
      by_cases hsame : m.frontend = l.frontend
      · have hkey : (entry m).1.same l.frontend.toValue = true := same_toValue_iff.mpr hsame
        rw [if_pos hkey, if_pos hsame, entry, entry, hsame]
      · have hkey : ¬ (entry m).1.same l.frontend.toValue = true := mt same_toValue_iff.mp hsame
        rw [if_neg hkey, if_neg hsame]
    exact ⟨_, by simp [hold], hreplaced ▸ hperm.map _⟩
  · have hnew : (l.bind bound).Perm (l :: bound) :=
      Listener.bind_perm fun m hm h => hold ⟨m, hm, h⟩
    refine ⟨entries ++ [entry l], by simp [hold, entry], ?_⟩
    calc (entries ++ [entry l]).Perm (entry l :: entries) := List.perm_append_singleton _ _
      List.Perm _ ((l :: bound).map entry) := hperm.cons _
      List.Perm _ ((l.bind bound).map entry) := (hnew.map entry).symm

lemma foldlM_setListener {entries : List (Value × Listener)} {bound : List Listener}
    (hbound : Listener.Ascends bound) (hperm : entries.Perm (bound.map entry)) :
    ∃ all, ls.foldlM (fun entries l => setListener l.frontend.toValue l entries) entries = .ok all ∧
      all.Perm ((ls.foldl (fun bound l => l.bind bound) bound).map entry) := by
  induction ls generalizing entries bound with
  | nil => exact ⟨entries, rfl, hperm⟩
  | cons l r ih =>
    obtain ⟨next, hnext, hbind⟩ := setListener_perm hbound hperm l
    obtain ⟨all, hall, hkept⟩ := ih hbound.bind hbind
    refine ⟨all, ?_, hkept⟩
    rw [List.foldlM_cons, hnext]
    exact hall

lemma precedes?_of_lt {l m : Listener} (h : l.frontend.number < m.frontend.number) :
    precedes? (entry l) (entry m) = some true ∧ precedes? (entry m) (entry l) = some false := by
  have hne : l.frontend ≠ m.frontend := fun hsame => Nat.ne_of_lt h (by rw [hsame])
  have hsame : (entry l).1.same (entry m).1 = false :=
    Bool.eq_false_iff.mpr fun h => hne (same_toValue_iff.mp h)
  have hsame' : (entry m).1.same (entry l).1 = false :=
    Bool.eq_false_iff.mpr fun h => hne (same_toValue_iff.mp h).symm
  have hlt : compare (l.frontend.number : Int) m.frontend.number = .lt :=
    Int.compare_eq_lt.mpr (by omega)
  have hgt : compare (m.frontend.number : Int) l.frontend.number = .gt :=
    Int.compare_eq_gt.mpr (by omega)
  have horder : ∀ a b : Int, (Value.int a).order? (.int b) = some (compare a b) := by
    intro a b
    simp only [Value.order?, Value.compareNumbers?, Value.compareWith?]
  simp only [precedes?, hsame, hsame']
  simp only [entry, Port.toValue, horder, hlt, hgt]
  exact ⟨rfl, rfl⟩

/-- **The dictionary is sorted by its keys alone.** Any two of its entries are told apart by them.
-/
theorem gather_sorts (ls : List Listener) :
    ∃ entries, gather ls = .ok entries ∧ entries.Perm ((Listener.bindAll ls).map entry) ∧
      entries.Pairwise (fun e e' => (precedes? e e').isSome = true ∧
        (precedes? e' e).isSome = true) ∧
      ((Listener.bindAll ls).map entry).Pairwise fun e e' => precedes? e e' = some true := by
  obtain ⟨entries, hgather, hperm⟩ := @foldlM_setListener ls [] [] List.Pairwise.nil (.refl _)
  have hascends : (Listener.bindAll ls).Pairwise fun l m =>
      precedes? (entry l) (entry m) = some true ∧ precedes? (entry m) (entry l) = some false :=
    (Listener.ascends_bindAll ls).imp precedes?_of_lt
  refine ⟨entries, hgather, hperm, ?_, List.pairwise_map.mpr (hascends.imp And.left)⟩
  rw [hperm.pairwise_iff fun h => ⟨h.2, h.1⟩, List.pairwise_map]
  exact hascends.imp fun h => ⟨by rw [h.1]; rfl, by rw [h.2]; rfl⟩

/-! ### Reports -/

/-- A dated description is reported with its listeners as they stand and its ids in order. -/
lemma toReport_of_known {known : List String} (hnodup : known.Nodup)
    (hknown : d.instances = known.map .text) (hdated : d.IsDated) :
    ∃ report, d.toReport = .ok report ∧
      report.item "listeners" = .ok (.list (d.listeners.map fun e => e.2.toReport)) ∧
      report.item "instances" = .ok (.list ((Instances.ofList known).map .text)) := by
  obtain ⟨created, hcreated⟩ := createdText_eq_ok_iff.mpr hdated
  simp only [toReport, hknown, Value.sorted_texts hnodup, hcreated, ok_bind]
  exact ⟨_, rfl, rfl, rfl⟩

/-! ### Other orders -/

/-- Two values agree on all but their listeners and instances. -/
def AgreeElsewhere (v v' : Value) : Prop :=
  ∀ key, key ≠ "ListenerDescriptions" → key ≠ "Instances" → v'.get? key = v.get? key

/-- Two descriptions agree on all but the order in which instances are kept, which is none. -/
structure Agrees (d d' : Description) : Prop where
  instances : d'.instances.Perm d.instances
  elsewhere : d' = { d with instances := d'.instances }

lemma item_eq_of_get? {key : String} {w w' : Value} (hget : v'.get? key = v.get? key)
    (h : v.item key = .ok w) (h' : v'.item key = .ok w') : w' = w := by
  have hsome := Value.get?_of_item h'
  rw [hget, Value.get?_of_item h] at hsome
  cases hsome
  rfl

lemma itemsUnder_congr {key : String} (hget : v'.get? key = v.get? key) :
    itemsUnder v' key = itemsUnder v key := by
  rw [itemsUnder, itemsUnder, hget]

lemma readHealthCheck_congr (hget : v'.get? "HealthCheck" = v.get? "HealthCheck") :
    readHealthCheck v' = readHealthCheck v := by
  rw [readHealthCheck, readHealthCheck, hget]

lemma elsewhere_of_ofWire {d' : Description} (h : ofWire v = .ok d) (h' : ofWire v' = .ok d')
    (hagree : AgreeElsewhere v v') (hls : d'.listeners = d.listeners) :
    d' = { d with instances := d'.instances } := by
  have hget : ∀ key, key ≠ "ListenerDescriptions" → key ≠ "Instances" → v'.get? key = v.get? key :=
    hagree
  simp only [ofWire, bind_eq_ok_iff] at h h'
  obtain ⟨ls, -, check, hcheck, name, hname, dnsName, hdnsName, instances, -, subnets, hsubnets,
    zones, hzones, scheme, hscheme, created, hcreated, h⟩ := h
  obtain ⟨ls', -, check', hcheck', name', hname', dnsName', hdnsName', instances', -, subnets',
    hsubnets', zones', hzones', scheme', hscheme', created', hcreated', h'⟩ := h'
  rw [readHealthCheck_congr (hget _ (by decide) (by decide)), hcheck] at hcheck'
  rw [hget _ (by decide) (by decide), hdnsName] at hdnsName'
  rw [itemsUnder_congr (hget _ (by decide) (by decide)), hsubnets] at hsubnets'
  rw [itemsUnder_congr (hget _ (by decide) (by decide)), hzones] at hzones'
  rw [hget _ (by decide) (by decide), hscheme] at hscheme'
  rw [hget _ (by decide) (by decide), hcreated] at hcreated'
  obtain rfl := item_eq_of_get? (hget _ (by decide) (by decide)) hname hname'
  cases hcheck'
  cases hdnsName'
  cases hsubnets'
  cases hzones'
  cases hscheme'
  cases hcreated'
  cases h
  cases h'
  simp only at hls
  rw [hls]

lemma toReport_eq_of_elsewhere {d' : Description} {known known' : List String}
    (helsewhere : d' = { d with instances := d'.instances }) (hnodup : known.Nodup)
    (hnodup' : known'.Nodup) (hknown : d.instances = known.map .text)
    (hknown' : d'.instances = known'.map .text) (hmem : ∀ id, id ∈ known' ↔ id ∈ known) :
    d'.toReport = d.toReport := by
  have hsorted : Value.sorted d'.instances = Value.sorted d.instances := by
    rw [hknown, hknown', Value.sorted_texts hnodup, Value.sorted_texts hnodup',
      Instances.ofList_congr hmem]
  rw [helsewhere]
  simp only [toReport, hsorted]
  rfl

lemma agrees_of_lists {d' : Description} {ls' : List Listener} {known known' : List String}
    (h : ofWire v = .ok d) (h' : ofWire v' = .ok d') (hagree : AgreeElsewhere v v')
    (hls : d.listeners = (Listener.bindAll ls).map entry)
    (hls' : d'.listeners = (Listener.bindAll ls').map entry)
    (hsame : ls' = ls ∨ ls'.Perm ls ∧ (ls.map Listener.frontend).Nodup) (hnodup : known.Nodup)
    (hnodup' : known'.Nodup) (hknown : d.instances = known.map .text)
    (hknown' : d'.instances = known'.map .text) (hmem : ∀ id, id ∈ known' ↔ id ∈ known) :
    d.Agrees d' ∧ d'.toReport = d.toReport := by
  have hbound : Listener.bindAll ls' = Listener.bindAll ls := by
    rcases hsame with rfl | ⟨hperm, hports⟩
    · rfl
    · exact Listener.bindAll_eq_of_perm hperm hports
  have helsewhere := elsewhere_of_ofWire h h' hagree (by rw [hls, hls', hbound])
  have hperm : d'.instances.Perm d.instances := by
    rw [hknown, hknown']
    exact ((List.perm_ext_iff_of_nodup hnodup' hnodup).mpr hmem).map _
  exact ⟨⟨hperm, helsewhere⟩,
    toReport_eq_of_elsewhere helsewhere hnodup hnodup' hknown hknown' hmem⟩

/-- **A load balancer is described as it is listed.** What lists listeners and instances is decoded.
The listeners stand in the strictly ascending order of their ports, each under its own, and on each
port there is the last one of the list; a port has a listener, and the load balancer is exposed on
it, exactly if a listener of the list is on it. The instances are those of the list, without
repeats. A report has the listeners in this order and the ids in strictly ascending order. The
dictionary that the listeners are first put in has the same entries, and any two of them are told
apart by their keys. And what lists the same ids in whatever order, and the same listeners, in
another order only if no two are on one port, is described and reported alike. -/
theorem described_as_listed (hv : Lists v ls ids) :
    ∃ d, ofWire v = .ok d ∧
      (∃ bound : List Listener, d.listeners = bound.map entry ∧
        bound.Pairwise fun l m => l.frontend.number < m.frontend.number) ∧
      (∀ p : Port, d.listener? p.toValue = (ls.filter fun l => l.frontend == p).getLast?) ∧
      (∀ n : Int,
        d.hasListener (.int n) = .ok (decide (∃ l ∈ ls, (l.frontend.number : Int) = n)) ∧
        d.exposure (.int n) =
          .ok (if ∃ l ∈ ls, (l.frontend.number : Int) = n then .exposed else .hidden)) ∧
      (∃ known : List String, known.Nodup ∧ (∀ id, id ∈ known ↔ id ∈ ids) ∧
        d.instances = known.map .text) ∧
      (d.IsDated → ∃ (report : Value) (sorted : List String), d.toReport = .ok report ∧
        report.item "listeners" = .ok (.list (d.listeners.map fun e => e.2.toReport)) ∧
        report.item "instances" = .ok (.list (sorted.map .text)) ∧
        sorted.Pairwise (· < ·) ∧ ∀ id, id ∈ sorted ↔ id ∈ ids) ∧
      (∃ entries, gather ls = .ok entries ∧ entries.Perm d.listeners ∧
        entries.Pairwise (fun e e' => (precedes? e e').isSome = true ∧
          (precedes? e' e).isSome = true) ∧
        d.listeners.Pairwise fun e e' => precedes? e e' = some true) ∧
      ∀ v' ls' ids', Lists v' ls' ids' → AgreeElsewhere v v' → (∀ id, id ∈ ids' ↔ id ∈ ids) →
        (ls' = ls ∨ ls'.Perm ls ∧ (ls.map Listener.frontend).Nodup) →
        ∃ d', ofWire v' = .ok d' ∧ d.Agrees d' ∧ d'.toReport = d.toReport := by
  obtain ⟨d, hd, hls, ⟨known, hnodup, hmem, hknown⟩, -⟩ := ofWire_of_lists hv
  obtain ⟨entries, hgather, hperm, hdecided, hsorted⟩ := gather_sorts ls
  refine ⟨d, hd, ⟨_, hls, Listener.ascends_bindAll ls⟩, listener?_of_bound hls,
    fun n => ⟨hasListener_int hls n, exposure_int hls n⟩, ⟨known, hnodup, hmem, hknown⟩, ?report,
    ⟨entries, hgather, hls ▸ hperm, hdecided, hls ▸ hsorted⟩, ?others⟩
  case report =>
    intro hdated
    obtain ⟨report, hreport, hlisteners, hinstances⟩ := toReport_of_known hnodup hknown hdated
    refine ⟨report, Instances.ofList known, hreport, hlisteners, hinstances,
      Instances.pairwise_ofList known, fun id => ?_⟩
    rw [Instances.mem_ofList, hmem]
  case others =>
    intro v' ls' ids' hv' hagree hids hsame
    obtain ⟨d', hd', hls', ⟨known', hnodup', hmem', hknown'⟩, -⟩ := ofWire_of_lists hv'
    refine ⟨d', hd', agrees_of_lists hd hd' hagree hls hls' hsame hnodup hnodup' hknown hknown' ?_⟩
    intro id
    rw [hmem', hids, hmem]

/-- Two listeners on one port, and an id that is repeated. -/
theorem described_with_repeats :
    let p : Port := ⟨443, by decide, by decide⟩
    let r : Report := ⟨"api-lb", "lb.example",
      [⟨p, .controlPlane, .tcp, .ssl⟩, .forwarding .controlPlane, ⟨p, p, .http, .https⟩],
      ["i-2", "i-1", "i-2"], none⟩
    Lists r.toWire r.listeners r.instances ∧
      ∃ d, ofWire r.toWire = .ok d ∧ d.listener? p.toValue = some ⟨p, p, .http, .https⟩ ∧
        d.exposure (.int 6443) = .ok .exposed ∧ d.hasListener (.int 80) = .ok false ∧
        ∃ report, d.toReport = .ok report ∧
          report.item "instances" = .ok (.list [.text "i-1", .text "i-2"]) := by
  intro p r
  have hr := r.tells_toWire
  have hlists : Lists r.toWire r.listeners r.instances :=
    ⟨hr.listeners, hr.instances, ⟨_, hr.name⟩, ⟨none, rfl⟩, hr.subnets, hr.zones⟩
  obtain ⟨d, hd, -, hlast, hports, -, hreport, -⟩ := described_as_listed hlists
  obtain ⟨report, sorted, hmade, -, hinstances, hsorted, hmem⟩ :=
    hreport (isDated_of_ofWire hd rfl)
  obtain rfl : sorted = ["i-1", "i-2"] := by
    refine Instances.eq_of_ascending (by decide) hsorted fun id => (hmem id).trans ?_
    simp only [r, List.mem_cons, List.not_mem_nil, or_false]
    rw [or_left_comm, or_self]
  refine ⟨hlists, d, hd, hlast p, ?_, ?_, report, hmade, hinstances⟩
  · exact (hports 6443).2.trans (congrArg Except.ok (if_pos (by decide)))
  · exact (hports 80).1.trans (congrArg Except.ok (by decide))

end Balancer.Description
