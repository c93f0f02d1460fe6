import Balancer.Proofs.CommandLine
import Balancer.Proofs.Exposure
import Balancer.Proofs.Showing

/-!
Appearance: what reports and the command line show of the exposure of a load balancer.

An exposure is set on a port, by a manager that has this port or by a command that is given it. What
is shown is always the exposure on the well-known port. Main statement: what is shown is what was
set exactly if it was set on the well-known port, or was so there already
(`shown_exposure_is_on_standard_port`).
-/

namespace Balancer

/-! ### Reports -/

namespace Description

variable {d : Description} {n : String} {k : Held}

lemma Report.isDated_of_ofAnswer (r : Report) (h : ofAnswer r.answer = .ok (some d)) :
    d.IsDated := by
  obtain ⟨w, ⟨ws, hw⟩, hd⟩ := ofAnswer_eq_some_iff.mp h
  obtain rfl : r.toWire = w := by
    cases hw
    rfl
  refine isDated_of_ofWire hd ?_
  obtain ⟨_, _, _, _, _ | h⟩ := r <;> rfl

lemma Shows.sorted_instances (h : d.Shows n k) : ∃ items, Value.sorted d.instances = .ok items := by
  obtain ⟨ids, -, -, hids⟩ := h.instances
  rw [Value.sorted_eq_ok_iff, hids]
  exact .inr (.inl (by simp))

lemma Shows.toReport (h : d.Shows n k) (hdated : d.IsDated) :
    ∃ report, d.toReport = .ok report ∧
      report.item "state" = .ok (.text (k.exposure .controlPlane).text) := by
  obtain ⟨items, hitems⟩ := h.sorted_instances
  obtain ⟨created, hcreated⟩ := createdText_eq_ok_iff.mpr hdated
  simp only [Description.toReport, hitems, hcreated, ok_bind, h.standardExposure]
  exact ⟨_, rfl, rfl⟩

end Description

namespace Cli

open Text

/-! ### Lines -/

lemma lines_cons (s : String) (ss : List String) (t : String) :
    lines (s :: ss) ++ t = s ++ "\n" ++ (lines ss ++ t) := by
  simp [lines, line, String.join_cons, String.append_assoc]

lemma output_tell_append (ss : List String) (rest : List (Checked String)) :
    (tell (ss.map .ok ++ rest)).output = lines ss ++ (tell rest).output := by
  induction ss with
  | nil => simp [lines]
  | cons s ss ih =>
    rw [lines_cons, ← ih]
    simp [tell, line, String.append_assoc]

lemma readable_lines (ss : List String) (t : String) :
    ControlSequence.readable (lines ss ++ t) =
      lines (ss.map ControlSequence.readable) ++ ControlSequence.readable t := by
  induction ss with
  | nil => simp [lines]
  | cons s ss ih => rw [lines_cons, ControlSequence.readable_line, ih, List.map_cons, lines_cons]

/-- What is printed begins with the names of a load balancer and its exposure, as its reader sees
them. -/
def PrintsExposure (output n dnsName : String) (e : Exposure) : Prop :=
  ∃ rest, output = lines
    ["Load balancer: " ++ ControlSequence.readable n,
      "  DNS name: " ++ ControlSequence.readable dnsName, "  State: " ++ e.text] ++ rest

lemma PrintsExposure.unique {output n dnsName : String} {e e' : Exposure}
    (h : PrintsExposure output n dnsName e) (h' : PrintsExposure output n dnsName e') : e = e' := by
  obtain ⟨r, rfl⟩ := h
  obtain ⟨r', hr'⟩ := h'
  simp only [lines_cons, ← String.toList_inj, String.toList_append, List.append_assoc,
    List.append_cancel_left_eq] at hr'
  cases e <;> cases e' <;> first | rfl | simp [Exposure.text] at hr'

lemma showDescription_of_shows {d : Description} {n : String} {k : Held} (h : d.Shows n k)
    (hdated : d.IsDated) :
    ∃ rest, (showDescription .text d).output = lines
      ["Load balancer: " ++ n, "  DNS name: " ++ k.dnsName,
        "  State: " ++ (k.exposure .controlPlane).text] ++ rest := by
  obtain ⟨report, hreport, -⟩ := h.toReport hdated
  obtain ⟨items, hitems⟩ := h.sorted_instances
  obtain ⟨rest, hlines⟩ : ∃ rest, descriptionLines d items = List.map .ok
      ["Load balancer: " ++ n, "  DNS name: " ++ k.dnsName,
        "  State: " ++ (k.exposure .controlPlane).text] ++ rest := by
    rw [descriptionLines, h.name, h.dnsName, h.standardExposure]
    exact ⟨_, rfl⟩
  simp only [showDescription, hreport, hitems, hlines]
  exact ⟨_, output_tell_append ..⟩

end Cli

/-! ### What is set and what is shown -/

def TellsDates (t : List Exchange) : Prop :=
  ∀ q v d, (q, .ok v) ∈ t → Description.ofAnswer v = .ok (some d) → d.IsDated

lemma tellsDates_of_answer {q : Request} {r : Description.Report} :
    TellsDates [(q, .ok r.answer)] := by
  intro q' v d hmem hd
  cases List.mem_singleton.mp hmem
  exact r.isDated_of_ofAnswer hd

lemma Manager.reports_of_sees {m : Manager} {script : Script} {P Q : Provider} {t : List Exchange}
    {n : String} {k : Held} (hn : Name.IsValid n) (hkept : P n = some k)
    (hsees : P.Sees m script (.describe (.text n)) t Q) (hcalm : IsCalm t) (hdates : TellsDates t) :
    ∃ d report, (m.act script (.operate (.describe (.text n)))).result =
        .ok (.description (some d)) ∧
      d.toReport = .ok report ∧
        report.item "state" = .ok (.text (k.exposure .controlPlane).text) := by
  obtain ⟨-, v, d, rfl, hd, hshows, hresult⟩ := describe_of_sees hn hkept hsees hcalm
  obtain ⟨report, hreport, hstate⟩ := hshows.toReport (hdates _ v d List.mem_cons_self hd)
  exact ⟨d, report, hresult, hreport, hstate⟩

def Provider.SeesCommand (P : Provider) (script : Script) (report : Cli.Report)
    (t : List Exchange) (Q : Provider) : Prop :=
  script.openError = none ∧ converse report.requests script.replies = t.map Exchange.told ∧
    P.Serves t Q

def Exposure.verb : Exposure → Cli.Verb
  | .exposed => .setPublic
  | .hidden => .setPrivate

/-- An exposure is set on a port: by a manager that has the port, or by a command that is given it.
-/
inductive Provider.Sets (P : Provider) (n : String) (p : Port) (e : Exposure) (Q : Provider) : Prop
  | manager {m : Manager} {script : Script} {t : List Exchange}
      (hport : m.settings.controlPlanePort = p) (hsees : P.Sees m script (e.operation n) t Q)
      (hok : (m.act script (.operate (e.operation n))).result = .ok .nothing)
  | command {env : Cli.Environment} {script : Script} {words rest : List String} {verbose : Bool}
      {i : Cli.Invocation} {t : List Exchange}
      (hopening : Cli.readOpening words = .ok (.verb verbose e.verb rest))
      (hread : Cli.readCommand env e.verb rest = .ok (.invocation i)) (hname : i.named env = n)
      (hport : i.command.controlPlanePort = p)
      (hsees : P.SeesCommand script (Cli.run env script words) t Q)
      (hok : (Cli.run env script words).printed.exitCode = 0)

lemma Exposure.balancer_change (n : String) (p : Port) (e : Exposure) :
    (e.change n p).balancer = n := by
  cases e <;> rfl

namespace Cli

open Text

variable {env : Environment} {script : Script} {words rest : List String} {verbose : Bool}
  {i : Invocation} {P Q : Provider} {t : List Exchange}

lemma Report.Tells.sees_iff {report : Report} {c : Command} {s : Settings} {o : Operation}
    {y : Execution Outcome}
    (h : report.Tells c ((Manager.ofSettings s).act script (.operate o)) y) (hy : y.requests = []) :
    P.SeesCommand script report t Q ↔ P.Sees (.ofSettings s) script o t Q := by
  rw [Provider.SeesCommand, h.requests_eq hy]
  rfl

lemma Command.Asks.change_of_read {n : String} {c : Command} {p : Port} {o : Operation}
    {e : Exposure} {s : Settings} {j : Intent} (h : c.Asks n p o) (hverb : c.verb = e.verb)
    (hs : s.controlPlanePort = p) (hj : o.read s = .ok j) : j = e.change n p := by
  cases h with
  | setPublic =>
    cases e with
    | exposed =>
      rw [← hs] at hj ⊢
      exact Exposure.read_setPublic (.inr rfl) hj
    | hidden => cases hverb
  | setPrivate =>
    cases e with
    | exposed => cases hverb
    | hidden =>
      rw [← hs]
      exact Exposure.read_setPrivate hj
  | _ => cases e <;> cases hverb

lemma follows_of_command {e : Exposure}
    (hopening : readOpening words = .ok (.verb verbose e.verb rest))
    (hread : readCommand env e.verb rest = .ok (.invocation i))
    (hsees : P.SeesCommand script (run env script words) t Q)
    (hok : (run env script words).printed.exitCode = 0) :
    ∃ s : Settings, P.Follows s (e.change (i.named env) i.command.controlPlanePort) Q ∧
      Name.IsValid (i.named env) := by
  have hfit : ¬ i.IsRefused env := by
    intro h
    have hrefused := (run_of_isRefused script hopening hread h).1
    rw [hok] at hrefused
    cases hrefused
  obtain ⟨o, -, hasks, htells⟩ := tells_of_not_isRefused script hopening hread hfit
  obtain ⟨a, ha⟩ := htells.result_of_exitCode hok
  obtain ⟨j, hj, hfollows⟩ :=
    Manager.follows_of_sees ((htells.sees_iff Manager.requests_close).mp hsees) ha
  rw [hasks.change_of_read (verb_of_readCommand hread) rfl hj] at hfollows
  exact ⟨_, hfollows, not_not.mp (not_or.mp hfit).1⟩

section Describing

variable {v : Verb} {format : Format} (hopening : readOpening words = .ok (.verb verbose v rest))
  (hread : readCommand env v rest = .ok (.invocation i)) (hcommand : i.command = .describe format)
  (hn : Name.IsValid (i.named env))

include hopening hread hcommand hn

lemma tells_of_describe (script : Script) :
    i.resolve env = .ok (i.named env, .describe (.text (i.named env))) ∧
      let m := Manager.ofSettings i.settings
      let x := m.act script (.operate (.describe (.text (i.named env))))
      let y := (m.next x).act script .close
      (run env script words).Tells i.command x y := by
  have hfit : ¬ i.IsRefused env := by
    rw [Invocation.IsRefused, hcommand]
    exact not_or.mpr ⟨not_not.mpr hn, id⟩
  obtain ⟨o, hresolve, hasks, htells⟩ := tells_of_not_isRefused script hopening hread hfit
  have ho : o = .describe (.text (i.named env)) := by
    rw [hcommand] at hasks
    cases hasks
    rfl
  subst ho
  exact ⟨hresolve, htells⟩

lemma seesCommand_describe {k : Held} {r : Description.Report} {closeError : Option RemoteError}
    (hkept : P (i.named env) = some k) (htold : k.IsToldBy (i.named env) r) :
    P.SeesCommand ⟨[.ok r.answer], none, closeError⟩
      (run env ⟨[.ok r.answer], none, closeError⟩ words)
      [(.describe (i.named env), .ok r.answer)] P := by
  obtain ⟨-, htells⟩ := tells_of_describe hopening hread hcommand hn
    ⟨[.ok r.answer], none, closeError⟩
  exact (htells.sees_iff Manager.requests_close).mpr (Manager.sees_describe _ hn hkept htold)

end Describing

lemma printsExposure_of_command (hopening : readOpening words = .ok (.verb verbose .describe rest))
    (hread : readCommand env .describe rest = .ok (.invocation i))
    (hcommand : i.command = .describe .text) (hn : Name.IsValid (i.named env)) {k : Held}
    (hkept : P (i.named env) = some k) (hsees : P.SeesCommand script (run env script words) t Q)
    (hclose : script.closeError = none) (hcalm : IsCalm t) (hdates : TellsDates t) :
    PrintsExposure (run env script words).printed.output (i.named env) k.dnsName
      (k.exposure .controlPlane) := by
  obtain ⟨hresolve, htells⟩ := tells_of_describe hopening hread hcommand hn script
  obtain ⟨-, v, d, rfl, hd, hshows, hresult⟩ := Manager.describe_of_sees hn hkept
    ((htells.sees_iff Manager.requests_close).mp hsees) hcalm
  have hleft : ((Manager.ofSettings i.settings).useOnce script
      (.describe (.text (i.named env)))).result = .ok (.description (some d)) := by
    rw [Manager.result_useOnce, Manager.result_close_of_none hclose]
    exact hresult
  have houtput : (run env script words).printed.output =
      ControlSequence.readable (showDescription .text d).output := by
    rw [run_of_read hopening hread, Invocation.run_of_answered hresolve hleft]
    simp [Printed.readable, announcement, hcommand, conclusion]
  obtain ⟨rest, hrest⟩ := showDescription_of_shows hshows (hdates _ v d List.mem_cons_self hd)
  have hstate : '\x1b' ∉ ("  State: " ++ (k.exposure .controlPlane).text).toList := by
    cases k.exposure .controlPlane <;> decide
  refine ⟨ControlSequence.readable rest, ?_⟩
  rw [houtput, hrest, readable_lines]
  simp only [List.map_cons, List.map_nil, ControlSequence.readable_eq_self hstate,
    ControlSequence.readable_append (s := "Load balancer: ") (by decide),
    ControlSequence.readable_append (s := "  DNS name: ") (by decide)]

end Cli

lemma Provider.Sets.eq_put {P Q : Provider} {n : String} {p : Port} {e : Exposure}
    (h : P.Sets n p e Q) :
    Name.IsValid n ∧ ∃ k, P n = some k ∧ Q = P.put n (k.setExposure p e) := by
  cases h with
  | manager hport hsees hok =>
    obtain ⟨i, hread, hfollows⟩ := Manager.follows_of_sees hsees hok
    have hn : Name.IsValid i.balancer := Operation.isValid_of_read hread
    rw [Exposure.read_operation hread] at hn hfollows
    rw [Exposure.balancer_change] at hn
    rw [hport] at hfollows
    exact ⟨hn, Exposure.follows_change hfollows⟩
  | command hopening hread hname hport hsees hok =>
    obtain ⟨s, hfollows, hn⟩ := Cli.follows_of_command hopening hread hsees hok
    rw [hname] at hfollows hn
    rw [hport] at hfollows
    exact ⟨hn, Exposure.follows_change hfollows⟩

/-- **What is shown is the exposure on the well-known port.** Once an exposure was set on a port, by
a manager or by a command, what is shown is that exposure exactly if the port is the well-known one
or the load balancer was so on the well-known one before. Any manager's report tells it, and the
command line prints it, unless something goes wrong. -/
theorem shown_exposure_is_on_standard_port {P Q : Provider} {n : String} {k : Held} {p : Port}
    {e : Exposure} (hkept : P n = some k) (hset : P.Sets n p e Q) :
    let shown := (k.setExposure p e).exposure .controlPlane
    (shown = e ↔ p = .controlPlane ∨ k.exposure .controlPlane = e) ∧
    (∀ (m : Manager) (script : Script) (t : List Exchange) (R : Provider),
      Q.Sees m script (.describe (.text n)) t R → IsCalm t → TellsDates t →
        ∃ d report, (m.act script (.operate (.describe (.text n)))).result =
            .ok (.description (some d)) ∧
          d.toReport = .ok report ∧ report.item "state" = .ok (.text shown.text)) ∧
    ∀ (env : Cli.Environment) (script : Script) (words rest : List String) (verbose : Bool)
      (i : Cli.Invocation) (t : List Exchange) (R : Provider),
      Cli.readOpening words = .ok (.verb verbose .describe rest) →
      Cli.readCommand env .describe rest = .ok (.invocation i) → i.command = .describe .text →
      i.named env = n → Q.SeesCommand script (Cli.run env script words) t R →
      script.closeError = none → IsCalm t → TellsDates t →
        ∀ e', Cli.PrintsExposure (Cli.run env script words).printed.output n k.dnsName e' ↔
          e' = shown := by
  intro shown
  obtain ⟨hn, k', hkept', rfl⟩ := hset.eq_put
  obtain rfl : k = k' := Option.some.inj (hkept.symm.trans hkept')
  have hnow : P.put n (k.setExposure p e) n = some (k.setExposure p e) := Function.update_self ..
  refine ⟨?_, fun m script t R hsees hcalm hdates => ?_, ?_⟩
  · have hshown : shown = if Port.controlPlane = p then e else k.exposure .controlPlane :=
      Held.exposure_setExposure p e .controlPlane
    rw [hshown]
    by_cases hp : p = .controlPlane
    · simp [hp]
    · simp [hp, Ne.symm hp]
  · exact Manager.reports_of_sees hn hnow hsees hcalm hdates
  · rintro env script words rest verbose i t R hopening hread hcommand rfl hsees hclose hcalm hdates
      e'
    have hprints := Cli.printsExposure_of_command hopening hread hcommand hn hnow hsees hclose hcalm
      hdates
    rw [Held.dnsName_setExposure] at hprints
    exact ⟨fun h => h.unique hprints, by rintro rfl; exact hprints⟩

/-- A manager whose port is the well-known one tells the exposure that it set. -/
theorem exposed_by_manager_shows :
    let m := Manager.ofSettings ⟨.null, .null, .controlPlane, .standard⟩
    let k := Held.bare "lb.example"
    let P : Provider := .put (fun _ => none) "api-lb" k
    let Q : Provider := P.put "api-lb" (k.setExposure .controlPlane .exposed)
    let r : Description.Report :=
      ⟨"api-lb", "lb.example", [.forwarding .controlPlane], [], none⟩
    let script : Script := ⟨[.ok r.answer], none, none⟩
    let o := Operation.describe (.text "api-lb")
    P "api-lb" = some k ∧ P.Sets "api-lb" .controlPlane .exposed Q ∧
      Q.Sees m script o [(.describe "api-lb", .ok r.answer)] Q ∧
      ∃ d report, (m.act script (.operate o)).result = .ok (.description (some d)) ∧
        d.toReport = .ok report ∧ report.item "state" = .ok (.text "public") := by
  intro m k P Q r script o
  have hkept : P "api-lb" = some k := Function.update_self ..
  have hsees : P.Sees m ⟨[.ok (.record [])], none, none⟩ (.setPublic (.text "api-lb") .null)
      [(.bind "api-lb" (.forwarding .controlPlane), .ok (.record []))] Q :=
    ⟨rfl, rfl, .cons (.bound hkept fun _ h => by cases h) (.nil _)⟩
  have hset : P.Sets "api-lb" .controlPlane .exposed Q := .manager rfl hsees rfl
  have hnow : Q "api-lb" = some (k.bind (.forwarding .controlPlane)) := Function.update_self ..
  have honly := Held.hasOnly_bind_bare "lb.example" (.forwarding .controlPlane)
  have hdescribe : Q.Sees m script o [(.describe "api-lb", .ok r.answer)] Q :=
    m.sees_describe rfl hnow (honly.isToldBy rfl rfl "api-lb")
  obtain ⟨hshown, hreports, -⟩ := shown_exposure_is_on_standard_port hkept hset
  obtain ⟨d, report, hresult, hreport, hstate⟩ :=
    hreports m script _ Q hdescribe isCalm_of_ok tellsDates_of_answer
  rw [hshown.mpr (.inl rfl)] at hstate
  exact ⟨hkept, hset, hdescribe, d, report, hresult, hreport, hstate⟩

/-- What is exposed on another port, by a manager or by a command, is reported and printed as
hidden. -/
theorem exposed_elsewhere_shows_hidden :
    let p : Port := ⟨443, by decide, by decide⟩
    let k := Held.bare "lb.example"
    let P : Provider := .put (fun _ => none) "api-lb" k
    let Q : Provider := P.put "api-lb" (k.setExposure p .exposed)
    let t : List Exchange := [(.bind "api-lb" (.forwarding p), .ok (.record []))]
    let script : Script := ⟨[.ok (.record [])], none, none⟩
    let m := Manager.ofSettings ⟨.null, .null, p, .standard⟩
    let x := m.act script (.operate (.setPublic (.text "api-lb") .null))
    let env : Cli.Environment := ⟨none, none, none⟩
    let report := Cli.run env script ["set-public", "--name", "api-lb", "--port", "443"]
    let r : Description.Report := ⟨"api-lb", "lb.example", [.forwarding p], [], none⟩
    let script' : Script := ⟨[.ok r.answer], none, none⟩
    let x' := (m.next x).act script' (.operate (.describe (.text "api-lb")))
    let report' := Cli.run env script' ["describe", "--name", "api-lb"]
    P.Sees m script (.setPublic (.text "api-lb") .null) t Q ∧ x.result = .ok .nothing ∧
      P.SeesCommand script report t Q ∧ report.printed.exitCode = 0 ∧
      Q.Sees (m.next x) script' (.describe (.text "api-lb"))
        [(.describe "api-lb", .ok r.answer)] Q ∧
      (∃ d told, x'.result = .ok (.description (some d)) ∧ d.toReport = .ok told ∧
        told.item "state" = .ok (.text "private")) ∧
      Q.SeesCommand script' report' [(.describe "api-lb", .ok r.answer)] Q ∧
      ¬ Cli.PrintsExposure report'.printed.output "api-lb" "lb.example" .exposed := by
  intro p k P Q t script m x env report r script' x' report'
  have hn : Name.IsValid "api-lb" := rfl
  have hbound : P.Serves t Q :=
    .cons (.bound (Function.update_self ..) fun _ h => by cases h) (.nil _)
  have hnow : Q "api-lb" = some (k.bind (.forwarding p)) := Function.update_self ..
  have honly := Held.hasOnly_bind_bare "lb.example" (.forwarding p)
  have htold : (k.bind (.forwarding p)).IsToldBy "api-lb" r := honly.isToldBy rfl rfl "api-lb"
  have hdescribe : Q.Sees (m.next x) script' (.describe (.text "api-lb"))
      [(.describe "api-lb", .ok r.answer)] Q := (m.next x).sees_describe hn hnow htold
  have hreports := Manager.reports_of_sees hn hnow hdescribe isCalm_of_ok tellsDates_of_answer
  let rest := ["--name", "api-lb"]
  have hopening : Cli.readOpening ("describe" :: rest) = .ok (.verb false .describe rest) := rfl
  have hread : Cli.readCommand env .describe rest =
      .ok (.invocation ⟨some "api-lb", none, none, .describe .text⟩) := rfl
  have hcommand : Q.SeesCommand script' report' [(.describe "api-lb", .ok r.answer)] Q :=
    Cli.seesCommand_describe hopening hread rfl hn hnow htold
  have hprints := Cli.printsExposure_of_command hopening hread rfl hn hnow hcommand rfl
    isCalm_of_ok tellsDates_of_answer
  exact ⟨⟨rfl, rfl, hbound⟩, rfl, ⟨rfl, rfl, hbound⟩, rfl, hdescribe, hreports, hcommand,
    fun h => by cases h.unique hprints⟩

end Balancer
