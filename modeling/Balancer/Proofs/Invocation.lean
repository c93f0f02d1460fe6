import Balancer.Cli.Run
import Balancer.Proofs.Target

/-!
What an invocation asks for: which operation of which manager, and when it is refused before that.

The options of a command are tested one by one when they are read. What is left to be refused then
is a name that is none, or a health check whose parts do not go together. Main statements: the
numbers of a command that is read are within the bounds of their options (`inRange_of_readCommand`),
and such a command is refused exactly in these cases and otherwise asks for its one operation
(`resolve_eq`).
-/

namespace Balancer

/-! ### Health checks of texts and integers -/

namespace HealthCheck

/-- The health check of the given parts. Without a path to ask for none is kept. -/
def ofNumbers (protocol : Protocol) (path : String) (port : Port)
    (interval timeout healthy unhealthy : Int) : HealthCheck :=
  ⟨protocol, .text (if protocol.hasPath then path else ""), port, .whole interval, .whole timeout,
    .whole healthy, .whole unhealthy⟩

/-- The parts do not go together: a probe may take as long as the interval, or there is a path to
ask for that does not start at the root. -/
def IsUnfit (protocol : Protocol) (path : String) (interval timeout : Int) : Prop :=
  interval ≤ timeout ∨ (protocol.hasPath = true ∧ path.toList.head? ≠ some '/')

structure AreBounded (interval timeout healthy unhealthy : Int) : Prop where
  interval : 5 ≤ interval ∧ interval ≤ 300
  timeout : 2 ≤ timeout ∧ timeout ≤ 60
  healthy : 2 ≤ healthy ∧ healthy ≤ 10
  unhealthy : 2 ≤ unhealthy ∧ unhealthy ≤ 10

lemma check_int_of_bounds {field reason : String} {lo hi n : Int} (h : lo ≤ n ∧ n ≤ hi) :
    Quantity.check field lo hi reason (.int n) = .ok (.whole n) := by
  have hwithin : (Quantity.whole n).isWithin lo hi = true := by
    simp only [Quantity.isWithin, Quantity.compareInt?, Option.any_some, Bool.and_eq_true]
    exact ⟨Int.isGE_compare.mpr h.1, Int.isLE_compare.mpr h.2⟩
  simp [Quantity.check, Quantity.ofValue?, hwithin]

lemma isBelow_whole_iff {m n : Int} : (Quantity.whole m).isBelow (.whole n) = true ↔ m < n := by
  simp [Quantity.isBelow, Quantity.toValue, Value.compareNumbers?, Value.compareWith?,
    Int.compare_eq_lt]

lemma checkPath_text_eq_ok_iff {protocol : Protocol} {path : String} {v : Value} :
    checkPath protocol (.text path) = .ok v ↔
      (protocol.hasPath = true → path.toList.head? = some '/') ∧
        v = .text (if protocol.hasPath then path else "") := by
  rcases hpath : protocol.hasPath with _ | _
  · have hnone : checkPath protocol (.text path) = .ok (.text "") := by
      simp only [checkPath, hpath, Value.isGiven]
      by_cases hempty : path = "" <;> simp [hempty]
    rw [hnone]
    simp [eq_comm]
  · simp only [checkPath, hpath, if_true]
    by_cases hroot : path.toList.head? = some '/' <;> simp [hroot, eq_comm]

/-- **Bounded numbers make a health check exactly if its parts go together.** -/
theorem ofParts_int_eq_ok_iff {interval timeout healthy unhealthy : Int}
    (hbounds : AreBounded interval timeout healthy unhealthy) (protocol : Protocol) (path : String)
    (port : Port) {h : HealthCheck} :
    ofParts protocol.toValue (.text path) port.toValue (.int interval) (.int timeout) (.int healthy)
        (.int unhealthy) = .ok h ↔
      ¬ IsUnfit protocol path interval timeout ∧
        h = ofNumbers protocol path port interval timeout healthy unhealthy := by
  obtain ⟨hi, ht, hh, hu⟩ := hbounds
  rw [ofParts_eq_ok_iff, Protocol.check_toValue, Port.check_toValue, check_int_of_bounds hi,
    check_int_of_bounds ht, check_int_of_bounds hh, check_int_of_bounds hu, IsUnfit, not_or,
    Int.not_le, not_and, not_not]
  obtain ⟨pr, pa, po, i, t, hh, uh⟩ := h
  simp only [Except.ok.injEq, ofNumbers, HealthCheck.mk.injEq]
  constructor
  · rintro ⟨rfl, rfl, hpath, rfl, rfl, hbelow, rfl, rfl⟩
    obtain ⟨hroot, rfl⟩ := checkPath_text_eq_ok_iff.mp hpath
    exact ⟨⟨isBelow_whole_iff.mp hbelow, hroot⟩, rfl, rfl, rfl, rfl, rfl, rfl, rfl⟩
  · rintro ⟨⟨hbelow, hroot⟩, rfl, rfl, rfl, rfl, rfl, rfl, rfl⟩
    exact ⟨rfl, rfl, checkPath_text_eq_ok_iff.mpr ⟨hroot, rfl⟩, rfl, rfl,
      isBelow_whole_iff.mpr hbelow, rfl, rfl⟩

end HealthCheck

namespace Cli

/-! ### What is read -/

def Command.InRange : Command → Prop
  | .healthCheck _ _ _ interval timeout healthy unhealthy =>
    HealthCheck.AreBounded interval timeout healthy unhealthy
  | _ => True

lemma Words.bounds_of_wholeValue {w : Words} {name : String} {lo hi otherwise n : Int}
    (hotherwise : lo ≤ otherwise ∧ otherwise ≤ hi)
    (h : w.wholeValue name lo hi otherwise = .ok n) : lo ≤ n ∧ n ≤ hi := by
  unfold Words.wholeValue at h
  split at h
  · cases h
    exact hotherwise
  · split at h
    · cases h
    · split at h
      · cases h
      · next hwithin =>
        cases h
        omega

lemma Command.inRange_of_readHealthCheck {w : Words} {c : Command}
    (h : readHealthCheck w = .ok c) : c.InRange := by
  simp only [readHealthCheck, bind_eq_ok_iff] at h
  obtain ⟨-, -, protocol, -, port, -, interval, hi, timeout, ht, healthy, hh, unhealthy, hu, h⟩ := h
  cases h
  exact ⟨Words.bounds_of_wholeValue (by decide) hi, Words.bounds_of_wholeValue (by decide) ht,
    Words.bounds_of_wholeValue (by decide) hh, Words.bounds_of_wholeValue (by decide) hu⟩

lemma Command.inRange_of_ofWords {v : Verb} {w : Words} {c : Command} (h : ofWords v w = .ok c) :
    c.InRange := by
  cases v with
  | healthCheck => exact inRange_of_readHealthCheck h
  | _ =>
    simp only [ofWords, bind_eq_ok_iff, pure, Except.pure, Except.ok.injEq] at h
    grind [Command.InRange]

lemma exists_ofWords_of_readCommand {env : Environment} {v : Verb} {words : List String}
    {i : Invocation} (h : readCommand env v words = .ok (.invocation i)) :
    ∃ w, Command.ofWords v w = .ok i.command := by
  simp only [readCommand, bind_eq_ok_iff] at h
  obtain ⟨w, -, h⟩ := h
  split at h
  · cases h
  · simp only [bind_eq_ok_iff] at h
    obtain ⟨c, hc, h⟩ := h
    split at h
    · cases h
    · cases h
      exact ⟨w, hc⟩

/-- **What is read is within its bounds.** -/
theorem inRange_of_readCommand {env : Environment} {v : Verb} {words : List String}
    {i : Invocation} (h : readCommand env v words = .ok (.invocation i)) : i.command.InRange := by
  obtain ⟨w, hw⟩ := exists_ofWords_of_readCommand h
  exact Command.inRange_of_ofWords hw

def Command.verb : Command → Verb
  | .provision .. => .provision
  | .setPublic _ => .setPublic
  | .setPrivate _ => .setPrivate
  | .addInstances _ => .addInstances
  | .removeInstances _ => .removeInstances
  | .existence => .existence
  | .describe _ => .describe
  | .healthCheck .. => .healthCheck

lemma Command.verb_of_readHealthCheck {w : Words} {c : Command} (h : readHealthCheck w = .ok c) :
    c.verb = .healthCheck := by
  simp only [readHealthCheck, bind_eq_ok_iff] at h
  obtain ⟨-, -, protocol, -, port, -, interval, -, timeout, -, healthy, -, unhealthy, -, h⟩ := h
  cases h
  rfl

lemma Command.verb_of_ofWords {v : Verb} {w : Words} {c : Command} (h : ofWords v w = .ok c) :
    c.verb = v := by
  cases v with
  | healthCheck => exact verb_of_readHealthCheck h
  | _ =>
    simp only [ofWords, bind_eq_ok_iff, pure, Except.pure, Except.ok.injEq] at h
    grind [Command.verb]

lemma verb_of_readCommand {env : Environment} {v : Verb} {words : List String}
    {i : Invocation} (h : readCommand env v words = .ok (.invocation i)) : i.command.verb = v := by
  obtain ⟨w, hw⟩ := exists_ofWords_of_readCommand h
  exact Command.verb_of_ofWords hw

/-! ### What is asked for -/

/-- The operation of a command on a load balancer, and the port that counts as the control plane's
for it. -/
inductive Command.Asks (n : String) : Command → Port → Operation → Prop
  | provision (subnets : List String) (port : Port) :
      Asks n (.provision subnets port) .controlPlane
        (.provision (.text n) (.list (subnets.map .text)) port.toValue)
  | setPublic (port : Port) : Asks n (.setPublic port) port (.setPublic (.text n) port.toValue)
  | setPrivate (port : Port) : Asks n (.setPrivate port) port (.setPrivate (.text n))
  | addInstances (ids : List String) :
      Asks n (.addInstances ids) .controlPlane (.addInstances (.text n) (.list (ids.map .text)))
  | removeInstances (ids : List String) :
      Asks n (.removeInstances ids) .controlPlane
        (.removeInstances (.text n) (.list (ids.map .text)))
  | existence : Asks n .existence .controlPlane (.existence (.text n))
  | describe (format : Format) : Asks n (.describe format) .controlPlane (.describe (.text n))
  | healthCheck (protocol : Protocol) (path : String) (port : Port)
      (interval timeout healthy unhealthy : Int) :
      Asks n (.healthCheck protocol path port interval timeout healthy unhealthy) .controlPlane
        (.configureHealthCheck (.text n)
          (some (.ofNumbers protocol path port interval timeout healthy unhealthy)))

def Command.IsUnfit : Command → Prop
  | .healthCheck protocol path _ interval timeout _ _ =>
    HealthCheck.IsUnfit protocol path interval timeout
  | _ => False

lemma Command.operation_of_unfit {c : Command} (hc : c.InRange) (h : c.IsUnfit) (n : String) :
    ∃ e, c.operation n = .error e := by
  cases c with
  | healthCheck protocol path port interval timeout healthy unhealthy =>
    rcases hcheck : HealthCheck.ofParts protocol.toValue (.text path) port.toValue (.int interval)
      (.int timeout) (.int healthy) (.int unhealthy) with r | check
    · exact ⟨.badValue r, by simp only [Command.operation, hcheck]⟩
    · exact absurd h ((HealthCheck.ofParts_int_eq_ok_iff hc protocol path port).mp hcheck).1
  | _ => exact h.elim

lemma Command.operation_of_fit {c : Command} (hc : c.InRange) (h : ¬ c.IsUnfit) (n : String) :
    ∃ o, c.operation n = .ok o ∧ c.Asks n c.controlPlanePort o := by
  cases c with
  | provision subnets port => exact ⟨_, rfl, .provision subnets port⟩
  | setPublic port => exact ⟨_, rfl, .setPublic port⟩
  | setPrivate port => exact ⟨_, rfl, .setPrivate port⟩
  | addInstances ids => exact ⟨_, rfl, .addInstances ids⟩
  | removeInstances ids => exact ⟨_, rfl, .removeInstances ids⟩
  | existence => exact ⟨_, rfl, .existence⟩
  | describe format => exact ⟨_, rfl, .describe format⟩
  | healthCheck protocol path port interval timeout healthy unhealthy =>
    have hcheck := (HealthCheck.ofParts_int_eq_ok_iff hc protocol path port).mpr ⟨h, rfl⟩
    refine ⟨_, ?_, .healthCheck protocol path port interval timeout healthy unhealthy⟩
    simp only [Command.operation, hcheck]

/-- The name that is meant: the one that is given, or else the environment's. -/
def Invocation.named (env : Environment) (i : Invocation) : String :=
  ((i.name.filter (!·.isEmpty)).or env.name).getD ""

/-- An invocation that comes to nothing: it does not name a load balancer, or its parts do not go
together. -/
def Invocation.IsRefused (env : Environment) (i : Invocation) : Prop :=
  ¬ Name.IsValid (i.named env) ∨ i.command.IsUnfit

lemma Invocation.resolve_named (env : Environment) (i : Invocation) :
    Name.resolve (.ofText? i.name) (.ofText? env.name) = Name.check (.text (i.named env)) := by
  have hsupplied : ((Value.ofText? env.name).orElse (.text "")) = .text (env.name.getD "") := by
    rcases env.name with _ | s
    · rfl
    · by_cases hs : s = ""
      · rw [hs]; rfl
      · simp [Value.ofText?, Value.ofOption, Value.orElse, Value.isGiven, hs]
  rw [Name.resolve, named]
  congr 1
  rcases hname : i.name with _ | s
  · exact hsupplied
  · by_cases hs : s = ""
    · rw [hs]
      exact hsupplied
    · simp [Value.ofText?, Value.ofOption, Value.orElse, Value.isGiven, Option.filter, hs]

/-- **An invocation is refused, or it asks for the operation of its command.** -/
theorem Invocation.resolve_eq (env : Environment) {i : Invocation} (hi : i.command.InRange) :
    (i.IsRefused env → ∃ e, i.resolve env = .error e) ∧
    (¬ i.IsRefused env → ∃ o, i.resolve env = .ok (i.named env, o) ∧
      i.command.Asks (i.named env) i.command.controlPlanePort o) := by
  rw [IsRefused, resolve, resolve_named]
  rcases hcheck : Name.check (.text (i.named env)) with r | n
  · refine ⟨fun _ => ⟨.badName r, rfl⟩, fun h => absurd (.inl fun hn => ?_) h⟩
    rw [Name.IsValid, hcheck] at hn
    cases hn
  · obtain ⟨rfl, hn⟩ := Name.isValid_of_check hcheck
    rw [not_or, not_not]
    constructor
    · rintro (h | h)
      · exact absurd hn h
      · obtain ⟨e, he⟩ := Command.operation_of_unfit hi h (i.named env)
        exact ⟨e, by simp only [he]; rfl⟩
    · rintro ⟨-, h⟩
      obtain ⟨o, ho, hasks⟩ := Command.operation_of_fit hi h (i.named env)
      exact ⟨o, by simp only [ho]; rfl, hasks⟩

end Cli

end Balancer
