import Balancer.Proofs.Numerals
import Balancer.Proofs.Reading

/-!
Health checks on the wire: what is written can be read back.

A target is one text, and its parts are found again because no protocol's name holds a colon and no
path begins with a digit. Main statements: a health check made from integers and a text survives the
provider's form (`ofWire_of_tells`), and so does every one that is decoded (`decoded_comes_back`).
-/

namespace Balancer

lemma Protocol.check_toValue (p : Protocol) : check p.toValue = .ok p := by
  cases p <;> rfl

lemma Protocol.colon_not_mem (p : Protocol) : ':' ∉ p.name.toList := by
  cases p <;> decide

namespace HealthCheck

/-- A health check that can be made from integers and a text. -/
def IsRegular (h : HealthCheck) : Prop :=
  ∃ (protocol port : Value) (path : String) (interval timeout healthy unhealthy : Int),
    ofParts protocol (.text path) port (.int interval) (.int timeout) (.int healthy)
      (.int unhealthy) = .ok h

/-- A value holds a health check in the provider's form, whatever else it holds. -/
structure Tells (h : HealthCheck) (v : Value) : Prop where
  target : v.item "Target" = .ok (.text h.target)
  interval : v.item "Interval" = .ok h.interval.toValue
  timeout : v.item "Timeout" = .ok h.timeout.toValue
  healthy : v.item "HealthyThreshold" = .ok h.healthy.toValue
  unhealthy : v.item "UnhealthyThreshold" = .ok h.unhealthy.toValue

lemma tells_toWire (h : HealthCheck) : h.Tells h.toWire := ⟨rfl, rfl, rfl, rfl, rfl⟩

lemma ofParts_eq_ok_iff {protocol path port interval timeout healthy unhealthy : Value}
    {h : HealthCheck} :
    ofParts protocol path port interval timeout healthy unhealthy = .ok h ↔
      Protocol.check protocol = .ok h.protocol ∧
      Port.check (.text "health_check.port") port = .ok h.port ∧
      checkPath h.protocol path = .ok h.path ∧
      Quantity.check "health_check.interval" 5 300 "Must be 5-300 seconds" interval =
        .ok h.interval ∧
      Quantity.check "health_check.timeout" 2 60 "Must be 2-60 seconds" timeout = .ok h.timeout ∧
      h.timeout.isBelow h.interval = true ∧
      Quantity.check "health_check.healthy_threshold" 2 10 "Must be 2-10" healthy =
        .ok h.healthy ∧
      Quantity.check "health_check.unhealthy_threshold" 2 10 "Must be 2-10" unhealthy =
        .ok h.unhealthy := by
  simp only [ofParts, bind_eq_ok_iff]
  constructor
  · rintro ⟨pr, hpr, po, hpo, pa, hpa, i, hi, t, ht, h⟩
    split at h
    · cases h
    · next hbelow =>
      simp only [bind_eq_ok_iff] at h
      obtain ⟨h1, hh1, h2, hh2, h⟩ := h
      cases h
      exact ⟨hpr, hpo, hpa, hi, ht, by simpa using hbelow, hh1, hh2⟩
  · rintro ⟨hpr, hpo, hpa, hi, ht, hbelow, hh1, hh2⟩
    refine ⟨_, hpr, _, hpo, _, hpa, _, hi, _, ht, ?_⟩
    rw [if_neg (by simp [hbelow])]
    simp only [hh1, hh2, ok_bind]
    rfl

lemma check_int_eq {field reason : String} {lo hi n : Int} {q : Quantity}
    (h : Quantity.check field lo hi reason (.int n) = .ok q) : q = .whole n := by
  simp only [Quantity.check, Quantity.ofValue?] at h
  split at h <;> cases h
  rfl

lemma toInteger_toValue {field reason : String} {lo hi n : Int} {q : Quantity}
    (h : Quantity.check field lo hi reason (.int n) = .ok q) : q.toValue.toInteger = .ok n := by
  rw [check_int_eq h]
  rfl

lemma checkPath_text {pr : Protocol} {path : String} {v : Value}
    (h : checkPath pr (.text path) = .ok v) :
    ∃ kept, v = .text kept ∧ checkPath pr (.text kept) = .ok v ∧
      ∀ c, kept.toList.head? = some c → Text.isDigit c = false := by
  rcases hpath : pr.hasPath with _ | _
  · have hv : v = .text "" := by
      simp only [checkPath, hpath] at h
      rw [if_neg (by decide)] at h
      rw [← Except.ok.inj h]
      split
      · rfl
      · next hgiven =>
        have hempty : path = "" := by simpa [Value.isGiven] using hgiven
        rw [hempty]
    refine ⟨"", hv, ?_, by simp⟩
    simp only [checkPath, hpath, hv]
    rfl
  · have hkeep := h
    simp only [checkPath, hpath, if_true] at hkeep
    split at hkeep
    · next hslash =>
      cases hkeep
      refine ⟨path, rfl, h, fun c hc => ?_⟩
      rw [hslash] at hc
      cases hc
      decide
    · cases hkeep

lemma toList_target {h : HealthCheck} {path : String} (hpath : h.path = .text path) :
    h.target.toList =
      h.protocol.name.toList ++ ':' :: (Nat.toDigits 10 h.port.number ++ path.toList) := by
  simp [target, hpath, Value.shown]

/-- The parts of a target: what stands before its first colon, the digits after it, and what is
left. -/
inductive HasParts : List Char → List Char → List Char → List Char → Prop
  | bare {w : List Char} (hw : ':' ∉ w) : HasParts w w [] []
  | parted {w d r : List Char} (hw : ':' ∉ w) (hd : ∀ c ∈ d, Text.isDigit c = true)
      (hr : ∀ c, r.head? = some c → Text.isDigit c = false) : HasParts (w ++ ':' :: (d ++ r)) w d r

lemma HasParts.ne_colon {s w d r : List Char} (h : HasParts s w d r) :
    ∀ c ∈ w, (c != ':') = true := by
  have hw : ':' ∉ w := by cases h <;> assumption
  intro c hc
  rw [bne_iff_ne]
  rintro rfl
  exact hw hc

lemma splitTarget_of_hasParts {s w d r : List Char} (h : HasParts s w d r) :
    splitTarget s = (w, d, r) := by
  have hall := h.ne_colon
  cases h with
  | bare hw =>
    have hrest : s.dropWhile (· != ':') = [] := List.dropWhile_eq_nil_iff.mpr hall
    simp only [splitTarget, hrest, List.takeWhile_eq_self_iff.mpr hall]
    rfl
  | parted hw hd hr =>
    have hrest : ((w ++ ':' :: (d ++ r)).dropWhile (· != ':')).drop 1 = d ++ r := by
      rw [List.dropWhile_append_of_pos hall, List.dropWhile_cons_of_neg (by decide),
        List.drop_succ_cons, List.drop_zero]
    have htake : r.takeWhile Text.isDigit = [] ∧ r.dropWhile Text.isDigit = r := by
      rcases r with _ | ⟨c, r⟩
      · exact ⟨rfl, rfl⟩
      · have hc : ¬ Text.isDigit c = true := by simp [hr c rfl]
        exact ⟨List.takeWhile_cons_of_neg hc, List.dropWhile_cons_of_neg hc⟩
    simp only [splitTarget, hrest]
    rw [List.takeWhile_append_of_pos hall, List.takeWhile_cons_of_neg (by decide), List.append_nil,
      List.takeWhile_append_of_pos hd, List.dropWhile_append_of_pos hd, htake.1, htake.2,
      List.append_nil]

lemma exists_hasParts (s : List Char) : ∃ w d r, HasParts s w d r := by
  have hw : ':' ∉ s.takeWhile (· != ':') := fun hmem => by
    have hne := List.mem_takeWhile_imp hmem
    cases hne
  have hs : s.takeWhile (· != ':') ++ s.dropWhile (· != ':') = s := List.takeWhile_append_dropWhile
  rcases hrest : s.dropWhile (· != ':') with _ | ⟨c, rest⟩
  · rw [hrest, List.append_nil] at hs
    rw [hs] at hw
    exact ⟨s, [], [], .bare hw⟩
  · obtain rfl : c = ':' := by
      have hc := List.head?_dropWhile_not (· != ':') s
      rw [hrest] at hc
      simpa using hc
    have hleft : ∀ c, (rest.dropWhile Text.isDigit).head? = some c → Text.isDigit c = false := by
      intro c hc
      have hfirst := List.head?_dropWhile_not Text.isDigit rest
      rw [hc] at hfirst
      exact hfirst
    have hdigits : ∀ c ∈ rest.takeWhile Text.isDigit, Text.isDigit c = true := fun c hc =>
      List.mem_takeWhile_imp hc
    have hparted := HasParts.parted hw hdigits hleft
    rw [List.takeWhile_append_dropWhile, ← hrest, hs] at hparted
    exact ⟨_, _, _, hparted⟩

lemma splitTarget_target {h : HealthCheck} {path : String} (hpath : h.path = .text path)
    (hfirst : ∀ c, path.toList.head? = some c → Text.isDigit c = false) :
    splitTarget h.target.toList =
      (h.protocol.name.toList, Nat.toDigits 10 h.port.number, path.toList) := by
  have hdigits : ∀ c ∈ Nat.toDigits 10 h.port.number, Text.isDigit c = true := fun c hc =>
    Text.isDigit_of_ascii (Nat.isDigit_of_mem_toDigits (by omega) (by omega) hc)
  rw [toList_target hpath]
  exact splitTarget_of_hasParts (.parted h.protocol.colon_not_mem hdigits hfirst)

/-- **A health check survives the wire**, if it can be made from integers and a text. -/
theorem ofWire_of_tells {h : HealthCheck} {v : Value} (hregular : h.IsRegular)
    (hv : h.Tells v) : ofWire v = .ok h := by
  obtain ⟨protocol, port, path, interval, timeout, healthy, unhealthy, hparts⟩ := hregular
  obtain ⟨-, -, hpath, hi, ht, hbelow, hh, hu⟩ := ofParts_eq_ok_iff.mp hparts
  obtain ⟨kept, hkept, hcheck, hfirst⟩ := checkPath_text hpath
  have hport : (Value.text (.ofList (Nat.toDigits 10 h.port.number))).toInteger =
      .ok h.port.number := by
    have hlength : (Nat.toDigits 10 h.port.number).length ≤ Text.maxDigits := by
      have hfew : (Nat.toDigits 10 h.port.number).length ≤ 5 :=
        (Nat.length_toDigits_le_iff (by omega) (by omega)).mpr (by have := h.port.le_max; omega)
      exact Nat.le_trans hfew (by decide)
    simp only [Value.toInteger, Text.readInteger_toDigits hlength]
  have hagain : ofParts h.protocol.toValue (.text kept) (.int h.port.number) (.int interval)
      (.int timeout) (.int healthy) (.int unhealthy) = .ok h :=
    ofParts_eq_ok_iff.mpr ⟨h.protocol.check_toValue, Port.check_toValue _ h.port, hcheck, hi, ht,
      hbelow, hh, hu⟩
  have hempty : (Nat.toDigits 10 h.port.number).isEmpty = false := by
    simp [Nat.toDigits_ne_nil]
  simp only [ofWire, hv.target, ok_bind, splitTarget_target hkept hfirst, hempty]
  simp only [hv.interval, hv.timeout, hv.healthy, hv.unhealthy, ok_bind, toInteger_toValue hi,
    toInteger_toValue ht, toInteger_toValue hh, toInteger_toValue hu, hport]
  simp only [Bool.false_eq_true, if_false, String.ofList_toList]
  have hname : Protocol.check (.text h.protocol.name) = .ok h.protocol := h.protocol.check_toValue
  rw [hname, ok_bind, hagain]

/-- What is decoded is made from integers and a text, whatever its numbers were written as. -/
lemma isRegular_of_ofWire {v : Value} {h : HealthCheck} (hv : ofWire v = .ok h) : h.IsRegular := by
  simp only [ofWire, bind_eq_ok_iff] at hv
  obtain ⟨target, -, hv⟩ := hv
  split at hv
  · split at hv
    · cases hv
    · simp only [bind_eq_ok_iff] at hv
      obtain ⟨protocol, -, port, -, -, -, interval, -, -, -, timeout, -, -, -, healthy, -, -, -,
        unhealthy, -, hparts⟩ := hv
      exact ⟨_, _, _, _, _, _, _, hparts⟩
  · cases hv

/-- **Decoding undoes encoding.** A health check that is made from integers and a text comes back
from the provider's form as it was; and so does every one that is decoded, however the provider
wrote its target and its numbers. -/
theorem decoded_comes_back :
    (∀ (protocol port : Value) (path : String) (interval timeout healthy unhealthy : Int)
      (h : HealthCheck), ofParts protocol (.text path) port (.int interval) (.int timeout)
        (.int healthy) (.int unhealthy) = .ok h → ofWire h.toWire = .ok h) ∧
    ∀ (v : Value) (h : HealthCheck), ofWire v = .ok h → ofWire h.toWire = .ok h := by
  constructor
  · intro protocol port path interval timeout healthy unhealthy h hparts
    have hregular : h.IsRegular :=
      ⟨protocol, port, path, interval, timeout, healthy, unhealthy, hparts⟩
    exact ofWire_of_tells hregular h.tells_toWire
  · intro v h hv
    exact ofWire_of_tells (isRegular_of_ofWire hv) h.tells_toWire

/-- A path that holds what a target is split at, and a target in digits of another script, with a
text after it that an SSL probe does not keep. -/
theorem decoded_of_other_script :
    let h : HealthCheck := ⟨.https, .text "/a:80/é\n", ⟨8443, by decide, by decide⟩, .whole 10,
      .whole 9, .whole 2, .whole 10⟩
    let v := Value.record [("Target", .text "ssl:٠٤٤٣/x"), ("Interval", .text " 30 "),
      ("Timeout", .real (.ofDecimal false 35 (-1))), ("HealthyThreshold", .text "+1_0"),
      ("UnhealthyThreshold", .int 2)]
    let k : HealthCheck := ⟨.ssl, .text "", ⟨443, by decide, by decide⟩, .whole 30, .whole 3,
      .whole 10, .whole 2⟩
    ofParts (.text "hTTpS") (.text "/a:80/é\n") (.int 8443) (.int 10) (.int 9) (.int 2) (.int 10) =
        .ok h ∧ ofWire h.toWire = .ok h ∧ ofWire v = .ok k ∧ ofWire k.toWire = .ok k := by
  intro h v k
  have hparts : ofParts (.text "hTTpS") (.text "/a:80/é\n") (.int 8443) (.int 10) (.int 9) (.int 2)
      (.int 10) = .ok h := rfl
  have hv : ofWire v = .ok k := rfl
  exact ⟨hparts, decoded_comes_back.1 _ _ _ _ _ _ _ _ hparts, hv, decoded_comes_back.2 _ _ hv⟩

end HealthCheck

end Balancer
