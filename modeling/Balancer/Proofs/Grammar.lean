import Balancer.Proofs.Decoding
import Balancer.Proofs.Invocation
import Balancer.Proofs.Writing

/-!
The grammar of targets, and what becomes of the texts outside of it.

A target is a protocol, a colon, a port and a rest. What is decoded is found by the target's parts,
and the parts know more digits and more spellings than the grammar does. Main statements: which
targets are decoded, and which of the others are not even refused as a value that breaks a rule, by
their parts; and where protocol and digits are of ASCII, and the digits not too many, the first are
those of the grammar and there are none of the second (`decoded_by_parts`).
-/

namespace Balancer

/-! ### Words of ASCII -/

namespace Text

lemma capital_of_ascii {c : Char} (h : c.toNat < 128) : capital c = [c.toUpper] := by
  unfold capital
  split <;> first | omega | rfl

lemma capitals_of_ascii {s : List Char} (h : ∀ c ∈ s, c.toNat < 128) :
    capitals (.ofList s) = .ofList (s.map Char.toUpper) := by
  have hmap : ∀ s : List Char, (∀ c ∈ s, c.toNat < 128) →
      s.flatMap capital = s.map Char.toUpper := by
    intro s
    induction s with
    | nil => exact fun _ => rfl
    | cons c r ih =>
      intro h
      rw [List.flatMap_cons, capital_of_ascii (h c List.mem_cons_self),
        ih fun d hd => h d (List.mem_cons_of_mem _ hd)]
      rfl
  rw [capitals, String.toList_ofList, hmap s h]

end Text

namespace HealthCheck

/-! ### The grammar -/

/-- The rest of a target by its protocol: a path from the root on, or what no digit begins. -/
def IsRest (p : Protocol) (r : List Char) : Prop :=
  if p.hasPath then r.head? = some '/' else ∀ c, r.head? = some c → c.isDigit = false

/-- The grammar of targets: the protocol in any letter case, a colon, the port in decimal digits,
and a rest. All but the rest is of ASCII. -/
inductive IsTarget : List Char → Protocol → Port → List Char → Prop
  | mk {p : Protocol} {port : Port} {w d r : List Char} (hw : w.map Char.toUpper = p.name.toList)
      (hne : d ≠ []) (hd : ∀ c ∈ d, c.isDigit) (hport : Nat.ofDigitChars 10 d 0 = port.number)
      (hr : IsRest p r) : IsTarget (w ++ ':' :: (d ++ r)) p port r

/-- The protocol and the digits are of ASCII, and the digits are not too many for a numeral. -/
structure IsPlain (w d : List Char) : Prop where
  word : ∀ c ∈ w, c.toNat < 128
  digits : ∀ c ∈ d, c.isDigit
  length : d.length ≤ Text.maxDigits

/-- A value holds a target, and with it integers that are within their bounds and go together. -/
structure Poses (v : Value) (s : String) (interval timeout healthy unhealthy : Int) : Prop where
  bounds : AreBounded interval timeout healthy unhealthy
  below : timeout < interval
  target : v.item "Target" = .ok (.text s)
  interval : v.item "Interval" = .ok (.int interval)
  timeout : v.item "Timeout" = .ok (.int timeout)
  healthy : v.item "HealthyThreshold" = .ok (.int healthy)
  unhealthy : v.item "UnhealthyThreshold" = .ok (.int unhealthy)

end HealthCheck

/-! ### Refusals -/

lemma Port.refuses_of_check {field : String} {v : Value} {e : Rejection}
    (h : check (.text field) v = .error e) : e.Refuses v := by
  simp only [check] at h
  split at h
  · split at h <;> cases h
    exact Rejection.refuses_ofParts rfl rfl
  · cases h
    exact Rejection.refuses_ofParts rfl rfl

lemma Protocol.isInvalid_of_check {s : String} {e : Rejection}
    (h : check (.text s) = .error e) : e.IsInvalid := by
  simp only [check] at h
  split at h <;> cases h
  exact Rejection.isInvalid_breaking_text ..

lemma Value.toInteger_text_eq_ok_iff {s : String} {n : Int} :
    (Value.text s).toInteger = .ok n ↔ Text.readInteger s = .ok n := by
  rw [toInteger]
  rcases Text.readInteger s with (_ | _) | m <;> simp

lemma Value.not_isLong_of_isNumeral {d : List Char} (h : Text.IsNumeral d) :
    ¬ (Value.int (Text.digitsValue d : Nat)).IsLong := by
  rintro ⟨_, ⟨⟩, hlong⟩
  exact absurd h.length_toDigits_le (Nat.not_le_of_lt hlong)

lemma Value.not_isInvalid_of_toInteger_text {s : String} {e : Rejection}
    (h : (Value.text s).toInteger = .error e) : ¬ e.IsInvalid := by
  rw [toInteger] at h
  rintro ⟨field, value, reason, _, rfl⟩
  rcases hread : Text.readInteger s with (_ | _) | m <;> rw [hread] at h <;> cases h

namespace HealthCheck

lemma isInvalid_of_checkPath {p : Protocol} {path : String} {e : Rejection}
    (h : checkPath p (.text path) = .error e) : e.IsInvalid := by
  simp only [checkPath] at h
  split at h
  · split at h <;> cases h
    exact Rejection.isInvalid_breaking_text ..
  · cases h

/-! ### What is decoded -/

variable {interval timeout healthy unhealthy : Int}

lemma ofParts_int_eq (hbounds : AreBounded interval timeout healthy unhealthy)
    (hbelow : timeout < interval) (p : Protocol) (path : String) (n : Int) :
    ofParts p.toValue (.text path) (.int n) (.int interval) (.int timeout) (.int healthy)
        (.int unhealthy) =
      (Port.check (.text "health_check.port") (.int n) >>= fun port =>
        checkPath p (.text path) >>= fun path => .ok ⟨p, path, port, .whole interval,
          .whole timeout, .whole healthy, .whole unhealthy⟩) := by
  obtain ⟨hi, ht, hh, hu⟩ := hbounds
  have hwhole : (Quantity.whole timeout).isBelow (.whole interval) = true :=
    isBelow_whole_iff.mpr hbelow
  simp only [ofParts, Protocol.check_toValue, check_int_of_bounds hi, check_int_of_bounds ht,
    check_int_of_bounds hh, check_int_of_bounds hu, ok_bind, hwhole]
  rfl

/-- Such a health check is made exactly of a port that is one and a path that its protocol takes,
and is refused otherwise because one of them breaks a rule. -/
lemma ofParts_int_cases (hbounds : AreBounded interval timeout healthy unhealthy)
    (hbelow : timeout < interval) (p : Protocol) (path : String) (n : Int) :
    let x := ofParts p.toValue (.text path) (.int n) (.int interval) (.int timeout) (.int healthy)
      (.int unhealthy)
    (∀ k, x = .ok k ↔ ∃ port : Port, n = port.number ∧
      (p.hasPath = true → path.toList.head? = some '/') ∧
      k = ofNumbers p path port interval timeout healthy unhealthy) ∧
    (¬ (Value.int n).IsLong → ∀ e, x = .error e → e.IsInvalid) := by
  intro x
  have hx : x = _ := ofParts_int_eq hbounds hbelow p path n
  rw [hx]
  constructor
  · intro k
    simp only [bind_eq_ok_iff, Port.check_int_eq_ok_iff, checkPath_text_eq_ok_iff, Except.ok.injEq]
    constructor
    · rintro ⟨port, hport, _, ⟨hroot, rfl⟩, rfl⟩
      exact ⟨port, hport, hroot, rfl⟩
    · rintro ⟨port, hport, hroot, rfl⟩
      exact ⟨port, hport, _, ⟨hroot, rfl⟩, rfl⟩
  · intro hn e he
    simp only [bind_eq_error_iff, reduceCtorEq, and_false, exists_false, or_false] at he
    rcases he with he | ⟨port, -, he⟩
    · exact (Port.refuses_of_check he).invalid fun h => hn (Value.holds_int_iff.mp h)
    · exact isInvalid_of_checkPath he

variable {v : Value} {s : String} {w d r : List Char}

lemma ofWire_of_hasParts (hv : Poses v s interval timeout healthy unhealthy)
    (hparts : HasParts s.toList w d r) :
    ofWire v = if d = [] then .error (.breaking "health_check.target" (.text s) "Missing port") else
      Protocol.check (.text (.ofList w)) >>= fun p =>
        (Value.text (.ofList d)).toInteger >>= fun n =>
          ofParts p.toValue (.text (.ofList r)) (.int n) (.int interval) (.int timeout)
            (.int healthy) (.int unhealthy) := by
  simp only [ofWire, hv.target, hv.interval, hv.timeout, hv.healthy, hv.unhealthy, ok_bind,
    splitTarget_of_hasParts hparts, Value.toInteger]
  rcases d with _ | ⟨c, d⟩
  · rfl
  · rfl

lemma HasParts.isDigit {s : List Char} (h : HasParts s w d r) : ∀ c ∈ d, Text.isDigit c = true := by
  cases h with
  | bare hw => exact fun c hc => (nomatch hc)
  | parted hw hd hr => exact hd

lemma HasParts.not_isDigit {s : List Char} (h : HasParts s w d r) {c : Char}
    (hc : r.head? = some c) : Text.isDigit c = false := by
  cases h with
  | bare hw => cases hc
  | parted hw hd hr => exact hr c hc

lemma toInteger_of_hasParts {s : List Char} (hparts : HasParts s w d r) (hne : d ≠ []) {n : Int} :
    (Value.text (.ofList d)).toInteger = .ok n ↔
      Text.IsNumeral d ∧ n = (Text.digitsValue d : Nat) :=
  Value.toInteger_text_eq_ok_iff.trans (Text.readInteger_eq_ok_iff hne hparts.isDigit)

lemma ofWire_eq_ok_iff_parts (hv : Poses v s interval timeout healthy unhealthy)
    (hparts : HasParts s.toList w d r) {k : HealthCheck} :
    ofWire v = .ok k ↔ ∃ (p : Protocol) (port : Port), Text.capitals (.ofList w) = p.name ∧ d ≠ [] ∧
      Text.IsNumeral d ∧ Text.digitsValue d = port.number ∧
      (p.hasPath = true → r.head? = some '/') ∧
      k = ofNumbers p (.ofList r) port interval timeout healthy unhealthy := by
  have hok : ∀ (p : Protocol) (n : Int), _ := fun p n =>
    (ofParts_int_cases hv.bounds hv.below p (.ofList r) n).1 k
  rw [ofWire_of_hasParts hv hparts]
  split
  · next hnone => simp [hnone]
  · next hne =>
    simp only [bind_eq_ok_iff, toInteger_of_hasParts hparts hne, hok, Protocol.check_eq_ok_iff,
      Value.text.injEq, String.toList_ofList]
    constructor
    · rintro ⟨p, ⟨_, rfl, hname⟩, _, ⟨hnumeral, rfl⟩, port, hport, hroot, rfl⟩
      exact ⟨p, port, hname, hne, hnumeral, by exact_mod_cast hport, hroot, rfl⟩
    · rintro ⟨p, port, hname, -, hnumeral, hport, hroot, rfl⟩
      exact ⟨p, ⟨_, rfl, hname⟩, _, ⟨hnumeral, rfl⟩, port, by exact_mod_cast hport, hroot, rfl⟩

/-- Only digits that are no numeral are refused for another reason than a broken rule. -/
lemma exists_not_isInvalid_iff (hv : Poses v s interval timeout healthy unhealthy)
    (hparts : HasParts s.toList w d r) :
    (∃ e, ofWire v = .error e ∧ ¬ e.IsInvalid) ↔
      (∃ p : Protocol, Text.capitals (.ofList w) = p.name) ∧ d ≠ [] ∧ ¬ Text.IsNumeral d := by
  have hinvalid : ∀ (p : Protocol) (n : Int), _ := fun p n =>
    (ofParts_int_cases hv.bounds hv.below p (.ofList r) n).2
  rw [ofWire_of_hasParts hv hparts]
  split
  · next hnone =>
    constructor
    · rintro ⟨e, he, hnot⟩
      cases he
      exact absurd (Rejection.isInvalid_breaking_text ..) hnot
    · rintro ⟨-, hne, -⟩
      exact absurd hnone hne
  · next hne =>
    simp only [bind_eq_error_iff]
    constructor
    · rintro ⟨e, he | ⟨p, hp, he | ⟨n, hread, he⟩⟩, hnot⟩
      · exact absurd (Protocol.isInvalid_of_check he) hnot
      · obtain ⟨_, hw, hname⟩ := Protocol.check_eq_ok_iff.mp hp
        cases hw
        refine ⟨⟨p, hname⟩, hne, fun hnumeral => ?_⟩
        cases he.symm.trans ((toInteger_of_hasParts hparts hne).mpr ⟨hnumeral, rfl⟩)
      · obtain ⟨hnumeral, rfl⟩ := (toInteger_of_hasParts hparts hne).mp hread
        exact absurd (hinvalid p _ (Value.not_isLong_of_isNumeral hnumeral) e he) hnot
    · rintro ⟨⟨p, hname⟩, -, hnot⟩
      rcases hread : (Value.text (.ofList d)).toInteger with e | n
      · exact ⟨e, .inr ⟨p, Protocol.check_eq_ok_iff.mpr ⟨_, rfl, hname⟩, .inl rfl⟩,
          Value.not_isInvalid_of_toInteger_text hread⟩
      · exact absurd ((toInteger_of_hasParts hparts hne).mp hread).1 hnot

/-! ### Targets of the grammar -/

lemma IsRest.isDigit_eq_false {p : Protocol} {c : Char} (h : IsRest p r) (hc : r.head? = some c) :
    c.isDigit = false := by
  unfold IsRest at h
  split at h
  · obtain rfl : c = '/' := Option.some.inj (hc.symm.trans h)
    rfl
  · exact h c hc

lemma isRest_iff_of_hasParts {s : List Char} {p : Protocol} (hparts : HasParts s w d r) :
    IsRest p r ↔ (p.hasPath = true → r.head? = some '/') := by
  unfold IsRest
  split
  · next hpath => exact ⟨fun h _ => h, fun h => h hpath⟩
  · next hpath =>
    refine ⟨fun _ h => absurd h hpath, fun _ c hc => ?_⟩
    rw [← Bool.not_eq_true]
    intro hdigit
    cases (Text.isDigit_of_ascii hdigit).symm.trans (hparts.not_isDigit hc)

lemma colon_not_mem_of_spelled {p : Protocol} (hw : w.map Char.toUpper = p.name.toList) :
    ':' ∉ w := by
  intro hmem
  have hupper : ':' ∈ w.map Char.toUpper := List.mem_map.mpr ⟨':', hmem, rfl⟩
  rw [hw] at hupper
  exact p.colon_not_mem hupper

lemma hasParts_takeWhile {p : Protocol} (hw : w.map Char.toUpper = p.name.toList)
    (hd : ∀ c ∈ d, c.isDigit) :
    HasParts (w ++ ':' :: (d ++ r)) w (d ++ r.takeWhile Text.isDigit)
      (r.dropWhile Text.isDigit) := by
  have hdigits : ∀ c ∈ d ++ r.takeWhile Text.isDigit, Text.isDigit c = true := by
    intro c hc
    rcases List.mem_append.mp hc with hc | hc
    · exact Text.isDigit_of_ascii (hd c hc)
    · exact List.mem_takeWhile_imp hc
  have hleft : ∀ c, (r.dropWhile Text.isDigit).head? = some c → Text.isDigit c = false := by
    intro c hc
    have hfirst := List.head?_dropWhile_not Text.isDigit r
    rw [hc] at hfirst
    exact hfirst
  have hparted := HasParts.parted (colon_not_mem_of_spelled hw) hdigits hleft
  rwa [List.append_assoc, List.takeWhile_append_dropWhile] at hparted

lemma takeWhile_of_isRest {p : Protocol} (h : IsRest p r)
    (hall : ∀ c ∈ r.takeWhile Text.isDigit, c.isDigit) : r.takeWhile Text.isDigit = [] := by
  rcases r with _ | ⟨c, r⟩
  · rfl
  · refine List.takeWhile_cons_of_neg fun hdigit => ?_
    rw [List.takeWhile_cons_of_pos hdigit] at hall
    cases (h.isDigit_eq_false rfl).symm.trans (hall c List.mem_cons_self)

/-- **Where all is plain the grammar finds the parts**, and the other way round. -/
theorem isTarget_iff_of_hasParts {s r' : List Char} {p : Protocol} {port : Port}
    (hparts : HasParts s w d r) (hplain : IsPlain w d) :
    IsTarget s p port r' ↔ Text.capitals (.ofList w) = p.name ∧ d ≠ [] ∧ Text.IsNumeral d ∧
      Text.digitsValue d = port.number ∧ (p.hasPath = true → r.head? = some '/') ∧ r' = r := by
  have hname : Text.capitals (.ofList w) = p.name ↔ w.map Char.toUpper = p.name.toList := by
    rw [Text.capitals_of_ascii hplain.word, ← String.toList_inj, String.toList_ofList]
  rw [hname, Text.digitsValue_of_all hplain.digits, ← isRest_iff_of_hasParts hparts]
  constructor
  · rintro @⟨_, _, w', d', _, hw, hne, hd, hport, hr⟩
    have hsame := splitTarget_of_hasParts hparts
    rw [splitTarget_of_hasParts (hasParts_takeWhile hw hd)] at hsame
    cases hsame
    have hnone : r'.takeWhile Text.isDigit = [] := takeWhile_of_isRest hr fun c hc =>
      hplain.digits c (List.mem_append_right _ hc)
    have hwhole : r'.dropWhile Text.isDigit = r' := by
      conv_rhs => rw [← List.takeWhile_append_dropWhile (p := Text.isDigit) (l := r'), hnone]
      rfl
    rw [hnone, hwhole, List.append_nil]
    exact ⟨hw, hne, Text.isNumeral_of_all hd (by simpa [hnone] using hplain.length), hport, hr, rfl⟩
  · rintro ⟨hw, hne, -, hport, hr, rfl⟩
    cases hparts with
    | bare => exact absurd rfl hne
    | parted => exact .mk hw hne hplain.digits hport hr

/-- **Targets are decoded by their parts.** What is decoded has a protocol before the colon, spelled
so that its capitals are the protocol's, a port that a numeral after it gives, and a rest from the
root on where there is a path to ask for. Every other target is refused, and as a value that breaks
a rule, unless it has a protocol and digits that are no numeral: too many of them, or one that is
not decimal. Where all is plain, what is decoded is what the grammar makes of the target, and any
other is refused as a value that breaks a rule. -/
theorem decoded_by_parts (hv : Poses v s interval timeout healthy unhealthy) :
    ∃ w d r, HasParts s.toList w d r ∧
      (∀ k, ofWire v = .ok k ↔ ∃ (p : Protocol) (port : Port), Text.capitals (.ofList w) = p.name ∧
        d ≠ [] ∧ Text.IsNumeral d ∧ Text.digitsValue d = port.number ∧
        (p.hasPath = true → r.head? = some '/') ∧
        k = ofNumbers p (.ofList r) port interval timeout healthy unhealthy) ∧
      ((∃ e, ofWire v = .error e ∧ ¬ e.IsInvalid) ↔
        (∃ p : Protocol, Text.capitals (.ofList w) = p.name) ∧ d ≠ [] ∧ ¬ Text.IsNumeral d) ∧
      (IsPlain w d →
        (∀ k, ofWire v = .ok k ↔ ∃ p port r, IsTarget s.toList p port r ∧
          k = ofNumbers p (.ofList r) port interval timeout healthy unhealthy) ∧
        ∀ e, ofWire v = .error e → e.IsInvalid) := by
  obtain ⟨w, d, r, hparts⟩ := exists_hasParts s.toList
  have hforeign := exists_not_isInvalid_iff hv hparts
  refine ⟨w, d, r, hparts, fun k => ofWire_eq_ok_iff_parts hv hparts, hforeign,
    fun hplain => ⟨?_, ?_⟩⟩
  · intro k
    rw [ofWire_eq_ok_iff_parts hv hparts]
    constructor
    · rintro ⟨p, port, hname, hne, hnumeral, hport, hroot, rfl⟩
      exact ⟨p, port, r, (isTarget_iff_of_hasParts hparts hplain).mpr
        ⟨hname, hne, hnumeral, hport, hroot, rfl⟩, rfl⟩
    · rintro ⟨p, port, r', htarget, rfl⟩
      obtain ⟨hname, hne, hnumeral, hport, hroot, rfl⟩ :=
        (isTarget_iff_of_hasParts hparts hplain).mp htarget
      exact ⟨p, port, hname, hne, hnumeral, hport, hroot, rfl⟩
  · intro e he
    by_contra hnot
    have hnumeral : Text.IsNumeral d := Text.isNumeral_of_all hplain.digits hplain.length
    exact (hforeign.mp ⟨e, he, hnot⟩).2.2 hnumeral

/-- A plain target in small letters is what the grammar makes of it. -/
theorem decoded_of_small_letters :
    let v := Value.record [("Target", .text "http:8080/health"), ("Interval", .int 30),
      ("Timeout", .int 3), ("HealthyThreshold", .int 2), ("UnhealthyThreshold", .int 2)]
    Poses v "http:8080/health" 30 3 2 2 ∧ ofWire v = .ok ⟨.http, .text "/health",
      ⟨8080, by decide, by decide⟩, .whole 30, .whole 3, .whole 2, .whole 2⟩ := by
  intro v
  have hv : Poses v "http:8080/health" 30 3 2 2 :=
    ⟨⟨by decide, by decide, by decide, by decide⟩, by decide, rfl, rfl, rfl, rfl, rfl⟩
  obtain ⟨w, d, r, hparts, -, -, hplain⟩ := decoded_by_parts hv
  have hsplit : splitTarget "http:8080/health".toList =
      (['h', 't', 't', 'p'], ['8', '0', '8', '0'], "/health".toList) := rfl
  cases hsplit.symm.trans (splitTarget_of_hasParts hparts)
  have hdigits : ∀ c ∈ ['8', '0', '8', '0'], c.isDigit := List.all_eq_true.mp rfl
  have htarget : IsTarget "http:8080/health".toList .http ⟨8080, by decide, by decide⟩
      "/health".toList :=
    .mk (w := ['h', 't', 't', 'p']) (d := ['8', '0', '8', '0']) (by decide) (by decide) hdigits
      (by decide) rfl
  have hdecoded := (hplain ⟨by simp, hdigits, by decide⟩).1
  exact ⟨hv, (hdecoded _).mpr ⟨.http, ⟨8080, by decide, by decide⟩, _, htarget, rfl⟩⟩

/-- A digit in an exponent counts as a digit of the port, and is no numeral. -/
theorem exponent_breaks_no_rule :
    let v := Value.record [("Target", .text "HTTP:²/"), ("Interval", .int 30),
      ("Timeout", .int 3), ("HealthyThreshold", .int 2), ("UnhealthyThreshold", .int 2)]
    Poses v "HTTP:²/" 30 3 2 2 ∧ ofWire v = .error (.malformedInteger "²") ∧
      ¬ Rejection.IsInvalid (.malformedInteger "²") := by
  intro v
  refine ⟨⟨⟨by decide, by decide, by decide, by decide⟩, by decide, rfl, rfl, rfl, rfl, rfl⟩, rfl,
    ?_⟩
  rintro ⟨_, _, _, _, ⟨⟩⟩

end HealthCheck

end Balancer
