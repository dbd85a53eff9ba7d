import TicMeter.Proofs.Reading

/-!
# Writing — what is written under a label is read back

* `Numeral.parse?_padded`: a numeral spells its number, whatever the width it is filled up to.
* `Timestamp.parse?_wire`: a timestamp of this century survives the wire, on which its year has two
  digits.
* `Label.write_spec`: every value that fits the rule of a label has a text, which is short and
  printable and gives the value back. So a label can have every value that fits its rule
  (`Label.admits_iff`).
-/

namespace TicMeter

/-! ## Numerals -/

namespace Numeral

theorem isDigit_of_mem_padded {width n : Nat} :
    ∀ c ∈ (padded width n).toList, c.isDigit := by
  intro c hc
  have hmem : c ∈ (Nat.toDigits 10 n).leftpad width '0' := by
    simpa [padded] using hc
  -- a character is one of the zeros in front or one of the digits
  rcases List.mem_append.1 hmem with hzero | hdigit
  · rw [List.eq_of_mem_replicate hzero]
    rfl
  · exact Nat.isDigit_of_mem_toDigits (by decide) (by decide) hdigit

/-- The zeros that fill a numeral up do not change its number. -/
theorem ofDigitChars_padded (width n : Nat) :
    Nat.ofDigitChars 10 (padded width n).toList 0 = n := by
  simp [padded, List.leftpad, Nat.ofDigitChars_append]

theorem length_padded (width n : Nat) :
    (padded width n).length = max width (Nat.toDigits 10 n).length := by
  rw [padded, String.length_ofList, List.length_leftpad]

/-- Numbers below a hundred take two digits. -/
theorem toList_padded_two {n : Nat} (h : n < 100) :
    ∃ a b, (padded 2 n).toList = [a, b] ∧ Nat.ofDigitChars 10 [a, b] 0 = n := by
  have hdigits : (Nat.toDigits 10 n).length ≤ 2 :=
    (Nat.length_toDigits_le_iff (by decide) (by decide)).2 h
  have hlength : (padded 2 n).toList.length = 2 := by
    rw [String.length_toList, length_padded, Nat.max_eq_left hdigits]
  rcases List.length_eq_two.1 hlength with ⟨a, b, hab⟩
  exact ⟨a, b, hab, by rw [← hab, ofDigitChars_padded]⟩

theorem parse?_padded (width n : Nat) : parse? (padded width n) = some n := by
  have hne : (padded width n).toList ≠ [] := by
    intro hnil
    have hlength := length_padded width n
    have hpos : 0 < (Nat.toDigits 10 n).length := Nat.length_toDigits_pos
    rw [← String.length_toList, hnil, List.length_nil] at hlength
    omega
  have hdigits : isDigits (padded width n).toList := by
    simpa [isDigits, hne] using isDigit_of_mem_padded
  simp [parse?, hdigits, ofDigitChars_padded]

end Numeral

namespace Text

theorem isGraphic_of_isDigit {c : Char} (h : c.isDigit) : isGraphic c := by
  rcases Char.isDigit_iff_toNat.1 h with ⟨hlow, hhigh⟩
  have hzero : '0'.toNat = 48 := rfl
  have hnine : '9'.toNat = 57 := rfl
  simp [isGraphic]
  omega

end Text

/-! ## Codes -/

theorem TariffPeriod.ofCode?_code (period : TariffPeriod) : ofCode? period.code = some period := by
  cases period <;> decide

theorem DayColour.ofCode?_code (colour : DayColour) : ofCode? colour.code = some colour := by
  cases colour <;> decide

theorem ScheduleGroup.ofCode?_code (group : ScheduleGroup) : ofCode? group.code = some group := by
  cases group <;> decide

namespace TariffOption

theorem ofCode?_code (o : TariffOption) : ofCode? o.code = some o := by
  cases o with
  | tempo programme =>
    rcases programme with ⟨circuit1, circuit2⟩
    revert circuit2
    cases circuit1 <;> decide
  | _ => decide

/-- The bytes of the circuit programmes are printable. -/
theorem isGraphic_code (o : TariffOption) :
    o.code.toList.all Text.isGraphic ∧ o.code.length ≤ 12 := by
  cases o with
  | tempo programme =>
    rcases programme with ⟨circuit1, circuit2⟩
    revert circuit2
    cases circuit1 <;> decide
  | _ => decide

end TariffOption

/-! ## Timestamps -/

namespace Timestamp

def parts (t : Timestamp) : List Nat :=
  [(t.year % 100).toNat, t.month, t.day, t.hour, t.minute, t.second]

theorem parts_lt (t : Timestamp) : ∀ n ∈ t.parts, n < 100 := by
  have hdays : Calendar.daysInMonth t.year t.month ≤ 31 := by
    unfold Calendar.daysInMonth
    split
    · split <;> decide
    · split <;> decide
  have hmonth := t.month_bounds
  have hday := t.day_bounds
  have htime := t.time_bounds
  intro n hn
  simp only [parts, List.mem_cons, List.not_mem_nil, or_false] at hn
  omega

theorem toList_wire (t : Timestamp) :
    t.wire.toList = t.parts.flatMap fun n => (Numeral.padded 2 n).toList := by
  simp [wire, parts]

/-- Numbers of two digits each are read one after the other. -/
theorem pairs_flatMap {numbers : List Nat} (h : ∀ n ∈ numbers, n < 100) :
    pairs (numbers.flatMap fun n => (Numeral.padded 2 n).toList) = numbers ∧
      (numbers.flatMap fun n => (Numeral.padded 2 n).toList).length = 2 * numbers.length := by
  induction numbers with
  | nil => exact ⟨rfl, rfl⟩
  | cons n rest ih =>
    rcases ih fun k hk => h k (by simp [hk]) with ⟨hpairs, hlength⟩
    rcases Numeral.toList_padded_two (h n (by simp)) with ⟨a, b, hab, hn⟩
    constructor
    · simp [hab, pairs, hn, hpairs]
    · simp [hab, hlength]
      omega

theorem isDigit_of_mem_wire (t : Timestamp) : ∀ c ∈ t.wire.toList, c.isDigit := by
  intro c hc
  rw [toList_wire] at hc
  rcases List.mem_flatMap.1 hc with ⟨n, -, hmem⟩
  exact Numeral.isDigit_of_mem_padded c hmem

theorem length_wire (t : Timestamp) : t.wire.length = 12 := by
  rw [← String.length_toList, toList_wire, (pairs_flatMap t.parts_lt).2]
  rfl

theorem of?_self (t : Timestamp) :
    of? t.year t.month t.day t.hour t.minute t.second = some t := by
  have hvalid : (-9999 ≤ t.year ∧ t.year ≤ 9999) ∧ (1 ≤ t.month ∧ t.month ≤ 12) ∧
      (1 ≤ t.day ∧ t.day ≤ Calendar.daysInMonth t.year t.month) ∧
      t.hour < 24 ∧ t.minute < 60 ∧ t.second < 60 :=
    ⟨t.year_bounds, t.month_bounds, t.day_bounds, t.time_bounds⟩
  simp [of?, hvalid]

theorem ofDigits?_wire {t : Timestamp} (h : 2000 ≤ t.year ∧ t.year < 2100) :
    ofDigits? t.wire.toList = some t := by
  have hall : t.wire.toList.all Char.isDigit := by
    simpa using t.isDigit_of_mem_wire
  have hlength : t.wire.toList.length = 12 := by
    rw [String.length_toList, t.length_wire]
  have hpairs : pairs t.wire.toList = t.parts := by
    rw [toList_wire]
    exact (pairs_flatMap t.parts_lt).1
  have hyear : 2000 + ((t.year % 100).toNat : Int) = t.year := by
    omega
  simp only [ofDigits?, hall, hlength, hpairs, parts, hyear]
  simpa using t.of?_self

/-- A digit is no season letter. -/
theorem notMem_seasonLetters {c : Char} (h : c.isDigit) : c ∉ seasonLetters := by
  intro hc
  simp only [seasonLetters, List.mem_cons, List.not_mem_nil, or_false] at hc
  rcases hc with rfl | rfl | rfl | rfl <;> exact absurd h (by decide)

theorem parse?_wire {t : Timestamp} (h : 2000 ≤ t.year ∧ t.year < 2100) :
    parse? t.wire = some t := by
  have hdigits := ofDigits?_wire h
  unfold parse?
  cases hwire : t.wire.toList with
  | nil =>
    have hlength := t.length_wire
    simp [← String.length_toList, hwire] at hlength
  | cons c rest =>
    have hdigit : c.isDigit := t.isDigit_of_mem_wire c (by simp [hwire])
    have hseason := notMem_seasonLetters hdigit
    simpa [hseason, hwire] using hdigits

end Timestamp

/-! ## Labels -/

namespace Label

/-- The most characters that a rule writes, for the rules of the vocabulary. -/
theorem rule_bounds (label : Label) :
    (∀ width, label.rule = .integer width → width ≤ 12) ∧
      ∀ min max, label.rule = .code min max → max ≤ 12 := by
  cases label <;> simp [rule]

/-- Only the colour of tomorrow can be left open, and no colour is written that way. -/
theorem voidText?_ne_write {label : Label} {value : Value} {s : String}
    (h : label.write value = some s) : label.voidText? ≠ some s := by
  intro hvoid
  cases label with
  | demain =>
    cases value with
    | tomorrow colour =>
      have hcode : colour.code = "----" := by
        rw [← Option.some.inj h] at hvoid
        exact (Option.some.inj hvoid).symm
      revert hcode
      cases colour <;> decide
    | _ => cases h
  | _ => cases hvoid

theorem parse?_write {label : Label} {value : Value} (h : label.rule.Fits value) :
    ∃ s, label.write value = some s ∧ label.rule.parse? s = some value := by
  unfold write
  -- by the rule, which leaves one kind of value each
  generalize label.rule = rule at h ⊢
  cases rule with
  | integer width =>
    cases value with
    | integer n =>
      have hsize : n.toNat < UInt32.size := n.toNat_lt
      have hparse : Value.parseInteger? (Numeral.padded width n.toNat) = some n := by
        simp [Value.parseInteger?, Numeral.parse?_padded, hsize]
      exact ⟨_, rfl, by simp [Rule.parse?, hparse]⟩
    | _ => exact h.elim
  | period =>
    cases value with
    | period p => exact ⟨_, rfl, by simp [Rule.parse?, TariffPeriod.ofCode?_code]⟩
    | _ => exact h.elim
  | tomorrow =>
    cases value with
    | tomorrow colour => exact ⟨_, rfl, by simp [Rule.parse?, DayColour.ofCode?_code]⟩
    | _ => exact h.elim
  | schedule =>
    cases value with
    | schedule group => exact ⟨_, rfl, by simp [Rule.parse?, ScheduleGroup.ofCode?_code]⟩
    | _ => exact h.elim
  | option =>
    cases value with
    | option o => exact ⟨_, rfl, by simp [Rule.parse?, TariffOption.ofCode?_code]⟩
    | _ => exact h.elim
  | code min max =>
    cases value with
    | text s =>
      rcases h with ⟨hlength, hgraphic⟩
      have hbytes := (Text.isAscii_of_all_isGraphic hgraphic).byteLength_eq
      exact ⟨s, rfl, by simp only [Rule.parse?, hbytes, hlength, hgraphic, and_self, if_true]⟩
    | _ => exact h.elim
  | date =>
    cases value with
    | date time => exact ⟨_, rfl, by simp [Rule.parse?, Timestamp.parse?_wire h]⟩
    | _ => exact h.elim

/-- Written texts are short and printable. -/
theorem isGraphic_of_write {label : Label} {value : Value} {s : String}
    (hfits : label.rule.Fits value) (h : label.write value = some s) :
    s.toList.all Text.isGraphic ∧ s.length ≤ 12 := by
  rcases label.rule_bounds with ⟨hwidth, hmax⟩
  unfold write at h
  generalize label.rule = rule at hfits h hwidth hmax
  have digits {text : String} (hdigits : ∀ c ∈ text.toList, c.isDigit) :
      text.toList.all Text.isGraphic :=
    List.all_eq_true.2 fun c hc => Text.isGraphic_of_isDigit (hdigits c hc)
  split at h
  · next width n =>
    cases h
    -- the digits of a 32-bit number, or the width of the label if that is more
    have hlt : n.toNat < 10 ^ 10 := Nat.lt_trans n.toNat_lt (by decide)
    have hten : (Nat.toDigits 10 n.toNat).length ≤ 10 :=
      (Nat.length_toDigits_le_iff (by decide) (by decide)).2 hlt
    have hbound := hwidth width rfl
    refine ⟨digits Numeral.isDigit_of_mem_padded, ?_⟩
    rw [Numeral.length_padded]
    omega
  · next p =>
    cases h
    cases p <;> decide
  · next colour =>
    cases h
    cases colour <;> decide
  · next group =>
    cases h
    cases group <;> decide
  · next o =>
    cases h
    exact o.isGraphic_code
  · next min max text =>
    cases h
    rcases hfits with ⟨⟨-, hlength⟩, hgraphic⟩
    exact ⟨hgraphic, Nat.le_trans hlength (hmax min max rfl)⟩
  · next time =>
    cases h
    exact ⟨digits time.isDigit_of_mem_wire, Nat.le_of_eq time.length_wire⟩
  · cases h

/-- What fits the rule of a label is written as a text that is read back. -/
theorem read_write {label : Label} {value : Value} (h : label.rule.Fits value) :
    ∃ s, label.write value = some s ∧ label.read s = .ok (some value) := by
  rcases parse?_write h with ⟨s, hwrite, hparse⟩
  exact ⟨s, hwrite, read_eq_ok_some.2 ⟨voidText?_ne_write hwrite, hparse⟩⟩

theorem admits_iff {label : Label} {value : Value} :
    label.Admits value ↔ label.rule.Fits value := by
  constructor
  · intro h
    exact h.fits
  · intro h
    rcases read_write h with ⟨s, -, hread⟩
    exact ⟨s, hread⟩

end Label
end TicMeter
