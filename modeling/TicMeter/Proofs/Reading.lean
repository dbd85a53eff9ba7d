import TicMeter.FieldMap
import TicMeter.Proofs.Ascii

/-!
# Reading — the values that a label can have

`Label.Admits` holds of the values that some text gives under the label. Only the label's rule and
the text that stands for no value decide what a text gives (`Label.read_eq`), and `Rule.Fits` says
what a rule asks of its values.

* `Label.Admits.fits`: the values that a label can have fit its rule.
-/

namespace TicMeter

/-! ## Timestamps -/

namespace Timestamp

theorem ofDigitChars_pair_lt {a b : Char} (ha : a.isDigit) (hb : b.isDigit) :
    Nat.ofDigitChars 10 [a, b] 0 < 100 := by
  rw [Char.isDigit_iff_toNat] at ha hb
  rw [Nat.ofDigitChars_cons, Nat.ofDigitChars_cons, Nat.ofDigitChars_nil]
  have hzero : '0'.toNat = 48 := rfl
  have hnine : '9'.toNat = 57 := rfl
  omega

/-- The parts stay as they are given. -/
theorem parts_of_of? {year : Int} {month day hour minute second : Nat} {t : Timestamp}
    (h : of? year month day hour minute second = some t) :
    t.year = year ∧ t.month = month ∧ t.day = day ∧ t.hour = hour ∧ t.minute = minute ∧
      t.second = second := by
  unfold of? at h
  split at h
  · cases h
    exact ⟨rfl, rfl, rfl, rfl, rfl, rfl⟩
  · cases h

/-- The two digits of the year are counted from 2000. -/
theorem year_of_ofDigits? {digits : List Char} {t : Timestamp} (h : ofDigits? digits = some t) :
    2000 ≤ t.year ∧ t.year < 2100 := by
  unfold ofDigits? at h
  split at h
  · next hdigits =>
    rcases hdigits with ⟨-, hall⟩
    split at h
    · next year month day hour minute second hpairs =>
      -- the first of the pairs is the year
      have hyear : year < 100 := by
        match digits, hpairs, hall with
        | a :: b :: rest, hpairs, hall =>
          simp only [List.all_cons, Bool.and_eq_true] at hall
          rcases hall with ⟨ha, hb, -⟩
          rw [← (List.cons.inj hpairs).1]
          exact ofDigitChars_pair_lt ha hb
      have hparts := parts_of_of? h
      omega
    · cases h
  · cases h

theorem year_of_parse? {s : String} {t : Timestamp} (h : parse? s = some t) :
    2000 ≤ t.year ∧ t.year < 2100 := by
  unfold parse? at h
  split at h
  · split at h
    · exact year_of_ofDigits? h
    · exact year_of_ofDigits? h
  · cases h

end Timestamp

/-! ## Rules -/

namespace Rule

def parse? : Rule → String → Option Value
  | .integer _, s => (Value.parseInteger? s).map .integer
  | .period, s => (TariffPeriod.ofCode? s).map .period
  | .tomorrow, s => (DayColour.ofCode? s).map .tomorrow
  | .schedule, s => (ScheduleGroup.ofCode? s).map .schedule
  | .option, s => (TariffOption.ofCode? s).map .option
  | .code min max, s =>
      if (min ≤ Text.byteLength s ∧ Text.byteLength s ≤ max) ∧ s.toList.all Text.isGraphic then
        some (.text s)
      else none
  | .date, s => (Timestamp.parse? s).map .date

/-- What a rule asks of a value. -/
def Fits : Rule → Value → Prop
  | .integer _, .integer _ => True
  | .period, .period _ => True
  | .tomorrow, .tomorrow _ => True
  | .schedule, .schedule _ => True
  | .option, .option _ => True
  | .code min max, .text s =>
      (min ≤ s.length ∧ s.length ≤ max) ∧ s.toList.all Text.isGraphic
  | .date, .date time => 2000 ≤ time.year ∧ time.year < 2100
  | _, _ => False

theorem fits_of_parse? {rule : Rule} {s : String} {value : Value}
    (h : rule.parse? s = some value) : rule.Fits value := by
  cases rule with
  | code min max =>
    simp only [parse?] at h
    split at h
    · next hcode =>
      rcases hcode with ⟨hlength, hgraphic⟩
      rw [(Text.isAscii_of_all_isGraphic hgraphic).byteLength_eq] at hlength
      cases h
      exact ⟨hlength, hgraphic⟩
    · cases h
  | date =>
    rcases Option.map_eq_some_iff.1 h with ⟨time, htime, rfl⟩
    exact Timestamp.year_of_parse? htime
  | _ =>
    rcases Option.map_eq_some_iff.1 h with ⟨content, -, rfl⟩
    trivial

end Rule

namespace Label

/-- The value is one that a line with the label can give. -/
def Admits (label : Label) (value : Value) : Prop :=
  ∃ s, label.read s = .ok (some value)

/-- What is reported of a text that gives no value; a wrong length goes before a wrong character. -/
def refusal (label : Label) (s : String) : ValueError :=
  match label.rule with
  | .integer _ => .notNumeric label s
  | .code min max =>
      if min ≤ Text.byteLength s ∧ Text.byteLength s ≤ max then .unknownCode label s
      else .invalidLength label s min max
  | .date => .invalidDate label s
  | _ => .unknownCode label s

theorem refusal_ne_unknownLabel (label : Label) (s text : String) :
    label.refusal s ≠ .unknownLabel text := by
  unfold refusal
  split
  · simp
  · split <;> simp
  · simp
  · simp

/-- A text gives what the label's rule says, unless it stands for no value. -/
theorem read_eq (label : Label) (s : String) :
    label.read s =
      if label.voidText? = some s then .ok none
      else
        match label.rule.parse? s with
        | some value => .ok (some value)
        | none => .error (label.refusal s) := by
  unfold read refusal
  split
  · rfl
  cases label.rule with
  | code min max =>
    simp only [Rule.parse?, Value.parseCode, Text.all_isGraphicByte]
    by_cases hlength : min ≤ Text.byteLength s ∧ Text.byteLength s ≤ max
    · have hbounds : ¬ (Text.byteLength s < min ∨ max < Text.byteLength s) := by omega
      by_cases hgraphic : s.toList.all Text.isGraphic <;>
        simp [hlength, hbounds, hgraphic, Except.map]
    · have hbounds : Text.byteLength s < min ∨ max < Text.byteLength s := by omega
      simp [hlength, hbounds, Except.map]
  | integer width => cases hparse : Value.parseInteger? s <;> simp [Rule.parse?, hparse]
  | period => cases hparse : TariffPeriod.ofCode? s <;> simp [Rule.parse?, hparse]
  | tomorrow => cases hparse : DayColour.ofCode? s <;> simp [Rule.parse?, hparse]
  | schedule => cases hparse : ScheduleGroup.ofCode? s <;> simp [Rule.parse?, hparse]
  | option => cases hparse : TariffOption.ofCode? s <;> simp [Rule.parse?, hparse]
  | date => cases hparse : Timestamp.parse? s <;> simp [Rule.parse?, hparse]

theorem read_eq_ok_some {label : Label} {s : String} {value : Value} :
    label.read s = .ok (some value) ↔
      label.voidText? ≠ some s ∧ label.rule.parse? s = some value := by
  rw [read_eq]
  split
  · next hvoid => simp [hvoid]
  · next hvoid => cases label.rule.parse? s <;> simp [hvoid]

theorem read_eq_ok_none {label : Label} {s : String} :
    label.read s = .ok none ↔ label.voidText? = some s := by
  rw [read_eq]
  split
  · next hvoid => simp [hvoid]
  · next hvoid => cases label.rule.parse? s <;> simp [hvoid]

theorem read_eq_error {label : Label} {s : String} {why : ValueError} :
    label.read s = .error why ↔
      label.voidText? ≠ some s ∧ label.rule.parse? s = none ∧ why = label.refusal s := by
  rw [read_eq]
  split
  · next hvoid => simp [hvoid]
  · next hvoid => cases label.rule.parse? s <;> simp [hvoid, eq_comm]

theorem Admits.fits {label : Label} {value : Value} (h : label.Admits value) :
    label.rule.Fits value := by
  rcases h with ⟨s, hread⟩
  rcases read_eq_ok_some.1 hread with ⟨-, hparse⟩
  exact Rule.fits_of_parse? hparse

end Label
end TicMeter
