import Mathlib.Algebra.Group.Nat.Defs
import TicMeter.Proofs.Writing

/-!
# Display — what people read of a value

Outside of documents a value is shown by its display, and so is every value but a number inside of
them.

* `Rule.isGraphic_display`: the display of what a label can have is printable and has no blanks.
* `TariffPeriod.name_inj`, `TariffOption.display_inj`, `Timestamp.display_inj` and the like: of
  values of one kind, no two look the same.
-/

namespace TicMeter

/-! ## Codes -/

namespace TariffPeriod

theorem mem_all (period : TariffPeriod) : period ∈ all := by
  cases period <;> decide

/-- The dots that fill a code up tell no periods apart. -/
theorem name_inj {p q : TariffPeriod} (h : p.name = q.name) : p = q := by
  have table : ∀ p ∈ all, ∀ q ∈ all, p.name = q.name → p = q := by decide +kernel
  exact table p p.mem_all q q.mem_all h

theorem isGraphic_name (period : TariffPeriod) : period.name.toList.all Text.isGraphic := by
  cases period <;> decide

end TariffPeriod

theorem DayColour.code_inj {c d : DayColour} (h : c.code = d.code) : c = d := by
  have hcode := congrArg DayColour.ofCode? h
  rw [ofCode?_code, ofCode?_code] at hcode
  exact Option.some.inj hcode

theorem ScheduleGroup.code_inj {g g' : ScheduleGroup} (h : g.code = g'.code) : g = g' := by
  have hcode := congrArg ScheduleGroup.ofCode? h
  rw [ofCode?_code, ofCode?_code] at hcode
  exact Option.some.inj hcode

namespace TariffOption

def all : List TariffOption :=
  [.base, .hc, .ejp] ++ CircuitProgramme.all.map .tempo

theorem mem_all (o : TariffOption) : o ∈ all := by
  cases o with
  | tempo programme =>
    rcases programme with ⟨circuit1, circuit2⟩
    revert circuit2
    cases circuit1 <;> decide
  | _ => decide

/-- The programmes of the coloured option are spelled out, and told apart. -/
theorem display_inj {o o' : TariffOption} (h : o.display = o'.display) : o = o' := by
  have table : ∀ o ∈ all, ∀ o' ∈ all, o.display = o'.display → o = o' := by decide +kernel
  exact table o o.mem_all o' o'.mem_all h

theorem isGraphic_display (o : TariffOption) : o.display.toList.all Text.isGraphic := by
  have table : ∀ o ∈ all, o.display.toList.all Text.isGraphic := by decide +kernel
  exact table o o.mem_all

end TariffOption

/-! ## Numbers -/

namespace Numeral

/-- Numerals of one width are told apart, whatever stands behind them. -/
theorem padded_append_inj {width m n : Nat} (hpos : 0 < width) (hm : m < 10 ^ width)
    (hn : n < 10 ^ width) {rest rest' : List Char}
    (h : (padded width m).toList ++ rest = (padded width n).toList ++ rest') :
    m = n ∧ rest = rest' := by
  have hwidth (k : Nat) (hk : k < 10 ^ width) : (padded width k).toList.length = width := by
    have hdigits : (Nat.toDigits 10 k).length ≤ width :=
      (Nat.length_toDigits_le_iff (by decide) hpos).2 hk
    rw [String.length_toList, length_padded, Nat.max_eq_left hdigits]
  rcases List.append_inj h ((hwidth m hm).trans (hwidth n hn).symm) with ⟨hsame, hrest⟩
  refine ⟨?_, hrest⟩
  calc m = Nat.ofDigitChars 10 (padded width m).toList 0 := (ofDigitChars_padded width m).symm
    _ = Nat.ofDigitChars 10 (padded width n).toList 0 := by rw [hsame]
    _ = n := ofDigitChars_padded width n

theorem isGraphic_of_mem_padded {width n : Nat} :
    ∀ c ∈ (padded width n).toList, Text.isGraphic c :=
  fun c hc => Text.isGraphic_of_isDigit (isDigit_of_mem_padded c hc)

end Numeral

/-! ## Timestamps -/

namespace Timestamp

/-- The display of a timestamp of our era, character by character. -/
theorem toList_display {t : Timestamp} {year : Nat} (hyear : t.year = year) :
    t.display.toList =
      (Numeral.padded 4 year).toList ++ '-' :: ((Numeral.padded 2 t.month).toList ++
        '-' :: ((Numeral.padded 2 t.day).toList ++ 'T' :: ((Numeral.padded 2 t.hour).toList ++
          ':' :: ((Numeral.padded 2 t.minute).toList ++
            ':' :: (Numeral.padded 2 t.second).toList)))) := by
  have hpadded : Numeral.paddedInt 4 t.year = Numeral.padded 4 year := by rw [hyear]; rfl
  simp [display, hpadded]

variable {t u : Timestamp}

theorem display_inj (ht : 0 ≤ t.year) (hu : 0 ≤ u.year) (h : t.display = u.display) : t = u := by
  rcases Int.eq_ofNat_of_zero_le ht with ⟨year, hyear⟩
  rcases Int.eq_ofNat_of_zero_le hu with ⟨year', hyear'⟩
  have hbound : year < 10 ^ 4 ∧ year' < 10 ^ 4 := by
    have hle := t.year_bounds.2
    have hle' := u.year_bounds.2
    omega
  have two (t : Timestamp) : t.month < 10 ^ 2 ∧ t.day < 10 ^ 2 ∧ t.hour < 10 ^ 2 ∧
      t.minute < 10 ^ 2 ∧ t.second < 10 ^ 2 := by
    simpa [parts] using fun n hn => t.parts_lt n (List.mem_cons_of_mem _ hn)
  rcases two t with ⟨hmonth, hday, hhour, hminute, hsecond⟩
  rcases two u with ⟨hmonth', hday', hhour', hminute', hsecond'⟩
  -- one part after the other, each with the mark behind it
  have hparts := congrArg String.toList h
  rw [toList_display hyear, toList_display hyear'] at hparts
  rcases Numeral.padded_append_inj (by decide) hbound.1 hbound.2 hparts with ⟨hyears, hparts⟩
  rcases Numeral.padded_append_inj (by decide) hmonth hmonth' (List.cons.inj hparts).2 with
    ⟨hmonths, hparts⟩
  rcases Numeral.padded_append_inj (by decide) hday hday' (List.cons.inj hparts).2 with
    ⟨hdays, hparts⟩
  rcases Numeral.padded_append_inj (by decide) hhour hhour' (List.cons.inj hparts).2 with
    ⟨hhours, hparts⟩
  rcases Numeral.padded_append_inj (by decide) hminute hminute' (List.cons.inj hparts).2 with
    ⟨hminutes, hparts⟩
  have hlast := congrArg (· ++ []) (List.cons.inj hparts).2
  rcases Numeral.padded_append_inj (by decide) hsecond hsecond' hlast with ⟨hseconds, -⟩
  have hsame : t.year = u.year := by rw [hyear, hyear', hyears]
  cases t
  cases u
  congr

theorem isGraphic_display (ht : 0 ≤ t.year) : t.display.toList.all Text.isGraphic := by
  rcases Int.eq_ofNat_of_zero_le ht with ⟨year, hyear⟩
  rw [toList_display hyear, List.all_eq_true]
  intro c hc
  simp only [List.mem_append, List.mem_cons] at hc
  rcases hc with hc | rfl | hc | rfl | hc | rfl | hc | rfl | hc | rfl | hc
  all_goals first | exact Numeral.isGraphic_of_mem_padded c hc | rfl

end Timestamp

/-! ## Values -/

/-- What a label can have is shown without blanks. -/
theorem Rule.isGraphic_display {rule : Rule} {value : Value} (h : rule.Fits value) :
    value.display.toList.all Text.isGraphic := by
  cases value with
  | integer n =>
    rw [Value.display, Nat.toList_repr, List.all_eq_true]
    intro c hc
    exact Text.isGraphic_of_isDigit (Nat.isDigit_of_mem_toDigits (by decide) (by decide) hc)
  | period period => exact period.isGraphic_name
  | tomorrow colour => cases colour <;> decide
  | schedule group => cases group <;> decide
  | option o => exact o.isGraphic_display
  | date time =>
    have hyear : 2000 ≤ time.year := by
      cases rule with
      | date => exact h.1
      | _ => cases h
    exact Timestamp.isGraphic_display (by omega)
  | text s =>
    cases rule with
    | code min max => exact h.2
    | _ => cases h

end TicMeter
