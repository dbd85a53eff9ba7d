import TicMeter.Proofs.Spelling

/-!
# Normalization — the text under which a value is written

A value can have many texts: zeros may stand before a number, and a letter before a timestamp.
`Label.write` gives one of them, and gives one to some values that have none.

* `Numeral.value_inj`, `Timestamp.Denotes.wire_timestamp`: digits are found again from the number,
  or from the timestamp, that they stand for.
* `Rule.normalForm`: the normal form of a text. What is read is written in its normal form
  (`Label.write_of_spells`), and the normal form is the same for all texts of a value
  (`Label.write_read`).
* `Rule.Strays`: values of the kind that a rule asks for to which no text leads. These are the ones
  that are written and cannot be read (`Label.isSome_write_iff`); what is written for them says
  something else (`Label.read_of_strays`).
-/

namespace TicMeter

/-! ## Numbers -/

namespace Numeral

theorem ofNat_digit {c : Char} (h : c.isDigit) :
    Char.ofNat ('0'.toNat + (c.toNat - '0'.toNat)) = c := by
  have hzero : '0'.toNat ≤ c.toNat := (Char.isDigit_iff_toNat.1 h).1
  rw [Nat.add_sub_cancel' hzero, Char.ofNat_toNat]

/-- Of the digits with a given length, no two stand for the same number. -/
theorem value_inj {as bs : List Char} (hlength : as.length = bs.length)
    (has : ∀ c ∈ as, c.isDigit) (hbs : ∀ c ∈ bs, c.isDigit) (h : value as = value bs) :
    as = bs := by
  have hback (cs : List Char) (hcs : ∀ c ∈ cs, c.isDigit) :
      (cs.reverse.map fun c => c.toNat - '0'.toNat).map (fun d => Char.ofNat ('0'.toNat + d)) =
        cs.reverse := by
    rw [List.map_map, List.map_congr_left (g := id), List.map_id]
    intro c hc
    exact ofNat_digit (hcs c (List.mem_reverse.1 hc))
  -- the numbers are sums of digits below ten, with the last digit first
  have hdigits := Nat.ofDigits_inj_of_len_eq (by decide : 1 < 10) (by simpa using hlength)
    (lt_of_mem_digits has) (lt_of_mem_digits hbs) h
  apply List.reverse_injective
  calc as.reverse
      = (as.reverse.map fun c => c.toNat - '0'.toNat).map
          (fun d => Char.ofNat ('0'.toNat + d)) := (hback as has).symm
    _ = (bs.reverse.map fun c => c.toNat - '0'.toNat).map
          (fun d => Char.ofNat ('0'.toNat + d)) := by rw [hdigits]
    _ = bs.reverse := hback bs hbs

/-- Filled up to their length, the digits of a number are the ones that it was read from. -/
theorem toList_padded_value {width : Nat} (hpos : 0 < width) {digits : List Char}
    (hlength : digits.length = width) (h : ∀ c ∈ digits, c.isDigit) :
    (padded width (value digits)).toList = digits := by
  have hlt : value digits < 10 ^ width := by
    rw [← hlength]
    exact value_lt h
  have hfits : (Nat.toDigits 10 (value digits)).length ≤ width :=
    (Nat.length_toDigits_le_iff (by decide) hpos).2 hlt
  have hsame : (padded width (value digits)).toList.length = digits.length := by
    rw [String.length_toList, length_padded, Nat.max_eq_left hfits, hlength]
  apply value_inj hsame isDigit_of_mem_padded h
  rw [← ofDigitChars_eq_value, ofDigitChars_padded]

end Numeral

/-! ## Codes -/

namespace CircuitProgramme

/-- Five bits say everything about a programme byte. -/
theorem toByte_ofBits {byte : UInt8} (hrange : 0x40 ≤ byte ∧ byte ≤ 0x5F)
    (hlow : byte &&& 3 ≠ 0) : (ofBits byte).toByte = byte := by
  have table : ∀ k : Fin 32, UInt8.ofNat (0x40 + k.val) &&& 3 ≠ 0 →
      (ofBits (UInt8.ofNat (0x40 + k.val))).toByte = UInt8.ofNat (0x40 + k.val) := by
    decide
  have hlow' : 0x40 ≤ byte.toNat := UInt8.le_iff_toNat_le.1 hrange.1
  have hhigh : byte.toNat ≤ 0x5F := UInt8.le_iff_toNat_le.1 hrange.2
  have hbyte : UInt8.ofNat (0x40 + (byte.toNat - 0x40)) = byte := by
    rw [Nat.add_sub_cancel' hlow', UInt8.ofNat_toNat]
  have key := table ⟨byte.toNat - 0x40, by omega⟩
  rw [hbyte] at key
  exact key hlow

end CircuitProgramme

/-- The code of the coloured option is its letters and its byte. -/
theorem TariffOption.code_tempo {s : String} {byte : UInt8}
    (hs : Text.bytes s = Text.bytes "BBR" ++ [byte]) (hrange : 0x40 ≤ byte ∧ byte ≤ 0x5F)
    (hlow : byte &&& 3 ≠ 0) : (TariffOption.tempo (.ofBits byte)).code = s := by
  have hgraphic : (Text.bytes s).all Text.isGraphicByte := by
    have hbyte : Text.isGraphicByte byte := by
      simp only [Text.isGraphicByte, Bool.and_eq_true, decide_eq_true_eq]
      exact ⟨UInt8.le_trans (by decide) hrange.1, UInt8.le_trans hrange.2 (by decide)⟩
    rw [hs, List.all_append, List.all_cons, hbyte]
    decide
  rw [Text.all_isGraphicByte] at hgraphic
  have hascii := Text.isAscii_of_all_isGraphic hgraphic
  calc (TariffOption.tempo (.ofBits byte)).code
      = tempoCode ++ Text.ofAscii [byte] := by
        rw [code, CircuitProgramme.toByte_ofBits hrange hlow]
    _ = Text.ofAscii (Text.bytes "BBR" ++ [byte]) := by
        apply String.toList_inj.1
        simp [Text.ofAscii, tempoCode, Text.bytes]
        rfl
    _ = s := by rw [← hs, hascii.ofAscii_bytes]

/-! ## Timestamps -/

namespace Timestamp

def withoutSeason (s : String) : String :=
  match s.toList with
  | c :: rest => if c ∈ seasonLetters then String.ofList rest else s
  | [] => s

section Digits

variable {digits : List Char}

/-- Digits are the numbers that they spell in twos. -/
theorem flatMap_pairs (heven : digits.length % 2 = 0) (h : ∀ c ∈ digits, c.isDigit) :
    ((pairs digits).flatMap fun n => (Numeral.padded 2 n).toList) = digits := by
  fun_induction pairs digits with
  | case1 a b rest ih =>
    have heven' : rest.length % 2 = 0 := by
      simp only [List.length_cons] at heven
      omega
    have hrest := ih heven' fun c hc => h c (by simp [hc])
    have hab : ∀ c ∈ [a, b], c.isDigit := by
      intro c hc
      exact h c (List.mem_append_left rest hc)
    have htwo := Numeral.toList_padded_value (by decide : 0 < 2) rfl hab
    rw [List.flatMap_cons, hrest, Numeral.ofDigitChars_eq_value, htwo]
    rfl
  | case2 digits hshort =>
    rcases digits with _ | ⟨a, _ | ⟨b, rest⟩⟩
    · rfl
    · simp at heven
    · exact (hshort a b rest rfl).elim

namespace Denotes

/-- The century is dropped again. -/
theorem parts_timestamp (h : Denotes digits) : h.timestamp.parts = pairs digits := by
  have hyear := pair_lt h.isDigit 0
  have hcentury : ((2000 + (pair digits 0 : Int)) % 100).toNat = pair digits 0 := by
    omega
  rw [pairs_eq, h.length]
  simp only [parts, timestamp, hcentury]
  rfl

theorem wire_timestamp (h : Denotes digits) : h.timestamp.wire = String.ofList digits := by
  have heven : digits.length % 2 = 0 := by rw [h.length]
  apply String.toList_inj.1
  rw [toList_wire, h.parts_timestamp, flatMap_pairs heven h.isDigit, String.toList_ofList]

theorem withoutSeason_eq (h : Denotes digits) {s : String} {season : List Char}
    (hs : s.toList = season ++ digits)
    (hseason : season = [] ∨ ∃ c ∈ ['E', 'e', 'H', 'h'], season = [c]) :
    withoutSeason s = String.ofList digits := by
  rcases hseason with rfl | ⟨c, hc, rfl⟩
  · -- the first digit is no letter, and the text stays as it is
    have hsame : s = String.ofList digits := by
      rw [← String.toList_inj, hs, String.toList_ofList, List.nil_append]
    rcases hdigits : digits with _ | ⟨c, rest⟩
    · exact absurd h.length (by simp [hdigits])
    · have hletter := notMem_seasonLetters (h.isDigit c (by simp [hdigits]))
      rw [hdigits] at hs hsame
      simpa [withoutSeason, hs, hletter] using hsame
  · have hletter : c ∈ seasonLetters := hc
    simp [withoutSeason, hs, hletter]

end Denotes

end Digits

end Timestamp

/-! ## Texts that have been read -/

namespace Rule

/-- The normal form of a text that spells a value by the rule: of a number, its decimal numeral with
zeros on the left up to the width of the rule, and never cut; of a timestamp, the text without the
letter of the season. A code is its own normal form. -/
def normalForm : Rule → String → Value → String
  | .integer width, _, .integer n =>
      let numeral := Nat.repr n.toNat
      String.ofList (List.replicate (width - numeral.length) '0') ++ numeral
  | .date, s, _ => Timestamp.withoutSeason s
  | _, s, _ => s

/-- A rule that asks for a character has no empty texts. -/
theorem Spells.ne_empty {rule : Rule} {s : String} {value : Value} (h : rule.Spells s value)
    (hmin : ∀ min max, rule = .code min max → 1 ≤ min) : s ≠ "" := by
  cases h with
  | integer hdigits _ => exact hdigits.1
  | period p => cases p <;> decide
  | tomorrow colour => cases colour <;> decide
  | schedule group => cases group <;> decide
  | base => decide
  | hc => decide
  | ejp => decide
  | tempo hs _ _ =>
    rintro rfl
    exact absurd (congrArg List.length hs) (by simp [Text.bytes])
  | @code min max _ hlength _ =>
    rintro rfl
    have hone := hmin min max rfl
    have hzero : Text.byteLength "" = 0 := rfl
    omega
  | @date _ season digits hs _ hdigits =>
    rintro rfl
    have hlength := congrArg List.length hs
    rw [List.length_append, hdigits.length] at hlength
    simp at hlength

end Rule

namespace Label

theorem one_le_of_rule_eq_code (label : Label) :
    ∀ min max, label.rule = .code min max → 1 ≤ min := by
  cases label <;> simp +contextual [rule, eq_comm]

/-- What a text spells is written in the normal form of the text. -/
theorem write_of_spells {label : Label} {s : String} {value : Value}
    (h : label.rule.Spells s value) :
    label.write value = some (label.rule.normalForm s value) := by
  unfold write
  generalize label.rule = rule at h ⊢
  cases h with
  | @integer width s hdigits hsize =>
    simp only [Rule.normalForm, Option.some.injEq]
    apply String.toList_inj.1
    simp [Numeral.padded, List.leftpad, Nat.repr]
  | period p => rfl
  | tomorrow colour => rfl
  | schedule group => rfl
  | base => rfl
  | hc => rfl
  | ejp => rfl
  | tempo hs hrange hlow => exact congrArg some (TariffOption.code_tempo hs hrange hlow)
  | code _ _ => rfl
  | date hs hseason hdigits =>
    apply congrArg some
    rw [hdigits.wire_timestamp]
    exact (hdigits.withoutSeason_eq hs hseason).symm

/-- A text that gives a value under a label is written in its normal form. The normal form is short
and printable and gives the same value; writing what it gives changes nothing; and no other value of
the label is written in the same way. -/
theorem write_read {label : Label} {s : String} {value : Value}
    (h : label.read s = .ok (some value)) :
    ∃ written, label.write value = some written ∧
      written = label.rule.normalForm s value ∧
      label.read written = .ok (some value) ∧
      (written ≠ "" ∧ (∀ b ∈ Text.bytes written, 0x21 ≤ b ∧ b ≤ 0x7E) ∧
        Text.byteLength written ≤ 12) ∧
      (∀ again, label.read written = .ok (some again) → label.write again = some written) ∧
      ∀ other, label.Admits other → label.write other = some written → other = value := by
  have hspells : label.rule.Spells s value :=
    Rule.parse?_eq_some_iff.1 (read_eq_ok_some.1 h).2
  have hfits : label.rule.Fits value := Admits.fits ⟨s, h⟩
  have hwrite := write_of_spells hspells
  -- what is written is read back, for this value and for every other one
  have hback {other : Value} {text : String} (hother : label.rule.Fits other)
      (htext : label.write other = some text) : label.read text = .ok (some other) := by
    rcases read_write hother with ⟨text', htext', hread⟩
    rw [htext] at htext'
    cases htext'
    exact hread
  have hread := hback hfits hwrite
  rcases isGraphic_of_write hfits hwrite with ⟨hgraphic, hlength⟩
  refine ⟨_, hwrite, rfl, hread, ⟨?_, ?_, ?_⟩, ?_, ?_⟩
  · have hnormal : label.rule.Spells (label.rule.normalForm s value) value :=
      Rule.parse?_eq_some_iff.1 (read_eq_ok_some.1 hread).2
    exact hnormal.ne_empty label.one_le_of_rule_eq_code
  · intro b hb
    have hprintable := Text.isGraphicByte_of_mem_bytes hgraphic b hb
    simpa [Text.isGraphicByte] using hprintable
  · rwa [(Text.isAscii_of_all_isGraphic hgraphic).byteLength_eq]
  · intro again hagain
    rw [hread] at hagain
    cases hagain
    exact hwrite
  · intro other hother hsame
    have hotherRead := hback hother.fits hsame
    rw [hread] at hotherRead
    cases hotherRead
    rfl

/-- A current with more digits than its meter sends keeps them, but for the zeros in front. -/
theorem write_read_wide :
    Label.imax.read "000012345" = .ok (some (.integer 12345)) ∧
      Label.imax.write (.integer 12345) = some "12345" ∧
      Label.imax.read "12345" = .ok (some (.integer 12345)) := by
  have hread : Label.imax.read "000012345" = .ok (some (.integer 12345)) := by decide +kernel
  rcases write_read hread with ⟨written, hwrite, hnormal, hback, -⟩
  have hwritten : written = "12345" := hnormal.trans (by decide +kernel)
  subst hwritten
  exact ⟨hread, hwrite, hback⟩

end Label

/-! ## Values that no text gives -/

namespace Timestamp

/-- No day is lost: this century begins with a leap year, as not every century does. -/
theorem daysInMonth_le_inThisCentury (year : Int) (month : Nat) :
    Calendar.daysInMonth year month ≤ Calendar.daysInMonth (2000 + year % 100) month := by
  have hleap (h : Calendar.isLeapYear year = true) :
      Calendar.isLeapYear (2000 + year % 100) = true := by
    simp only [Calendar.isLeapYear, Bool.and_eq_true, Bool.or_eq_true, decide_eq_true_eq] at h ⊢
    omega
  unfold Calendar.daysInMonth
  split
  · by_cases h : Calendar.isLeapYear year = true
    · rw [if_pos h, if_pos (hleap h)]
    · rw [if_neg h]
      split <;> decide
  · exact Nat.le_refl _

/-- The timestamp of this century whose year has the same last two digits. -/
def inThisCentury (t : Timestamp) : Timestamp where
  year := 2000 + t.year % 100
  month := t.month
  day := t.day
  hour := t.hour
  minute := t.minute
  second := t.second
  year_bounds := by omega
  month_bounds := t.month_bounds
  day_bounds :=
    ⟨t.day_bounds.1, Nat.le_trans t.day_bounds.2 (daysInMonth_le_inThisCentury t.year t.month)⟩
  time_bounds := t.time_bounds

/-- On the wire the century is lost. -/
theorem parse?_wire_inThisCentury (t : Timestamp) : parse? t.wire = some t.inThisCentury := by
  have hyear : (2000 + t.year % 100) % 100 = t.year % 100 := by omega
  have hwire : t.inThisCentury.wire = t.wire := by
    simp only [wire, inThisCentury, hyear]
  rw [← hwire]
  apply parse?_wire
  simp only [inThisCentury]
  omega

end Timestamp

namespace Rule

/-- A value of the kind that the rule asks for, and still none of its values. -/
inductive Strays : Rule → Value → Prop
  /-- a text of a wrong length, or with a byte that is not printable -/
  | code {min max : Nat} {s : String}
      (h : ¬ ((min ≤ Text.byteLength s ∧ Text.byteLength s ≤ max) ∧
        ∀ b ∈ Text.bytes s, 0x21 ≤ b ∧ b ≤ 0x7E)) : Strays (.code min max) (.text s)
  /-- a timestamp of another century -/
  | date {t : Timestamp} (h : t.year < 2000 ∨ 2099 < t.year) : Strays .date (.date t)

theorem fits_text_iff {min max : Nat} {s : String} :
    (Rule.code min max).Fits (.text s) ↔
      (min ≤ Text.byteLength s ∧ Text.byteLength s ≤ max) ∧
        ∀ b ∈ Text.bytes s, 0x21 ≤ b ∧ b ≤ 0x7E := by
  have hbytes : (∀ b ∈ Text.bytes s, 0x21 ≤ b ∧ b ≤ 0x7E) ↔ s.toList.all Text.isGraphic := by
    rw [← Text.all_isGraphicByte]
    simp [Text.isGraphicByte]
  rw [hbytes]
  constructor
  · rintro ⟨hlength, hgraphic⟩
    rw [(Text.isAscii_of_all_isGraphic hgraphic).byteLength_eq]
    exact ⟨hlength, hgraphic⟩
  · rintro ⟨hlength, hgraphic⟩
    rw [(Text.isAscii_of_all_isGraphic hgraphic).byteLength_eq] at hlength
    exact ⟨hlength, hgraphic⟩

/-- A stray value is exactly what its rule does not ask for. -/
theorem strays_text_iff {min max : Nat} {s : String} :
    (Rule.code min max).Strays (.text s) ↔ ¬ (Rule.code min max).Fits (.text s) := by
  rw [fits_text_iff]
  constructor
  · rintro ⟨h⟩
    exact h
  · exact .code

theorem strays_date_iff {t : Timestamp} :
    Rule.date.Strays (.date t) ↔ ¬ Rule.date.Fits (.date t) := by
  have hcentury : t.year < 2000 ∨ 2099 < t.year ↔ ¬ (2000 ≤ t.year ∧ t.year < 2100) := by
    omega
  constructor
  · rintro (_ | h)
    exact hcentury.1 h
  · intro h
    exact .date (hcentury.2 h)

theorem Strays.not_fits {rule : Rule} {value : Value} (h : rule.Strays value) :
    ¬ rule.Fits value := by
  cases h with
  | code h => exact strays_text_iff.1 (.code h)
  | date h => exact strays_date_iff.1 (.date h)

/-- Only codes of a bounded length and timestamps have stray values. -/
theorem not_strays {rule : Rule} (hcode : ∀ min max, rule ≠ .code min max) (hdate : rule ≠ .date)
    (value : Value) : ¬ rule.Strays value := by
  intro h
  cases h with
  | @code min max _ _ => exact hcode min max rfl
  | date _ => exact hdate rfl

end Rule

namespace Label

/-- A value is written if it fits the rule of the label or strays from it. -/
theorem isSome_write_iff_fits_or_strays {label : Label} {value : Value} :
    (label.write value).isSome ↔ label.rule.Fits value ∨ label.rule.Strays value := by
  -- a value of another kind does neither
  have hforeign {rule : Rule} (hfits : ¬ rule.Fits value) (hstrays : ¬ rule.Strays value) :
      (none : Option String).isSome ↔ rule.Fits value ∨ rule.Strays value := by
    simp [hfits, hstrays]
  have hclosed {rule : Rule} (hcode : ∀ min max, rule ≠ .code min max) (hdate : rule ≠ .date) :
      rule.Fits value ∨ rule.Strays value ↔ rule.Fits value :=
    or_iff_left (rule.not_strays hcode hdate value)
  unfold write
  generalize label.rule = rule at *
  cases rule with
  | code min max =>
    cases value with
    | text s =>
      rw [Rule.strays_text_iff]
      simpa using Classical.em ((Rule.code min max).Fits (.text s))
    | _ => exact hforeign nofun nofun
  | date =>
    cases value with
    | date t =>
      rw [Rule.strays_date_iff]
      simpa using Classical.em (Rule.date.Fits (.date t))
    | _ => exact hforeign nofun nofun
  | _ =>
    rw [hclosed (by simp) (by simp)]
    cases value <;> simp [Rule.Fits]

/-- The text of a stray value says something else: it is refused as a code, or read as a timestamp of
this century. -/
theorem read_of_strays {label : Label} {value : Value} {s : String}
    (hstrays : label.rule.Strays value) (h : label.write value = some s) :
    (value = .text s ∧ label.read s = .error (label.refusal s)) ∨
      ∃ t : Timestamp, value = .date t ∧ label.read s = .ok (some (.date t.inThisCentury)) := by
  have hvoid : label.voidText? = none := by
    cases label with
    | demain => exact absurd hstrays (Rule.not_strays (by simp [rule]) (by simp [rule]) value)
    | _ => rfl
  have hvoid' : label.voidText? ≠ some s := by simp [hvoid]
  simp only [read_eq_error, read_eq_ok_some, hvoid', ne_eq, not_false_eq_true, true_and, and_true]
  unfold write at h
  generalize label.rule = rule at *
  cases hstrays with
  | @code min max text hcode =>
    cases h
    left
    refine ⟨rfl, ?_⟩
    -- the only value that the text could give is itself, and that is no code
    cases hparse : (Rule.code min max).parse? s with
    | none => rfl
    | some value =>
      have hfits := Rule.fits_of_parse? hparse
      cases Rule.parse?_eq_some_iff.1 hparse
      exact absurd (Rule.fits_text_iff.1 hfits) hcode
  | @date t _ =>
    cases h
    right
    refine ⟨t, rfl, ?_⟩
    rw [Rule.parse?, t.parse?_wire_inThisCentury, Option.map_some]

/-- Exactly the values that a text can give are written, and the stray ones besides: codes of a wrong
length or with a byte that is not printable, and timestamps of another century. No stray value can be
read under the label, and its text says something else: it is refused, or read as a timestamp of this
century. Only four labels have stray values. -/
theorem isSome_write_iff (label : Label) (value : Value) :
    ((label.write value).isSome ↔ label.Admits value ∨ label.rule.Strays value) ∧
      ¬ (label.Admits value ∧ label.rule.Strays value) ∧
      (∀ s, label.write value = some s → label.rule.Strays value →
        (value = .text s ∧ label.read s = .error (label.refusal s)) ∨
          ∃ t : Timestamp, value = .date t ∧ label.read s = .ok (some (.date t.inThisCentury))) ∧
      (label ∉ [adco, motdetat, ppot, date] →
        ((label.write value).isSome ↔ label.Admits value)) := by
  have hwritten : (label.write value).isSome ↔ label.Admits value ∨ label.rule.Strays value := by
    rw [admits_iff]
    exact isSome_write_iff_fits_or_strays
  refine ⟨hwritten, ?_, ?_, ?_⟩
  · rintro ⟨hadmits, hstrays⟩
    exact hstrays.not_fits hadmits.fits
  · intro s hwrite hstrays
    exact read_of_strays hstrays hwrite
  · intro hlabel
    have hnone : ¬ label.rule.Strays value := by
      apply Rule.not_strays
      · intro min max
        cases label <;> simp_all [rule]
      · cases label <;> simp_all [rule]
    rw [hwritten, or_iff_left hnone]

/-- The last second of 1999 is written as that of 2099. -/
theorem isSome_write_iff_last_century :
    let last : Timestamp := ⟨1999, 12, 31, 23, 59, 59, by decide, by decide, by decide, by decide⟩
    date.write (.date last) = some "991231235959" ∧ ¬ date.Admits (.date last) ∧
      date.read "991231235959" = .ok (some (.date last.inThisCentury)) := by
  intro last
  rcases isSome_write_iff date (.date last) with ⟨-, hexcluded, hreads, -⟩
  have hwrite : date.write (.date last) = some "991231235959" := by decide +kernel
  have hstrays : date.rule.Strays (.date last) := .date (.inl (by decide))
  refine ⟨hwrite, ?_, ?_⟩
  · intro hadmits
    exact hexcluded ⟨hadmits, hstrays⟩
  · rcases hreads _ hwrite hstrays with ⟨htext, -⟩ | ⟨t, ht, hread⟩
    · cases htext
    · cases ht
      exact hread

/-- An address with a digit too many is written, though no text gives it. -/
theorem write_overlong_address :
    adco.write (.text "0317621201620") = some "0317621201620" ∧
      ¬ adco.Admits (.text "0317621201620") := by
  refine ⟨rfl, ?_⟩
  intro h
  have hlength : "0317621201620".length ≤ 12 := h.fits.1.2
  exact absurd hlength (by decide)

end Label

end TicMeter
