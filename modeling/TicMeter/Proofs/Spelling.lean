import Mathlib.Data.List.Induction
import Mathlib.Data.Nat.Digits.Defs
import Mathlib.Tactic.IntervalCases
import TicMeter.Proofs.Writing

/-!
# Spelling — the texts of the values of every rule

`Rule.Spells` lists for each rule which texts stand for which values, apart from how texts are read.

* `Numeral.value` is the number that digits stand for, place by place.
* `Timestamp.Denotes` holds of twelve digits that are a date of this century and a time of day.
* `Timestamp.field?` cuts two digits out of the bytes of a text by their offsets.
* `Rule.parse?_eq_some_iff`: a rule reads the texts that spell a value, and gives this value.
* `Label.read_by_rule`: what the text of a value gives under each label, and what is reported
  otherwise.
-/

namespace TicMeter

/-! ## Numbers -/

namespace Numeral

/-- The number that decimal digits stand for; the last digit counts the ones. -/
def value (digits : List Char) : Nat :=
  Nat.ofDigits 10 (digits.reverse.map fun c => c.toNat - '0'.toNat)

theorem ofDigitChars_eq_value (digits : List Char) :
    Nat.ofDigitChars 10 digits 0 = value digits := by
  induction digits using List.reverseRecOn with
  | nil => rfl
  | append_singleton front c ih =>
    rw [Nat.ofDigitChars_append, ih]
    simp only [value, List.reverse_append, List.reverse_singleton, List.singleton_append,
      List.map_cons, Nat.ofDigits_cons, Nat.ofDigitChars_cons, Nat.ofDigitChars_nil]
    omega

theorem parse?_eq_some_iff {s : String} {n : Nat} :
    parse? s = some n ↔ (s ≠ "" ∧ ∀ c ∈ s.toList, c.isDigit) ∧ n = value s.toList := by
  have hdigits : isDigits s.toList ↔ s ≠ "" ∧ ∀ c ∈ s.toList, c.isDigit := by
    simp [isDigits]
  rw [parse?, Option.ite_none_right_eq_some, hdigits, ofDigitChars_eq_value, Option.some.injEq,
    eq_comm]

theorem lt_of_mem_digits {digits : List Char} (h : ∀ c ∈ digits, c.isDigit) :
    ∀ d ∈ digits.reverse.map fun c => c.toNat - '0'.toNat, d < 10 := by
  intro d hd
  rcases List.mem_map.1 hd with ⟨c, hc, rfl⟩
  have hdigit := Char.isDigit_iff_toNat.1 (h c (List.mem_reverse.1 hc))
  have hzero : '0'.toNat = 48 := rfl
  have hnine : '9'.toNat = 57 := rfl
  omega

theorem value_lt {digits : List Char} (h : ∀ c ∈ digits, c.isDigit) :
    value digits < 10 ^ digits.length := by
  simpa [value] using Nat.ofDigits_lt_base_pow_length (by decide) (lt_of_mem_digits h)

end Numeral

theorem Value.parseInteger?_eq_some_iff {s : String} {n : UInt32} :
    parseInteger? s = some n ↔
      (s ≠ "" ∧ ∀ c ∈ s.toList, c.isDigit) ∧ Numeral.value s.toList ≤ 4294967295 ∧
        n = UInt32.ofNat (Numeral.value s.toList) := by
  have hsize (k : Nat) : k < UInt32.size ↔ k ≤ 4294967295 := Nat.lt_succ_iff
  have hparse : parseInteger? s = some n ↔
      ∃ k, Numeral.parse? s = some k ∧ k < UInt32.size ∧ UInt32.ofNat k = n := by
    unfold parseInteger?
    cases Numeral.parse? s <;> simp
  rw [hparse]
  constructor
  · rintro ⟨k, hk, hfits, rfl⟩
    rcases Numeral.parse?_eq_some_iff.1 hk with ⟨hdigits, rfl⟩
    exact ⟨hdigits, (hsize _).1 hfits, rfl⟩
  · rintro ⟨hdigits, hfits, rfl⟩
    exact ⟨_, Numeral.parse?_eq_some_iff.2 ⟨hdigits, rfl⟩, (hsize _).2 hfits, rfl⟩

/-! ## Codes -/

/-- In a table in which every member is found by its code, no text but the code finds it. -/
theorem find?_code_iff {α : Type} {all : List α} {code : α → String}
    (h : ∀ a, all.find? (code · == code a) = some a) {s : String} {a : α} :
    all.find? (code · == s) = some a ↔ s = code a := by
  constructor
  · intro hfind
    exact (by simpa using List.find?_some hfind : code a = s).symm
  · rintro rfl
    exact h a

namespace CircuitProgramme

/-- The programme of a byte: the two low bits are the first circuit, the next three the second. -/
def ofBits (byte : UInt8) : CircuitProgramme where
  circuit1 := if byte &&& 3 = 1 then .a else if byte &&& 3 = 2 then .b else .c
  circuit2 := ⟨byte.toNat / 4 % 8, Nat.mod_lt _ (by decide)⟩

/-- Bits 2 to 4 as a number. -/
theorem toNat_highBits (byte : UInt8) : ((byte >>> 2) &&& 7).toNat = byte.toNat / 4 % 8 := by
  have hmask : ((byte >>> 2) &&& 7).toNat = (byte >>> 2).toNat % 2 ^ 3 := by
    rw [UInt8.toNat_and]
    exact Nat.and_two_pow_sub_one_eq_mod _ 3
  have hshift : (byte >>> 2).toNat = byte.toNat / 2 ^ 2 := by
    rw [UInt8.toNat_shiftRight]
    exact Nat.shiftRight_eq_div_pow _ 2
  calc ((byte >>> 2) &&& 7).toNat
      = byte.toNat / 2 ^ 2 % 2 ^ 3 := by rw [hmask, hshift]
    _ = byte.toNat / 4 % 8 := rfl

theorem lowBits_cases (byte : UInt8) :
    byte &&& 3 = 0 ∨ byte &&& 3 = 1 ∨ byte &&& 3 = 2 ∨ byte &&& 3 = 3 := by
  have hbound : (byte &&& 3).toNat ≤ 3 := by
    rw [UInt8.toNat_and]
    exact Nat.and_le_right
  have htwo : (2 : UInt8).toNat = 2 := rfl
  have hthree : (3 : UInt8).toNat = 3 := rfl
  simp only [← UInt8.toNat_inj, UInt8.toNat_zero, UInt8.toNat_one]
  omega

/-- A byte is a programme unless it lies outside of the printable range or has no first circuit. -/
theorem ofByte?_eq (byte : UInt8) :
    ofByte? byte =
      if (0x40 ≤ byte ∧ byte ≤ 0x5F) ∧ byte &&& 3 ≠ 0 then some (ofBits byte) else none := by
  have hcircuit2 : (Fin.ofNat 8 ((byte >>> 2) &&& 7).toNat : SecondCircuit) =
      ⟨byte.toNat / 4 % 8, Nat.mod_lt _ (by decide)⟩ := by
    refine Fin.ext ?_
    simp only [Fin.ofNat, toNat_highBits, Nat.mod_mod]
  unfold ofByte? ofBits base
  by_cases hrange : 0x40 ≤ byte ∧ byte ≤ 0x5F
  · rw [if_pos hrange, hcircuit2]
    -- zero in the two low bits is the only pattern that no first circuit has
    rcases lowBits_cases byte with hlow | hlow | hlow | hlow <;>
      simp [hlow, hrange, FirstCircuit.all, FirstCircuit.bits]
  · rw [if_neg hrange, if_neg fun h => hrange h.1]

end CircuitProgramme

namespace TariffOption

/-- Behind the letters of the coloured option the byte alone decides. -/
theorem ofCode?_of_bytes {s : String} {byte : UInt8}
    (hs : Text.bytes s = Text.bytes "BBR" ++ [byte]) :
    ofCode? s = (CircuitProgramme.ofByte? byte).map .tempo := by
  have htake : (Text.bytes s).take 3 = Text.bytes "BBR" := by
    rw [hs]
    rfl
  -- the codes of the other options begin with other letters
  have hother : s ≠ "BASE" ∧ s ≠ "HC.." ∧ s ≠ "EJP." := by
    refine ⟨?_, ?_, ?_⟩ <;> rintro rfl <;> exact absurd htake (by decide)
  rcases hother with ⟨hbase, hhc, hejp⟩
  have hfour : Text.bytes s = [0x42, 0x42, 0x52, byte] := hs
  have htempo : ([0x42, 0x42, 0x52] : List UInt8) = Text.bytes tempoCode := by decide
  unfold ofCode?
  simp [code, hbase, hhc, hejp, hfour, htempo]

/-- A code is one of the three fixed ones, or that of the coloured option with a byte. -/
theorem ofCode?_cases {s : String} {o : TariffOption} (h : ofCode? s = some o) :
    (o = .base ∧ s = "BASE") ∨ (o = .hc ∧ s = "HC..") ∨ (o = .ejp ∧ s = "EJP.") ∨
      ∃ byte, Text.bytes s = Text.bytes "BBR" ++ [byte] := by
  unfold ofCode? at h
  split at h
  · next hs => exact .inl ⟨(Option.some.inj h).symm, beq_iff_eq.1 hs⟩
  split at h
  · next hs => exact .inr (.inl ⟨(Option.some.inj h).symm, beq_iff_eq.1 hs⟩)
  split at h
  · next hs => exact .inr (.inr (.inl ⟨(Option.some.inj h).symm, beq_iff_eq.1 hs⟩))
  split at h
  · next b1 b2 b3 byte hbytes =>
    split at h
    · next htempo =>
      have hletters : Text.bytes "BBR" = [b1, b2, b3] := htempo.symm
      refine .inr (.inr (.inr ⟨byte, ?_⟩))
      rw [hbytes, hletters]
      rfl
    · cases h
  · cases h

theorem ofCode?_eq_some_iff {s : String} {o : TariffOption} :
    ofCode? s = some o ↔
      (o = .base ∧ s = "BASE") ∨ (o = .hc ∧ s = "HC..") ∨ (o = .ejp ∧ s = "EJP.") ∨
        ∃ byte, Text.bytes s = Text.bytes "BBR" ++ [byte] ∧
          ((0x40 ≤ byte ∧ byte ≤ 0x5F) ∧ byte &&& 3 ≠ 0) ∧ o = .tempo (.ofBits byte) := by
  -- the three short codes are closed terms; the fourth one depends on its last byte
  have htempo {byte : UInt8} (hs : Text.bytes s = Text.bytes "BBR" ++ [byte]) :
      ofCode? s = some o ↔
        ((0x40 ≤ byte ∧ byte ≤ 0x5F) ∧ byte &&& 3 ≠ 0) ∧ o = .tempo (.ofBits byte) := by
    rw [ofCode?_of_bytes hs, CircuitProgramme.ofByte?_eq]
    split
    · next hbyte => simp [hbyte, eq_comm]
    · next hbyte => simp [hbyte]
  constructor
  · intro h
    rcases ofCode?_cases h with hbase | hhc | hejp | ⟨byte, hs⟩
    · exact .inl hbase
    · exact .inr (.inl hhc)
    · exact .inr (.inr (.inl hejp))
    · exact .inr (.inr (.inr ⟨byte, hs, (htempo hs).1 h⟩))
  · rintro (⟨rfl, rfl⟩ | ⟨rfl, rfl⟩ | ⟨rfl, rfl⟩ | ⟨byte, hs, hbyte⟩)
    · decide
    · decide
    · decide
    · exact (htempo hs).2 hbyte

end TariffOption

/-! ## Timestamps -/

namespace Timestamp

/-- The number of the two digits at a place, the places counted in twos. -/
def pair (digits : List Char) (place : Nat) : Nat :=
  Numeral.value ((digits.drop (2 * place)).take 2)

/-- The days of the months in the years from 2000 to 2099, where every fourth year is a leap
year. -/
def monthLengths (year : Nat) : List Nat :=
  [31, if 4 ∣ year then 29 else 28, 31, 30, 31, 30, 31, 31, 30, 31, 30, 31]

/-- Twelve digits that are a date of the years from 2000 to 2099 and a time of day. -/
structure Denotes (digits : List Char) : Prop where
  length : digits.length = 12
  isDigit : ∀ c ∈ digits, c.isDigit
  month : 1 ≤ pair digits 1 ∧ pair digits 1 ≤ 12
  day : 1 ≤ pair digits 2 ∧
    pair digits 2 ≤ (monthLengths (pair digits 0)).getD (pair digits 1 - 1) 0
  time : pair digits 3 < 24 ∧ pair digits 4 < 60 ∧ pair digits 5 < 60

theorem daysInMonth_eq {year month : Nat} (hyear : year < 100) (hmonth : 1 ≤ month ∧ month ≤ 12) :
    Calendar.daysInMonth (2000 + (year : Int)) month = (monthLengths year).getD (month - 1) 0 := by
  -- the year 2000 is a leap year, and no other of these years ends a century
  have hleap : Calendar.isLeapYear (2000 + (year : Int)) = decide (4 ∣ year) := by
    rw [Calendar.isLeapYear, Bool.eq_iff_iff]
    simp only [Bool.and_eq_true, Bool.or_eq_true, decide_eq_true_eq]
    omega
  rcases hmonth with ⟨hlow, hhigh⟩
  unfold Calendar.daysInMonth
  rw [hleap]
  interval_cases month <;> simp [monthLengths]

section Digits

variable {digits : List Char}

theorem pair_lt (h : ∀ c ∈ digits, c.isDigit) (place : Nat) : pair digits place < 100 := by
  have hdigits : ∀ c ∈ (digits.drop (2 * place)).take 2, c.isDigit :=
    fun c hc => h c (List.mem_of_mem_drop (List.mem_of_mem_take hc))
  have hlength : ((digits.drop (2 * place)).take 2).length ≤ 2 := List.length_take_le 2 _
  calc pair digits place
      < 10 ^ ((digits.drop (2 * place)).take 2).length := Numeral.value_lt hdigits
    _ ≤ 10 ^ 2 := Nat.pow_le_pow_right (by decide) hlength

theorem pairs_eq (digits : List Char) :
    pairs digits = (List.range (digits.length / 2)).map (pair digits) := by
  fun_induction pairs digits with
  | case1 a b rest ih =>
    have hhalf : (a :: b :: rest).length / 2 = rest.length / 2 + 1 := by
      simp only [List.length_cons]
      omega
    have hnext : pair (a :: b :: rest) ∘ Nat.succ = pair rest := by
      funext place
      simp [pair, Nat.mul_succ]
    rw [ih, hhalf, List.range_succ_eq_map, List.map_cons, List.map_map, hnext,
      Numeral.ofDigitChars_eq_value]
    rfl
  | case2 digits hshort =>
    have hlength : digits.length / 2 = 0 := by
      rcases digits with _ | ⟨a, _ | ⟨b, rest⟩⟩
      · rfl
      · simp
      · exact (hshort a b rest rfl).elim
    rw [hlength]
    rfl

def Denotes.timestamp (h : Denotes digits) : Timestamp where
  year := 2000 + (pair digits 0 : Int)
  month := pair digits 1
  day := pair digits 2
  hour := pair digits 3
  minute := pair digits 4
  second := pair digits 5
  year_bounds := by
    have hyear := pair_lt h.isDigit 0
    omega
  month_bounds := h.month
  day_bounds := by
    rw [daysInMonth_eq (pair_lt h.isDigit 0) h.month]
    exact h.day
  time_bounds := h.time

theorem ofDigits?_eq_some_iff {t : Timestamp} :
    ofDigits? digits = some t ↔ ∃ h : Denotes digits, t = h.timestamp := by
  -- twelve digits are six pairs, and what is left to ask is whether the calendar has them
  have hof (hlength : digits.length = 12) (hdigits : digits.all Char.isDigit) :
      ofDigits? digits = of? (2000 + (pair digits 0 : Int)) (pair digits 1) (pair digits 2)
        (pair digits 3) (pair digits 4) (pair digits 5) := by
    rw [ofDigits?, if_pos ⟨hlength, hdigits⟩, pairs_eq, hlength]
    rfl
  constructor
  · intro h
    have hshape : digits.length = 12 ∧ digits.all Char.isDigit := by
      by_contra hshape
      rw [ofDigits?, if_neg hshape] at h
      cases h
    rcases hshape with ⟨hlength, hdigits⟩
    have hall : ∀ c ∈ digits, c.isDigit := List.all_eq_true.1 hdigits
    rw [hof hlength hdigits] at h
    rcases t with ⟨year, month, day, hour, minute, second, hyear, hmonth, hday, htime⟩
    rcases parts_of_of? h with ⟨rfl, rfl, rfl, rfl, rfl, rfl⟩
    rw [daysInMonth_eq (pair_lt hall 0) hmonth] at hday
    exact ⟨⟨hlength, hall, hmonth, hday, htime⟩, rfl⟩
  · rintro ⟨h, rfl⟩
    rw [hof h.length (List.all_eq_true.2 h.isDigit)]
    exact of?_self h.timestamp

end Digits

/-- A text is read if it is twelve digits, alone or behind a letter. -/
theorem parse?_eq_some_iff {s : String} {t : Timestamp} :
    parse? s = some t ↔
      ∃ season digits, s.toList = season ++ digits ∧
        (season = [] ∨ ∃ c ∈ ['E', 'e', 'H', 'h'], season = [c]) ∧
        ∃ h : Denotes digits, t = h.timestamp := by
  constructor
  · intro h
    unfold parse? at h
    split at h
    · next c digits hs =>
      split at h
      · next hc => exact ⟨[c], digits, hs, .inr ⟨c, hc, rfl⟩, ofDigits?_eq_some_iff.1 h⟩
      · exact ⟨[], c :: digits, hs, .inl rfl, ofDigits?_eq_some_iff.1 h⟩
    · cases h
  · rintro ⟨season, digits, hs, rfl | ⟨c, hc, rfl⟩, h⟩
    · -- a text of digits does not begin with a letter of the season
      have hread := ofDigits?_eq_some_iff.2 h
      rcases h with ⟨h, -⟩
      rcases digits with _ | ⟨c, digits⟩
      · exact absurd h.length (by simp)
      · have hseason := notMem_seasonLetters (h.isDigit c (by simp))
        simpa [parse?, hs, hseason] using hread
    · have hread := ofDigits?_eq_some_iff.2 h
      have hseason : c ∈ seasonLetters := hc
      simpa [parse?, hs, hseason] using hread

/-! ### Offsets -/

/-- The number of two digits, cut out of the bytes of a text by their offset. There is no answer
when the offset lies outside of the bytes, when what is cut out is no text, or when it is no
number. -/
def field? (digits : String) (place : Nat) : Option Nat :=
  ((Text.slice? (Text.bytes digits) (2 * place) (2 * place + 2)).bind Text.ofBytes?).bind
    Numeral.parse?

/-- No offset misses the digits. -/
theorem field?_eq {digits : String} (hlength : digits.toList.length = 12)
    (hdigits : ∀ c ∈ digits.toList, c.isDigit) {place : Nat} (hplace : place < 6) :
    field? digits place = some (pair digits.toList place) := by
  let two := (digits.toList.drop (2 * place)).take 2
  have hmem : ∀ c ∈ two, c ∈ digits.toList :=
    fun c hc => List.mem_of_mem_drop (List.mem_of_mem_take hc)
  -- digits are single bytes, so the offsets of bytes are those of characters
  have hascii : Text.IsAscii digits := by
    intro c hc
    have hdigit := Char.isDigit_iff_toNat.1 (hdigits c hc)
    have hnine : '9'.toNat = 57 := rfl
    omega
  have htwoAscii : Text.IsAscii (String.ofList two) := by
    intro c hc
    exact hascii c (hmem c (by simpa using hc))
  have hbounds : 2 * place ≤ 2 * place + 2 ∧ 2 * place + 2 ≤ digits.length := by
    rw [String.length_toList] at hlength
    omega
  have hslice : Text.slice? (Text.bytes digits) (2 * place) (2 * place + 2) =
      some (Text.bytes (String.ofList two)) := by
    rw [hascii.slice?_bytes hbounds, Nat.add_sub_cancel_left]
  have hnumber : String.ofList two ≠ "" ∧ ∀ c ∈ (String.ofList two).toList, c.isDigit := by
    constructor
    · intro hempty
      have htwoLength : two.length = 2 := by
        simp only [two, List.length_take, List.length_drop, hlength]
        omega
      rw [← String.length_ofList, hempty] at htwoLength
      exact absurd htwoLength (by decide)
    · intro c hc
      exact hdigits c (hmem c (by simpa using hc))
  unfold field?
  rw [hslice, Option.bind_some, htwoAscii.ofBytes?_bytes, Option.bind_some,
    Numeral.parse?_eq_some_iff]
  refine ⟨hnumber, ?_⟩
  rw [String.toList_ofList]
  rfl

end Timestamp

/-! ## Rules -/

namespace Rule

/-- The texts of the values of a rule. -/
inductive Spells : Rule → String → Value → Prop
  /-- decimal digits, of a number of 32 bits -/
  | integer {width : Nat} {s : String} (hdigits : s ≠ "" ∧ ∀ c ∈ s.toList, c.isDigit)
      (hsize : Numeral.value s.toList ≤ 4294967295) :
      Spells (.integer width) s (.integer (UInt32.ofNat (Numeral.value s.toList)))
  | period (p : TariffPeriod) : Spells .period p.code (.period p)
  | tomorrow (colour : DayColour) : Spells .tomorrow colour.code (.tomorrow colour)
  | schedule (group : ScheduleGroup) : Spells .schedule group.code (.schedule group)
  | base : Spells .option "BASE" (.option .base)
  | hc : Spells .option "HC.." (.option .hc)
  | ejp : Spells .option "EJP." (.option .ejp)
  /-- one byte behind three letters, with two low bits that are not both zero -/
  | tempo {s : String} {byte : UInt8} (hs : Text.bytes s = Text.bytes "BBR" ++ [byte])
      (hrange : 0x40 ≤ byte ∧ byte ≤ 0x5F) (hlow : byte &&& 3 ≠ 0) :
      Spells .option s (.option (.tempo (.ofBits byte)))
  /-- printable ASCII of a length between two bounds -/
  | code {min max : Nat} {s : String}
      (hlength : min ≤ Text.byteLength s ∧ Text.byteLength s ≤ max)
      (hprintable : ∀ b ∈ Text.bytes s, 0x21 ≤ b ∧ b ≤ 0x7E) : Spells (.code min max) s (.text s)
  /-- twelve digits, alone or behind a letter -/
  | date {s : String} {season digits : List Char} (hs : s.toList = season ++ digits)
      (hseason : season = [] ∨ ∃ c ∈ ['E', 'e', 'H', 'h'], season = [c])
      (hdigits : Timestamp.Denotes digits) : Spells .date s (.date hdigits.timestamp)

/-- What a rule reads is spelled as it says. -/
theorem spells_of_parse? {rule : Rule} {s : String} {value : Value}
    (h : rule.parse? s = some value) : rule.Spells s value := by
  cases rule with
  | integer width =>
    rcases Option.map_eq_some_iff.1 h with ⟨n, hn, rfl⟩
    rcases Value.parseInteger?_eq_some_iff.1 hn with ⟨hdigits, hsize, rfl⟩
    exact .integer hdigits hsize
  | period =>
    rcases Option.map_eq_some_iff.1 h with ⟨p, hp, rfl⟩
    rw [(find?_code_iff TariffPeriod.ofCode?_code).1 hp]
    exact .period p
  | tomorrow =>
    rcases Option.map_eq_some_iff.1 h with ⟨colour, hcolour, rfl⟩
    rw [(find?_code_iff DayColour.ofCode?_code).1 hcolour]
    exact .tomorrow colour
  | schedule =>
    rcases Option.map_eq_some_iff.1 h with ⟨group, hgroup, rfl⟩
    rw [(find?_code_iff ScheduleGroup.ofCode?_code).1 hgroup]
    exact .schedule group
  | option =>
    rcases Option.map_eq_some_iff.1 h with ⟨o, ho, rfl⟩
    rcases TariffOption.ofCode?_eq_some_iff.1 ho with
      ⟨rfl, rfl⟩ | ⟨rfl, rfl⟩ | ⟨rfl, rfl⟩ | ⟨byte, hs, ⟨hrange, hlow⟩, rfl⟩
    · exact .base
    · exact .hc
    · exact .ejp
    · exact .tempo hs hrange hlow
  | code min max =>
    rw [parse?, Option.ite_none_right_eq_some, ← Text.all_isGraphicByte] at h
    rcases h with ⟨⟨hlength, hprintable⟩, hvalue⟩
    cases hvalue
    exact .code hlength (by simpa [Text.isGraphicByte] using hprintable)
  | date =>
    rcases Option.map_eq_some_iff.1 h with ⟨t, ht, rfl⟩
    rcases Timestamp.parse?_eq_some_iff.1 ht with ⟨season, digits, hs, hseason, hdigits, rfl⟩
    exact .date hs hseason hdigits

/-- What is spelled as a rule says is read. -/
theorem Spells.parse?_eq {rule : Rule} {s : String} {value : Value} (h : rule.Spells s value) :
    rule.parse? s = some value := by
  cases h with
  | integer hdigits hsize =>
    exact Option.map_eq_some_iff.2
      ⟨_, Value.parseInteger?_eq_some_iff.2 ⟨hdigits, hsize, rfl⟩, rfl⟩
  | period p => simp [parse?, TariffPeriod.ofCode?_code]
  | tomorrow colour => simp [parse?, DayColour.ofCode?_code]
  | schedule group => simp [parse?, ScheduleGroup.ofCode?_code]
  | base => rfl
  | hc => rfl
  | ejp => rfl
  | tempo hs hrange hlow =>
    have ho := TariffOption.ofCode?_eq_some_iff.2
      (.inr (.inr (.inr ⟨_, hs, ⟨hrange, hlow⟩, rfl⟩)))
    simp [parse?, ho]
  | code hlength hprintable =>
    rw [parse?, Option.ite_none_right_eq_some, ← Text.all_isGraphicByte]
    exact ⟨⟨hlength, by simpa [Text.isGraphicByte] using hprintable⟩, rfl⟩
  | date hs hseason hdigits =>
    have ht := Timestamp.parse?_eq_some_iff.2 ⟨_, _, hs, hseason, hdigits, rfl⟩
    simp [parse?, ht]

/-- A rule reads the texts that spell a value. -/
theorem parse?_eq_some_iff {rule : Rule} {s : String} {value : Value} :
    rule.parse? s = some value ↔ rule.Spells s value :=
  ⟨spells_of_parse?, Spells.parse?_eq⟩

end Rule

/-! ## Labels -/

namespace Label

theorem voidText?_eq_some_iff {label : Label} {s : String} :
    label.voidText? = some s ↔ label = .demain ∧ s = "----" := by
  cases label <;> simp [voidText?, eq_comm]

/-- The text that stands for no value spells none. -/
theorem voidText?_ne_of_spells {label : Label} {s : String} {value : Value}
    (h : label.rule.Spells s value) : label.voidText? ≠ some s := by
  intro hvoid
  rcases voidText?_eq_some_iff.1 hvoid with ⟨rfl, rfl⟩
  have hcode := h.parse?_eq
  revert hcode
  simp [rule, Rule.parse?, show DayColour.ofCode? "----" = none by decide]

/-- What the text of a value gives under a label: the value that it spells by the rule of the label,
no value where it says that there is none, and the error of the rule otherwise. The digits of a date
are all found where they are looked for. -/
theorem read_by_rule (label : Label) (s : String) :
    (label.read s = .ok none ↔ label = .demain ∧ s = "----") ∧
      (∀ value, label.read s = .ok (some value) ↔ label.rule.Spells s value) ∧
      (∀ why, label.read s = .error why ↔
        (¬ (label = .demain ∧ s = "----") ∧ ∀ value, ¬ label.rule.Spells s value) ∧
          why = label.refusal s) ∧
      (∀ text, label.read s ≠ .error (.unknownLabel text)) ∧
      ∀ digits : String, digits.toList.length = 12 → (∀ c ∈ digits.toList, c.isDigit) →
        ∀ place < 6, Timestamp.field? digits place = some (Timestamp.pair digits.toList place) := by
  refine ⟨read_eq_ok_none.trans voidText?_eq_some_iff, fun value => ?_, fun why => ?_,
    fun text herror => ?_, ?_⟩
  · rw [read_eq_ok_some, Rule.parse?_eq_some_iff]
    exact and_iff_right_of_imp voidText?_ne_of_spells
  · have hnone : label.rule.parse? s = none ↔ ∀ value, ¬ label.rule.Spells s value := by
      simp only [← Rule.parse?_eq_some_iff, Option.eq_none_iff_forall_ne_some, ne_eq]
    rw [read_eq_error, hnone, ne_eq, voidText?_eq_some_iff, and_assoc]
  · rcases read_eq_error.1 herror with ⟨-, -, hwhy⟩
    exact refusal_ne_unknownLabel label s text hwhy.symm
  · intro digits hlength hdigits place hplace
    exact Timestamp.field?_eq hlength hdigits hplace

/-- The last second of a leap day, with the letter of the season before it. -/
theorem read_by_rule_leap_day :
    ∃ h : Timestamp.Denotes "240229235959".toList,
      Label.date.read "E240229235959" = .ok (some (.date h.timestamp)) ∧
        Timestamp.field? "240229235959" 2 = some (Timestamp.pair "240229235959".toList 2) ∧
        Timestamp.pair "240229235959".toList 2 = 29 := by
  have hlength : "240229235959".toList.length = 12 := by decide
  have hdigits : ∀ c ∈ "240229235959".toList, c.isDigit := List.all_eq_true.1 (by decide)
  have h : Timestamp.Denotes "240229235959".toList :=
    ⟨hlength, hdigits, by decide, by decide, by decide⟩
  rcases read_by_rule .date "E240229235959" with ⟨-, hread, -, -, hfield⟩
  have hspells : Label.date.rule.Spells "E240229235959" (.date h.timestamp) :=
    @Rule.Spells.date _ ['E'] _ (by decide) (.inr ⟨'E', by decide, rfl⟩) h
  exact ⟨h, (hread _).2 hspells, hfield "240229235959" hlength hdigits 2 (by decide), by decide⟩

end Label
end TicMeter
