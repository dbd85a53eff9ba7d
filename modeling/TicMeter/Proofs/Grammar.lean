import TicMeter.GroupLine
import TicMeter.Proofs.Ascii

/-!
# Grammar — which lines can be taken apart

`GroupLine.Parses` relates a line to what becomes of it, with one case for every fault that a line
can have and one for lines without a fault. `GroupLine.parse` computes this relation
(`GroupLine.parses_iff`), and the rest is read off its cases.

* `GroupLine.Grammatical` and `GroupLine.Spells`: which lines can be taken apart, and into what.
* `GroupLine.faults`: all that is wrong with a line; the first fault is reported.
* `GroupLine.byOffsets?` cuts label and value out of a line by the offsets of its separators.
* `GroupLine.parse_grammar`: lines are taken apart by the grammar, and no cut misses the line.
-/

namespace TicMeter
namespace GroupLine

/-- What follows the first separator, without the separator that may stand before the checksum. -/
def trimmed (rest : List UInt8) : List UInt8 :=
  if rest.getLast? = some Wire.sp then rest.dropLast else rest

theorem trimmed_concat_sp (rest : List UInt8) : trimmed (rest ++ [Wire.sp]) = rest := by
  simp [trimmed]

theorem trimmed_of_ne {rest : List UInt8} (h : rest.getLast? ≠ some Wire.sp) :
    trimmed rest = rest :=
  if_neg h

theorem trimmed_subset (rest : List UInt8) : trimmed rest ⊆ rest := by
  unfold trimmed
  split
  · exact rest.dropLast_subset
  · exact List.Subset.refl rest

/-- Behind the label only the bytes after the separator are trimmed, unless there are none. -/
theorem trimmed_append (label rest : List UInt8) :
    trimmed (label ++ Wire.sp :: rest) =
      if rest = [] then label else label ++ Wire.sp :: trimmed rest := by
  split
  · next hrest =>
    subst hrest
    exact trimmed_concat_sp label
  · next hrest =>
    have hlast : (label ++ Wire.sp :: rest).getLast? = rest.getLast? := by
      simp [List.getLast?_append, List.getLast?_cons, List.getLast?_eq_some_getLast hrest]
    unfold trimmed
    rw [hlast]
    split
    · rw [List.dropLast_append_of_ne_nil (by simp), List.dropLast_cons_of_ne_nil hrest]
    · rfl

/-! ## The grammar -/

/-- Nothing in the single bytes of a line speaks against it. -/
structure Legible (line : List UInt8) : Prop where
  short : line.length ≤ 64
  ascii : ∀ b ∈ line, Text.isAsciiByte b

namespace Legible

variable {line : List UInt8}

theorem find?_eq_none (h : Legible line) : line.find? (fun b => !Text.isAsciiByte b) = none :=
  List.find?_eq_none.2 fun b hb => by simp [h.ascii b hb]

theorem of_find? (hshort : line.length ≤ 64)
    (hfind : line.find? (fun b => !Text.isAsciiByte b) = none) : Legible line :=
  ⟨hshort, fun b hb => by simpa using List.find?_eq_none.1 hfind b hb⟩

end Legible

/-- The first byte that is not ASCII is the one that is found. -/
theorem find?_nonAscii {front back : List UInt8} {byte : UInt8}
    (hfront : ∀ b ∈ front, Text.isAsciiByte b) (hbyte : ¬ Text.isAsciiByte byte) :
    (front ++ byte :: back).find? (fun b => !Text.isAsciiByte b) = some byte := by
  refine List.find?_eq_some_iff_append.2 ⟨by simpa using hbyte, front, back, rfl, ?_⟩
  simpa using hfront

inductive Parses : List UInt8 → Except LineError GroupLine → Prop
  | empty : Parses [] (.error .empty)
  | tooLong {line : List UInt8} (hlong : 64 < line.length) :
      Parses line (.error (.tooLong line.length 64))
  | nonAscii {front back : List UInt8} {byte : UInt8}
      (hshort : (front ++ byte :: back).length ≤ 64) (hfront : ∀ b ∈ front, Text.isAsciiByte b)
      (hbyte : ¬ Text.isAsciiByte byte) : Parses (front ++ byte :: back) (.error (.nonAscii byte))
  | missingChecksum {checksum : UInt8} (h : Legible [checksum]) :
      Parses [checksum] (.error .missingChecksum)
  | missingSeparator {body : List UInt8} {checksum : UInt8} (h : Legible (body ++ [checksum]))
      (hbody : body ≠ []) (hsp : Wire.sp ∉ body) :
      Parses (body ++ [checksum]) (.error .missingSeparator)
  | emptyLabel {rest : List UInt8} {checksum : UInt8}
      (h : Legible (Wire.sp :: rest ++ [checksum])) :
      Parses (Wire.sp :: rest ++ [checksum]) (.error .emptyLabel)
  | parts {label rest : List UInt8} {checksum : UInt8}
      (h : Legible (label ++ Wire.sp :: rest ++ [checksum])) (hlabel : label ≠ [])
      (hsp : Wire.sp ∉ label) :
      Parses (label ++ Wire.sp :: rest ++ [checksum])
        (.ok ⟨Text.ofAscii label, Text.ofAscii (trimmed rest), checksum⟩)

/-- A legible line is taken apart by its separators alone. -/
theorem Legible.parse_concat {body : List UInt8} {checksum : UInt8}
    (h : Legible (body ++ [checksum])) :
    parse (body ++ [checksum]) =
      if body = [] then .error .missingChecksum
      else if Wire.sp ∉ body then .error .missingSeparator
      else if body.takeWhile (· != Wire.sp) = [] then .error .emptyLabel
      else .ok
        { label := Text.ofAscii (body.takeWhile (· != Wire.sp))
          value := Text.ofAscii
            ((trimmed body).drop ((body.takeWhile (· != Wire.sp)).length + 1))
          checksum } := by
  have hshort : ¬ Wire.maxLineLength < (body ++ [checksum]).length := Nat.not_lt.2 h.short
  unfold parse
  rw [if_neg (by simp), if_neg hshort, h.find?_eq_none]
  simp only [List.dropLast_concat, List.getLastD_concat, List.isEmpty_iff, trimmed,
    Bool.not_eq_true', List.contains_eq_mem, decide_eq_false_iff_not]

/-- The label of a line ends at its first separator. -/
theorem takeWhile_label {label : List UInt8} (hsp : Wire.sp ∉ label) (rest : List UInt8) :
    (label ++ Wire.sp :: rest).takeWhile (· != Wire.sp) = label := by
  have hplain : ∀ b ∈ label, (b != Wire.sp) = true := by
    intro b hb
    rw [bne_iff_ne]
    rintro rfl
    exact hsp hb
  simp [List.takeWhile_append_of_pos hplain]

theorem Parses.parse_eq {line : List UInt8} {result : Except LineError GroupLine}
    (h : Parses line result) : parse line = result := by
  cases h with
  | empty => rfl
  | tooLong hlong =>
    have hne : line.isEmpty = false := by
      rw [List.isEmpty_eq_false_iff, ← List.length_pos_iff]
      omega
    simp [parse, hne, Wire.maxLineLength, hlong]
  | @nonAscii front back byte hshort hfront hbyte =>
    have hlength : ¬ Wire.maxLineLength < (front ++ byte :: back).length := Nat.not_lt.2 hshort
    unfold parse
    rw [if_neg (by simp), if_neg hlength, find?_nonAscii hfront hbyte]
  | @missingChecksum checksum h => exact @Legible.parse_concat [] checksum h
  | missingSeparator h hbody hsp => rw [h.parse_concat, if_neg hbody, if_pos hsp]
  | emptyLabel h => rw [h.parse_concat, if_neg (by simp), if_neg (by simp), if_pos (by simp)]
  | @parts label rest checksum h hlabel hsp =>
    -- the label is measured before the end is trimmed, so that the drop may find nothing left
    have hdrop : (trimmed (label ++ Wire.sp :: rest)).drop (label.length + 1) = trimmed rest := by
      rw [trimmed_append]
      split
      · next hrest => simp [hrest, trimmed]
      · simp
    rw [h.parse_concat, takeWhile_label hsp, if_neg (by simp), if_neg (by simp), if_neg hlabel,
      hdrop]

/-- Every line has a case: the faults are looked for in their order. -/
theorem exists_parses (line : List UInt8) : ∃ result, Parses line result := by
  rcases Nat.lt_or_ge 64 line.length with hlong | hshort
  · exact ⟨_, .tooLong hlong⟩
  cases hfind : line.find? fun b => !Text.isAsciiByte b with
  | some byte =>
    rcases List.find?_eq_some_iff_append.1 hfind with ⟨hbyte, front, back, rfl, hfront⟩
    exact ⟨_, .nonAscii hshort (by simpa using hfront) (by simpa using hbyte)⟩
  | none =>
    have h := Legible.of_find? hshort hfind
    rcases List.eq_nil_or_concat' line with rfl | ⟨body, checksum, rfl⟩
    · exact ⟨_, .empty⟩
    -- a separator is looked for in the body alone: the checksum may be one itself
    by_cases hsp : Wire.sp ∈ body
    · rcases List.eq_append_cons_of_mem hsp with ⟨label, rest, rfl, hlabel⟩
      rcases label with _ | ⟨b, label⟩
      · exact ⟨_, .emptyLabel h⟩
      · exact ⟨_, .parts h (by simp) hlabel⟩
    · rcases body with _ | ⟨b, body⟩
      · exact ⟨_, .missingChecksum h⟩
      · exact ⟨_, .missingSeparator h (by simp) hsp⟩

theorem parses_parse (line : List UInt8) : Parses line (parse line) := by
  rcases exists_parses line with ⟨result, h⟩
  rwa [h.parse_eq]

theorem parses_iff {line : List UInt8} {result : Except LineError GroupLine} :
    Parses line result ↔ parse line = result :=
  ⟨Parses.parse_eq, fun h => h ▸ parses_parse line⟩

/-! ## Faults -/

/-- All that is wrong with a line, in the order in which faults are looked for. -/
def faults (line : List UInt8) : List LineError :=
  [if line = [] then some .empty else none,
    if 64 < line.length then some (.tooLong line.length 64) else none,
    (line.find? fun b => !Text.isAsciiByte b).map .nonAscii,
    if line.dropLast = [] then some .missingChecksum else none,
    if Wire.sp ∉ line.dropLast then some .missingSeparator else none,
    if line.dropLast.head? = some Wire.sp then some .emptyLabel else none].filterMap id

/-- A legible line has no fault but for the places of its separators. -/
theorem Legible.faults_concat {body : List UInt8} {checksum : UInt8}
    (h : Legible (body ++ [checksum])) :
    faults (body ++ [checksum]) =
      [if body = [] then some .missingChecksum else none,
        if Wire.sp ∉ body then some .missingSeparator else none,
        if body.head? = some Wire.sp then some .emptyLabel else none].filterMap id := by
  have hshort : ¬ 64 < (body ++ [checksum]).length := Nat.not_lt.2 h.short
  unfold faults
  rw [if_neg (by simp), if_neg hshort, h.find?_eq_none, List.dropLast_concat]
  rfl

/-- Of several faults the first is reported. -/
theorem Parses.head?_faults {line : List UInt8} {why : LineError}
    (h : Parses line (.error why)) : (faults line).head? = some why := by
  cases h with
  | empty => rfl
  | tooLong hlong =>
    have hne : line ≠ [] := by
      rintro rfl
      simp at hlong
    simp [faults, hne, hlong]
  | @nonAscii front back byte hshort hfront hbyte =>
    unfold faults
    rw [if_neg (by simp), if_neg (Nat.not_lt.2 hshort), find?_nonAscii hfront hbyte]
    rfl
  | @missingChecksum checksum h => exact congrArg List.head? (@Legible.faults_concat [] checksum h)
  | missingSeparator h hbody hsp =>
    rw [h.faults_concat]
    simp [hbody, hsp]
  | emptyLabel h =>
    rw [h.faults_concat]
    simp

theorem Parses.faults_eq_nil {line : List UInt8} {parts : GroupLine}
    (h : Parses line (.ok parts)) : faults line = [] := by
  cases h with
  | @parts label rest checksum h hlabel hsp =>
    have hhead : (label ++ Wire.sp :: rest).head? ≠ some Wire.sp := by
      rw [List.head?_append_of_ne_nil _ hlabel]
      exact fun hhead => hsp (List.mem_of_mem_head? hhead)
    rw [h.faults_concat, if_neg hhead]
    simp

theorem parse_eq_error_iff {line : List UInt8} {why : LineError} :
    parse line = .error why ↔ (faults line).head? = some why := by
  have hparses := parses_parse line
  cases hparse : parse line with
  | ok parts =>
    rw [hparse] at hparses
    simp [hparses.faults_eq_nil]
  | error other =>
    rw [hparse] at hparses
    simp [hparses.head?_faults]

theorem exists_parse_eq_ok_iff {line : List UInt8} :
    (∃ parts, parse line = .ok parts) ↔ faults line = [] := by
  constructor
  · rintro ⟨parts, hparse⟩
    exact (parses_iff.2 hparse).faults_eq_nil
  · intro hfaults
    cases hparse : parse line with
    | ok parts => exact ⟨parts, rfl⟩
    | error why => simp [parse_eq_error_iff, hfaults] at hparse

structure Grammatical (line : List UInt8) : Prop where
  length_bounds : 2 ≤ line.length ∧ line.length ≤ 64
  ascii : ∀ b ∈ line, b < 0x80
  separated : Wire.sp ∈ line.dropLast
  labelled : line.dropLast.head? ≠ some Wire.sp

theorem faults_eq_nil_iff {line : List UInt8} : faults line = [] ↔ Grammatical line := by
  rw [faults, List.filterMap_eq_nil_iff]
  simp only [List.forall_mem_cons, id_eq, ite_eq_right_iff, reduceCtorEq, imp_false,
    Option.map_eq_none_iff, List.not_mem_nil, false_implies, implies_true, and_true, not_not]
  constructor
  · rintro ⟨hne, hshort, hascii, hbody, hsp, hlabel⟩
    have hlength : line.dropLast.length ≠ 0 := fun hzero => hbody (List.length_eq_zero_iff.1 hzero)
    rw [List.length_dropLast] at hlength
    exact ⟨by omega, by simpa [Text.isAsciiByte] using hascii, hsp, hlabel⟩
  · rintro ⟨⟨hlow, hhigh⟩, hascii, hsp, hlabel⟩
    have hbody := List.ne_nil_of_mem hsp
    have hne : line ≠ [] := by
      rintro rfl
      simp at hlow
    exact ⟨hne, by omega, by simpa [Text.isAsciiByte] using hascii, hbody, hsp, hlabel⟩

/-! ## Parts -/

/-- What the parts of a line are: the bytes before its first separator, those behind it without a
separator at their end, and its last byte. -/
def Spells (line : List UInt8) (parts : GroupLine) : Prop :=
  ∃ rest, line = Text.bytes parts.label ++ Wire.sp :: rest ++ [parts.checksum] ∧
    parts.label ≠ "" ∧ Wire.sp ∉ Text.bytes parts.label ∧ Text.bytes parts.value = trimmed rest

/-- Label and value of a line, cut out by offsets. There is no answer when an offset lies outside of
the bytes that are cut, or when the bytes between two offsets are no text. -/
def byOffsets? (line : List UInt8) : Option (String × String) :=
  let body := line.dropLast
  let separator := body.idxOf Wire.sp
  let content := trimmed body
  -- the first separator may be the one at the end, which has been dropped already
  let value :=
    if content.length < separator + 1 then some []
    else Text.slice? content (separator + 1) content.length
  match (Text.slice? content 0 separator).bind Text.ofBytes?, value.bind Text.ofBytes? with
  | some label, some value => some (label, value)
  | _, _ => none

section Parts

variable {label rest : List UInt8} {checksum : UInt8}
  (h : Legible (label ++ Wire.sp :: rest ++ [checksum]))

include h

theorem Legible.ascii_label : ∀ b ∈ label, Text.isAsciiByte b :=
  fun b hb => h.ascii b (by simp [hb])

theorem Legible.ascii_value : ∀ b ∈ trimmed rest, Text.isAsciiByte b :=
  fun b hb => h.ascii b (by simp [trimmed_subset rest hb])

end Parts

theorem Parses.spells {line : List UInt8} {parts : GroupLine} (h : Parses line (.ok parts)) :
    Spells line parts := by
  cases h with
  | @parts label rest checksum h hlabel hsp =>
    have hbytes := Text.bytes_ofAscii h.ascii_label
    refine ⟨rest, by rw [hbytes], ?_, by rwa [hbytes], Text.bytes_ofAscii h.ascii_value⟩
    intro (hempty : Text.ofAscii label = "")
    rw [hempty] at hbytes
    exact hlabel hbytes.symm

theorem Parses.legible {line : List UInt8} {parts : GroupLine} (h : Parses line (.ok parts)) :
    Legible line := by
  cases h
  assumption

theorem Parses.isAscii {line : List UInt8} {parts : GroupLine} (h : Parses line (.ok parts)) :
    Text.IsAscii parts.label ∧ Text.IsAscii parts.value := by
  cases h with
  | parts h hlabel hsp =>
    exact ⟨Text.isAscii_ofAscii h.ascii_label, Text.isAscii_ofAscii h.ascii_value⟩

/-- No offset misses the bytes, and what is cut out always is a text. -/
theorem Parses.byOffsets?_eq {line : List UInt8} {parts : GroupLine}
    (h : Parses line (.ok parts)) : byOffsets? line = some (parts.label, parts.value) := by
  cases h with
  | @parts label rest checksum h hlabel hsp =>
    -- the label has no separator in it, so the first one ends it
    have hseparator : (label ++ Wire.sp :: rest).idxOf Wire.sp = label.length := by
      rw [List.idxOf_append_of_notMem hsp, List.idxOf_cons_self, Nat.add_zero]
    have hlabelText := Text.ofBytes?_of_ascii h.ascii_label
    have hvalueText := Text.ofBytes?_of_ascii h.ascii_value
    unfold byOffsets?
    simp only [List.dropLast_concat, hseparator, trimmed_append]
    by_cases hrest : rest = []
    · -- the separator behind the label is gone, and the value would begin behind the end
      subst hrest
      have hcut : Text.slice? label 0 label.length = some label := by
        simpa using Text.slice?_append [] label []
      have hvalue : trimmed [] = [] := rfl
      rw [hvalue] at hvalueText
      simp [hcut, hlabelText, hvalueText, hvalue]
    · have hcutLabel :
          Text.slice? (label ++ Wire.sp :: trimmed rest) 0 label.length = some label := by
        simpa using Text.slice?_append [] label (Wire.sp :: trimmed rest)
      have hcutValue : Text.slice? (label ++ Wire.sp :: trimmed rest) (label.length + 1)
          (label ++ Wire.sp :: trimmed rest).length = some (trimmed rest) := by
        simpa using Text.slice?_append (label ++ [Wire.sp]) (trimmed rest) []
      have hinside : ¬ (label ++ Wire.sp :: trimmed rest).length < label.length + 1 := by
        simp
      simp only [if_neg hrest, if_neg hinside, hcutLabel, hcutValue, Option.bind_some, hlabelText,
        hvalueText]

/-! ## The separator before the checksum -/

theorem parse_of_find? {line : List UInt8} {byte : UInt8} (hshort : line.length ≤ 64)
    (hfind : line.find? (fun b => !Text.isAsciiByte b) = some byte) :
    parse line = .error (.nonAscii byte) := by
  rcases List.find?_eq_some_iff_append.1 hfind with ⟨hbyte, front, back, rfl, hfront⟩
  exact (Parses.nonAscii hshort (by simpa using hfront) (by simpa using hbyte)).parse_eq

/-- The separator before the checksum may be left out. -/
theorem parse_without_separator {label value : List UInt8} {checksum : UInt8}
    (hlabel : Wire.sp ∉ label) (hvalue : value.getLast? ≠ some Wire.sp)
    (hshort : label.length + value.length + 3 ≤ 64) :
    parse (label ++ Wire.sp :: value ++ [Wire.sp, checksum]) =
      parse (label ++ Wire.sp :: value ++ [checksum]) := by
  have hline : label ++ Wire.sp :: value ++ [Wire.sp, checksum] =
      label ++ Wire.sp :: (value ++ [Wire.sp]) ++ [checksum] := by
    simp
  have hlong : (label ++ Wire.sp :: (value ++ [Wire.sp]) ++ [checksum]).length ≤ 64 := by
    simp only [List.length_append, List.length_cons, List.length_nil]
    omega
  have hless : (label ++ Wire.sp :: value ++ [checksum]).length ≤ 64 := by
    simp only [List.length_append, List.length_cons, List.length_nil] at hlong ⊢
    omega
  -- a separator is ASCII, so that it makes no difference where a line is not
  have hsp : Text.isAsciiByte Wire.sp := by decide
  have hfind : (label ++ Wire.sp :: (value ++ [Wire.sp]) ++ [checksum]).find?
      (fun b => !Text.isAsciiByte b) =
        (label ++ Wire.sp :: value ++ [checksum]).find? (fun b => !Text.isAsciiByte b) := by
    simp [List.find?_append, List.find?_cons, hsp]
  rw [hline]
  cases hascii : (label ++ Wire.sp :: value ++ [checksum]).find? (fun b => !Text.isAsciiByte b) with
  | some byte => rw [parse_of_find? hlong (hfind.trans hascii), parse_of_find? hless hascii]
  | none =>
    have hwith := Legible.of_find? hlong (hfind.trans hascii)
    have hwithout := Legible.of_find? hless hascii
    rcases label with _ | ⟨b, label⟩
    · exact (Parses.emptyLabel hwith).parse_eq.trans (Parses.emptyLabel hwithout).parse_eq.symm
    · rw [(Parses.parts hwith (by simp) hlabel).parse_eq,
        (Parses.parts hwithout (by simp) hlabel).parse_eq, trimmed_concat_sp, trimmed_of_ne hvalue]

/-- Lines are taken apart by their grammar: which lines, into what, and what is reported of the
others. Every offset lies in the bytes that it cuts, every part is a text, and a value that does not
end with a separator may do without the one before the checksum. -/
theorem parse_grammar (line : List UInt8) :
    ((∃ parts, parse line = .ok parts) ↔ Grammatical line) ∧
      (∀ parts, parse line = .ok parts →
        Spells line parts ∧ byOffsets? line = some (parts.label, parts.value)) ∧
      (∀ why, parse line = .error why ↔ (faults line).head? = some why) ∧
      ∀ label value checksum, Wire.sp ∉ label → value.getLast? ≠ some Wire.sp →
        label.length + value.length + 3 ≤ 64 →
        parse (label ++ Wire.sp :: value ++ [Wire.sp, checksum]) =
          parse (label ++ Wire.sp :: value ++ [checksum]) := by
  refine ⟨?_, ?_, fun why => parse_eq_error_iff, ?_⟩
  · rw [exists_parse_eq_ok_iff, faults_eq_nil_iff]
  · intro parts hparse
    have hparses := parses_iff.2 hparse
    exact ⟨hparses.spells, hparses.byOffsets?_eq⟩
  · intro label value checksum hlabel hvalue hshort
    exact parse_without_separator hlabel hvalue hshort

/-- The only separator is dropped from the end, and the value is empty. -/
theorem parse_grammar_empty_value :
    parse (Text.bytes "A _") = .ok ⟨"A", "", 0x5F⟩ ∧
      Spells (Text.bytes "A _") ⟨"A", "", 0x5F⟩ ∧ byOffsets? (Text.bytes "A _") = some ("A", "") ∧
      parse (Text.bytes "IMAX 090 H") = parse (Text.bytes "IMAX 090H") := by
  have hparse : parse (Text.bytes "A _") = .ok ⟨"A", "", 0x5F⟩ := by decide
  rcases parse_grammar (Text.bytes "A _") with ⟨-, hparts, -, hseparator⟩
  rcases hparts _ hparse with ⟨hspells, hoffsets⟩
  exact ⟨hparse, hspells, hoffsets,
    hseparator (Text.bytes "IMAX") (Text.bytes "090") 0x48 (by decide) (by decide) (by decide)⟩

end GroupLine
end TicMeter
