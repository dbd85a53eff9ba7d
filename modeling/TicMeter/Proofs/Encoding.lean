import TicMeter.Proofs.Grammar
import TicMeter.Proofs.Line
import TicMeter.Proofs.Sum
import TicMeter.Proofs.Writing

/-!
# Encoding — encoded lines are taken apart again

`GroupLine.content` is an encoded line without its delimiters.

* `GroupLine.parse_content`: taking it apart gives the label, the value and the checksum back.
* `GroupLine.parse_encode_iff`: exactly which labels and values come back from their line.
* `GroupLine.lines_interior`: encoded lines, one after the other, split into what they were.
* `LineReading.ofBytes_content`: the line that is written for a value gives this value.
-/

namespace TicMeter

/-- The checksum is a printable character or a space. -/
theorem Checksum.compute_bounds (label value : String) :
    0x20 ≤ (compute label value).toNat ∧ (compute label value).toNat < 0x60 := by
  rw [compute, toNat_ofSum]
  omega

/-- The checksum of a line is right, whatever is repaired. -/
theorem Checksum.verify_compute (label value : String) (repair : AdpsRepair) :
    verify label value (compute label value) repair = .valid := by
  simp [verify, compute]

/-- All control bytes stand below the space. -/
theorem Wire.plain_of_le {b : UInt8} (hb : 0x20 ≤ b.toNat) :
    isDelimiter b = false ∧ isBoundary b = false := by
  have hne (control : UInt8) (hcontrol : control.toNat < 0x20) : (b == control) = false := by
    rw [beq_eq_false_iff_ne]
    rintro rfl
    omega
  simp [isDelimiter, isBoundary, hne lf (by decide), hne cr (by decide), hne stx (by decide),
    hne etx (by decide), hne eot (by decide)]

namespace GroupLine

/-- The bytes of a line that its checksum sums up. -/
def text (label value : String) : List UInt8 :=
  Text.bytes label ++ Wire.sp :: Text.bytes value

/-- The bytes of a line between its delimiters. -/
def content (label value : String) : List UInt8 :=
  Text.bytes label ++ Wire.sp :: Text.bytes value ++ [Wire.sp, Checksum.compute label value]

theorem encode_eq (label value : String) :
    encode label value = Wire.lf :: (content label value ++ [Wire.cr]) := by
  simp [encode, content]

/-- The separator before the checksum ends what follows the label. -/
theorem content_eq (label value : String) :
    content label value = Text.bytes label ++ Wire.sp :: (Text.bytes value ++ [Wire.sp]) ++
      [Checksum.compute label value] := by
  simp [content]

/-! ## One line -/

section Parse

variable {label value : String} (hlabel : Text.IsAscii label) (hvalue : Text.IsAscii value)

include hlabel hvalue

theorem length_content : (content label value).length = label.length + value.length + 3 := by
  have hlabelLength : (Text.bytes label).length = label.length := hlabel.byteLength_eq
  have hvalueLength : (Text.bytes value).length = value.length := hvalue.byteLength_eq
  simp [content, hlabelLength, hvalueLength]
  omega

theorem isAsciiByte_of_mem_content : ∀ b ∈ content label value, Text.isAsciiByte b := by
  have hchecksum : Text.isAsciiByte (Checksum.compute label value) := by
    have hbound := (Checksum.compute_bounds label value).2
    simp [Text.isAsciiByte, UInt8.lt_iff_toNat_lt]
    omega
  intro b hb
  simp only [content, List.mem_append, List.mem_cons, List.not_mem_nil, or_false] at hb
  rcases hb with (hb | rfl | hb) | rfl | rfl
  · exact hlabel.isAsciiByte_of_mem b hb
  · decide
  · exact hvalue.isAsciiByte_of_mem b hb
  · decide
  · exact hchecksum

/-- An encoded line is taken apart into what it was made of. -/
theorem parse_content (hne : label ≠ "") (hsp : ' ' ∉ label.toList)
    (hlength : label.length + value.length + 3 ≤ Wire.maxLineLength) :
    parse (content label value) = .ok ⟨label, value, Checksum.compute label value⟩ := by
  have hlegible : Legible (content label value) :=
    ⟨by rwa [length_content hlabel hvalue], isAsciiByte_of_mem_content hlabel hvalue⟩
  have hlabelBytes : Text.bytes label ≠ [] := by
    intro hnil
    have hlabelLength : (Text.bytes label).length = label.length := hlabel.byteLength_eq
    rw [hnil] at hlabelLength
    exact hne (String.length_eq_zero_iff.1 hlabelLength.symm)
  have hplain : Wire.sp ∉ Text.bytes label := fun hmem =>
    hsp ((hlabel.toUInt8_mem_bytes (by decide)).1 hmem)
  rw [content_eq] at hlegible ⊢
  rw [(Parses.parts hlegible hlabelBytes hplain).parse_eq, trimmed_concat_sp, hlabel.ofAscii_bytes,
    hvalue.ofAscii_bytes]

end Parse

/-- Encoded lines come back if and only if their parts are ASCII, the label can be told from the
value, and the line keeps the limit; the checksum is right with and without repair. -/
theorem parse_encode_iff (label value : String) :
    (parse (encode label value).tail.dropLast =
        .ok ⟨label, value, Checksum.compute label value⟩ ↔
      (label ≠ "" ∧ Text.IsAscii label ∧ ' ' ∉ label.toList) ∧ Text.IsAscii value ∧
        Text.byteLength label + Text.byteLength value + 3 ≤ 64) ∧
      ∀ repair, Checksum.verify label value (Checksum.compute label value) repair = .valid := by
  have hstrip : (encode label value).tail.dropLast = content label value := by
    rw [encode_eq, List.tail_cons, List.dropLast_concat]
  rw [hstrip]
  refine ⟨⟨fun hparse => ?_, ?_⟩, Checksum.verify_compute label value⟩
  · have hparses := parses_iff.2 hparse
    rcases hparses.isAscii with ⟨hlabel, hvalue⟩
    rcases hparses.spells with ⟨-, -, hne, hsp, -⟩
    have hshort := hparses.legible.short
    rw [length_content hlabel hvalue, ← hlabel.byteLength_eq, ← hvalue.byteLength_eq] at hshort
    exact ⟨⟨hne, hlabel, fun hmem => hsp ((hlabel.toUInt8_mem_bytes (by decide)).2 hmem)⟩, hvalue,
      hshort⟩
  · rintro ⟨⟨hne, hlabel, hsp⟩, hvalue, hshort⟩
    rw [hlabel.byteLength_eq, hvalue.byteLength_eq] at hshort
    exact parse_content hlabel hvalue hne hsp hshort

/-- Label and value have no control bytes. -/
def IsPlain (line : String × String) : Prop :=
  ∀ b ∈ text line.1 line.2, Wire.isDelimiter b = false ∧ Wire.isBoundary b = false

theorem IsPlain.plain_content {label value : String} (h : IsPlain (label, value)) :
    ∀ b ∈ content label value, Wire.isDelimiter b = false ∧ Wire.isBoundary b = false := by
  intro b hb
  have hcontent : content label value = text label value ++
      [Wire.sp, Checksum.compute label value] := rfl
  rw [hcontent, List.mem_append] at hb
  rcases hb with hb | hb
  · exact h b hb
  · simp only [List.mem_cons, List.not_mem_nil, or_false] at hb
    rcases hb with rfl | rfl
    · decide
    · exact Wire.plain_of_le (Checksum.compute_bounds label value).1

/-- Control bytes are not printable. -/
theorem isPlain_of_all_isGraphic {label value : String} (hlabel : label.toList.all Text.isGraphic)
    (hvalue : value.toList.all Text.isGraphic) : IsPlain (label, value) := by
  have graphic (b : UInt8) (hb : Text.isGraphicByte b) : 0x20 ≤ b.toNat := by
    simp only [Text.isGraphicByte, Bool.and_eq_true, decide_eq_true_eq, UInt8.le_iff_toNat_le] at hb
    exact Nat.le_trans (by decide) hb.1
  intro b hb
  simp only [text, List.mem_append, List.mem_cons] at hb
  rcases hb with hb | rfl | hb
  · exact Wire.plain_of_le (graphic b (Text.isGraphicByte_of_mem_bytes hlabel b hb))
  · decide
  · exact Wire.plain_of_le (graphic b (Text.isGraphicByte_of_mem_bytes hvalue b hb))

end GroupLine

/-! ## Many lines -/

namespace GroupLine

def interior (texts : List (String × String)) : List UInt8 :=
  texts.flatMap fun (label, value) => encode label value

theorem encodeFrame_eq (texts : List (String × String)) :
    encodeFrame texts = Wire.stx :: interior texts ++ [Wire.etx] := rfl

theorem interior_eq_delimited (texts : List (String × String)) :
    interior texts = Wire.delimited (texts.map fun text => content text.1 text.2) := by
  simp [interior, Wire.delimited, encode_eq, List.flatMap_map]

section Interior

variable {texts : List (String × String)}
  (h : ∀ text ∈ texts, ∀ b ∈ content text.1 text.2,
    Wire.isDelimiter b = false ∧ Wire.isBoundary b = false)

include h

theorem isPlain_of_mem_contents :
    ∀ line ∈ texts.map fun text => content text.1 text.2, Wire.IsPlain line := by
  intro line hline
  rcases List.mem_map.1 hline with ⟨text, htext, rfl⟩
  exact h text htext

/-- Encoded lines split into what they were before they were delimited. -/
theorem lines_interior :
    Wire.lines (interior texts) = texts.map fun text => content text.1 text.2 := by
  rw [interior_eq_delimited, Wire.lines_delimited (isPlain_of_mem_contents h),
    List.filter_eq_self]
  intro line hline
  rcases List.mem_map.1 hline with ⟨text, -, rfl⟩
  simp [content]

theorem isBoundary_of_mem_interior : ∀ b ∈ interior texts, Wire.isBoundary b = false := by
  rw [interior_eq_delimited]
  exact Wire.isBoundary_of_mem_delimited (isPlain_of_mem_contents h)

end Interior

end GroupLine

/-! ## Lines that give values -/

namespace Label

theorem ofText?_text (label : Label) : ofText? label.text = some label := by
  cases label <;> decide

theorem text_spec (label : Label) :
    label.text.toList.all Text.isGraphic ∧ label.text ≠ "" ∧ label.text.length ≤ 8 := by
  cases label <;> decide

end Label

namespace LineReading

/-- The line that is written for a value gives this value. -/
theorem ofBytes_content {label : Label} {value : Value} {s : String}
    (hfits : label.rule.Fits value) (hwrite : label.write value = some s) (repair : AdpsRepair) :
    ofBytes repair (GroupLine.content label.text s) = ⟨.field label value, false⟩ := by
  rcases label.text_spec with ⟨hlabel, hne, hlabelLength⟩
  rcases Label.isGraphic_of_write hfits hwrite with ⟨hvalue, hvalueLength⟩
  have hread : label.read s = .ok (some value) := by
    rcases Label.read_write hfits with ⟨s', hwrite', hread⟩
    rwa [Option.some.inj (hwrite.symm.trans hwrite')]
  have hlength : label.text.length + s.length + 3 ≤ Wire.maxLineLength := by
    simp only [Wire.maxLineLength]
    omega
  have hparse := GroupLine.parse_content (Text.isAscii_of_all_isGraphic hlabel)
    (Text.isAscii_of_all_isGraphic hvalue) hne (Text.space_not_mem_of_all_isGraphic hlabel) hlength
  have hverify := Checksum.verify_compute label.text s repair
  simp [ofBytes, hparse, hverify, ofContent, Label.ofText?_text, hread]

end LineReading
end TicMeter
