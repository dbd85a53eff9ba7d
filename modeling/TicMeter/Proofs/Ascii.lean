import Mathlib.Data.List.Basic
import TicMeter.Text.Bytes

/-!
# Ascii — texts whose characters are single bytes

* `Text.bytes_eq_map` and `Text.ofAscii_bytes`: a text of ASCII characters has one byte for each of
  them, and comes back from its bytes.
* `Text.ofBytes?_of_ascii`: ASCII bytes always are a text.
* `Text.slice?` cuts a part out of bytes by its offsets, or has no answer.
* `Text.all_isGraphicByte`, `Text.all_isAsciiByte`: a text whose bytes are printable, or ASCII, is
  one whose characters are.
-/

namespace TicMeter
namespace Text

def isGraphic (c : Char) : Bool :=
  33 ≤ c.toNat && c.toNat ≤ 126

theorem toNat_toUInt8 {c : Char} (h : c.toNat < 128) : c.toUInt8.toNat = c.toNat :=
  Nat.mod_eq_of_lt (Nat.lt_trans h (by decide))

/-! ## Texts of ASCII characters -/

def IsAscii (s : String) : Prop :=
  ∀ c ∈ s.toList, c.toNat < 128

namespace IsAscii

variable {s : String}

theorem bytes_eq_map (h : IsAscii s) : bytes s = s.toList.map Char.toUInt8 := by
  have hbytes : ∀ c ∈ s.toList, String.utf8EncodeChar c = [c.toUInt8] := by
    intro c hc
    have hsize : c.utf8Size = 1 :=
      Char.utf8Size_eq_one_iff.2 (UInt32.le_iff_toNat_le.2 (Nat.le_of_lt_succ (h c hc)))
    exact String.utf8EncodeChar_eq_singleton hsize
  rw [bytes, List.flatMap_congr hbytes, List.map_eq_flatMap]

theorem isAsciiByte_of_mem (h : IsAscii s) : ∀ b ∈ bytes s, isAsciiByte b := by
  intro b hb
  rw [h.bytes_eq_map] at hb
  rcases List.mem_map.1 hb with ⟨c, hc, rfl⟩
  have hlt : c.toUInt8.toNat < 128 := by
    rw [toNat_toUInt8 (h c hc)]
    exact h c hc
  simpa [isAsciiByte, UInt8.lt_iff_toNat_lt] using hlt

/-- An ASCII character is found in a text by its byte. -/
theorem toUInt8_mem_bytes (h : IsAscii s) {c : Char} (hc : c.toNat < 128) :
    c.toUInt8 ∈ bytes s ↔ c ∈ s.toList := by
  rw [h.bytes_eq_map]
  constructor
  · intro hmem
    rcases List.mem_map.1 hmem with ⟨d, hd, hsame⟩
    have hnat : d.toNat = c.toNat := by
      rw [← toNat_toUInt8 (h d hd), ← toNat_toUInt8 hc, hsame]
    rwa [← Char.toNat_inj.1 hnat]
  · intro hmem
    exact List.mem_map_of_mem hmem

theorem byteLength_eq (h : IsAscii s) : byteLength s = s.length := by
  rw [byteLength, h.bytes_eq_map, List.length_map, String.length_toList]

theorem ofAscii_bytes (h : IsAscii s) : ofAscii (bytes s) = s := by
  have hback : ∀ c ∈ s.toList, ((fun b : UInt8 => Char.ofNat b.toNat) ∘ Char.toUInt8) c = c := by
    intro c hc
    simp [toNat_toUInt8 (h c hc)]
  rw [h.bytes_eq_map, ofAscii, List.map_map, List.map_congr_left hback]
  simp

end IsAscii

section Bytes

variable {bs : List UInt8} (h : ∀ b ∈ bs, isAsciiByte b)

include h

theorem toNat_of_mem_ascii : ∀ b ∈ bs, (Char.ofNat b.toNat).toNat = b.toNat ∧ b.toNat < 128 := by
  intro b hb
  have hlt : b.toNat < 128 := by
    simpa [isAsciiByte, UInt8.lt_iff_toNat_lt] using h b hb
  have hvalid : b.toNat.isValidChar := .inl (Nat.lt_trans hlt (by decide))
  refine ⟨?_, hlt⟩
  rw [Char.ofNat, dif_pos hvalid]
  rfl

theorem isAscii_ofAscii : IsAscii (ofAscii bs) := by
  intro c hc
  rcases List.mem_map.1 (by simpa [ofAscii] using hc) with ⟨b, hb, rfl⟩
  rcases toNat_of_mem_ascii h b hb with ⟨hsame, hlt⟩
  rwa [hsame]

/-- ASCII bytes come back from their text. -/
theorem bytes_ofAscii : bytes (ofAscii bs) = bs := by
  have hback : ∀ b ∈ bs, (Char.toUInt8 ∘ fun b : UInt8 => Char.ofNat b.toNat) b = b := by
    intro b hb
    rcases toNat_of_mem_ascii h b hb with ⟨hsame, hlt⟩
    refine UInt8.toNat_inj.1 ?_
    rw [Function.comp_apply, toNat_toUInt8 (by rwa [hsame]), hsame]
  rw [(isAscii_ofAscii h).bytes_eq_map, ofAscii, String.toList_ofList, List.map_map,
    List.map_congr_left hback, List.map_id']

theorem lossyChars_of_ascii : lossyChars none bs = bs.map fun b => Char.ofNat b.toNat := by
  induction bs with
  | nil => rfl
  | cons b rest ih =>
    have hlead : leadByte b = .whole (Char.ofNat b.toNat) := by
      have hb : b < 0x80 := by simpa [isAsciiByte] using h b (by simp)
      simp [leadByte, hb]
    rw [lossyChars, hlead, List.map_cons, ← ih fun c hc => h c (by simp [hc])]

/-- ASCII bytes are well-formed throughout. -/
theorem ofBytes?_of_ascii : ofBytes? bs = some (ofAscii bs) := by
  have hlossy : ofBytesLossy bs = ofAscii bs := by
    rw [ofBytesLossy, lossyChars_of_ascii h]
    rfl
  simp [ofBytes?, hlossy, bytes_ofAscii h]

end Bytes

theorem IsAscii.ofBytes?_bytes {s : String} (h : IsAscii s) : ofBytes? (bytes s) = some s := by
  rw [ofBytes?_of_ascii h.isAsciiByte_of_mem, h.ofAscii_bytes]

/-! ## Parts of bytes -/

/-- The bytes from the offset `start` up to `stop`, if there are that many. -/
def slice? (bs : List UInt8) (start stop : Nat) : Option (List UInt8) :=
  if start ≤ stop ∧ stop ≤ bs.length then some ((bs.take stop).drop start) else none

theorem slice?_append (front part back : List UInt8) :
    slice? (front ++ part ++ back) front.length (front ++ part).length = some part := by
  have hbounds : front.length ≤ (front ++ part).length ∧
      (front ++ part).length ≤ (front ++ part ++ back).length := by
    simp
  rw [slice?, if_pos hbounds, List.take_left, List.drop_left]

/-- A part of an ASCII text is cut by counting characters. -/
theorem IsAscii.slice?_bytes {s : String} (h : IsAscii s) {start stop : Nat}
    (hbounds : start ≤ stop ∧ stop ≤ s.length) :
    slice? (bytes s) start stop =
      some (bytes (String.ofList ((s.toList.drop start).take (stop - start)))) := by
  have hpart : IsAscii (String.ofList ((s.toList.drop start).take (stop - start))) := by
    intro c hc
    rw [String.toList_ofList] at hc
    exact h c (List.mem_of_mem_drop (List.mem_of_mem_take hc))
  rw [slice?, if_pos (by rwa [← h.byteLength_eq] at hbounds), hpart.bytes_eq_map, h.bytes_eq_map,
    String.toList_ofList, List.map_take, List.map_drop, List.drop_take]

/-! ## Texts of printable characters -/

/-- Longer characters begin with a byte that is far from ASCII. -/
theorem all_utf8EncodeChar {p : UInt8 → Bool} (hp : ∀ b : UInt8, 192 ≤ b.toNat → p b = false)
    (c : Char) : (String.utf8EncodeChar c).all p = (decide (c.toNat < 128) && p c.toUInt8) := by
  have head (n : Nat) (hlow : 192 ≤ n) (hhigh : n < 256) : p (UInt8.ofNat n) = false := by
    apply hp
    rwa [UInt8.toNat_ofNat', Nat.mod_eq_of_lt hhigh]
  have longer (h : ¬ c.toNat ≤ 127) : decide (c.toNat < 128) = false := by
    simp
    omega
  fun_cases String.utf8EncodeChar c with
  | case1 v h =>
    have hshort : c.toNat < 128 := Nat.lt_succ_of_le h
    have hbyte : UInt8.ofNat v = c.toUInt8 := rfl
    simp [hshort, hbyte]
  | case2 v h _ =>
    rw [longer h, List.all_cons, head _ (by omega) (by omega), Bool.false_and, Bool.false_and]
  | case3 v h _ =>
    rw [longer h, List.all_cons, head _ (by omega) (by omega), Bool.false_and, Bool.false_and]
  | case4 v h =>
    have hlong : ¬ c.toNat ≤ 127 := fun hc => h (Nat.le_trans hc (by decide))
    rw [longer hlong, List.all_cons, head _ (by omega) (by omega), Bool.false_and, Bool.false_and]

theorem all_isGraphicByte (s : String) :
    (bytes s).all isGraphicByte = s.toList.all isGraphic := by
  have hchar (c : Char) : (String.utf8EncodeChar c).all isGraphicByte = isGraphic c := by
    rw [all_utf8EncodeChar]
    · by_cases hc : c.toNat < 128
      · simp [isGraphicByte, isGraphic, UInt8.le_iff_toNat_le, toNat_toUInt8 hc, hc]
      · simp [isGraphic, hc]
        omega
    · intro b hb
      simp [isGraphicByte, UInt8.le_iff_toNat_le]
      omega
  simp [bytes, List.all_flatMap, hchar]

theorem all_isAsciiByte {s : String} : (bytes s).all isAsciiByte ↔ IsAscii s := by
  have hchar (c : Char) : (String.utf8EncodeChar c).all isAsciiByte = decide (c.toNat < 128) := by
    rw [all_utf8EncodeChar]
    · by_cases hc : c.toNat < 128
      · simp [isAsciiByte, UInt8.lt_iff_toNat_lt, toNat_toUInt8 hc, hc]
      · simp [hc]
    · intro b hb
      simp [isAsciiByte, UInt8.lt_iff_toNat_lt]
      omega
  simp [bytes, List.all_flatMap, hchar, IsAscii]

theorem bytes_append (s t : String) : bytes (s ++ t) = bytes s ++ bytes t := by
  simp [bytes]

section Graphic

variable {s : String} (h : s.toList.all isGraphic)

include h

theorem isAscii_of_all_isGraphic : IsAscii s := by
  intro c hc
  have hgraphic := List.all_eq_true.1 h c hc
  simp only [isGraphic, Bool.and_eq_true, decide_eq_true_eq] at hgraphic
  omega

theorem space_not_mem_of_all_isGraphic : ' ' ∉ s.toList := by
  intro hspace
  have hgraphic := List.all_eq_true.1 h ' ' hspace
  revert hgraphic
  decide

theorem isGraphicByte_of_mem_bytes : ∀ b ∈ bytes s, isGraphicByte b := by
  rw [← all_isGraphicByte] at h
  exact List.all_eq_true.1 h

end Graphic

end Text
end TicMeter
