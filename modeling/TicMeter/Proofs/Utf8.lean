import Mathlib.Tactic.SplitIfs
import TicMeter.Text.Bytes

/-!
# Utf8 — every text comes back from its bytes

A character is written as one byte, or as a lead byte with the bounds that the next byte must keep,
followed by up to three bytes of six bits each.

* `Text.leadByte_ofNat`: what the numbers of lead bytes announce.
* `Text.lossyChars_continue`: a byte that is announced adds its six bits.
* `Text.lossyChars_utf8EncodeChar`: the bytes of a character are read as that character, whatever
  follows them.
* `Text.ofBytes?_bytes`: so a text is read from its bytes.
-/

namespace TicMeter
namespace Text

theorem toNat_ofNat {n : Nat} (h : n < 256) : (UInt8.ofNat n).toNat = n := by
  simpa using Nat.mod_eq_of_lt h

theorem ofNat_eq_iff {n : Nat} (h : n < 256) (b : UInt8) : UInt8.ofNat n = b ↔ n = b.toNat := by
  rw [← UInt8.toNat_inj, toNat_ofNat h]

theorem leadByte_ofNat {n : Nat} (h : n < 256) :
    leadByte (.ofNat n) =
      if n < 128 then .whole (Char.ofNat n)
      else if n < 194 then .illFormed
      else if n < 224 then .opens ⟨1, 0x80, 0xBF, n - 192⟩
      else if n < 240 then
        .opens ⟨2, if n = 224 then 0xA0 else 0x80, if n = 237 then 0x9F else 0xBF, n - 224⟩
      else if n < 245 then
        .opens ⟨3, if n = 240 then 0x90 else 0x80, if n = 244 then 0x8F else 0xBF, n - 240⟩
      else .illFormed := by
  simp [leadByte, UInt8.lt_iff_toNat_lt, toNat_ofNat h, ofNat_eq_iff h]

section Continuation

variable {missing bits n : Nat} {low high : UInt8} (h : n < 64) (hlow : low.toNat ≤ n + 128)
  (hhigh : n + 128 ≤ high.toNat) (rest : List UInt8)

include h hlow hhigh

/-- A byte within the bounds of the character that has been begun adds its six bits. -/
theorem lossyChars_continue :
    lossyChars (some ⟨missing, low, high, bits⟩) (.ofNat (n + 128) :: rest) =
      if missing ≤ 1 then Char.ofNat (bits * 64 + n) :: lossyChars none rest
      else lossyChars (some ⟨missing - 1, 0x80, 0xBF, bits * 64 + n⟩) rest := by
  have hbyte : (UInt8.ofNat (n + 128)).toNat = n + 128 := toNat_ofNat (by omega)
  have hbounds : (low ≤ .ofNat (n + 128) && .ofNat (n + 128) ≤ high) = true := by
    simp only [UInt8.le_iff_toNat_le, hbyte, Bool.and_eq_true, decide_eq_true_eq]
    exact ⟨hlow, hhigh⟩
  have hbits : (UInt8.ofNat (n + 128)).toNat - 128 = n := by omega
  rw [lossyChars, if_pos hbounds]
  simp only [hbits]

theorem lossyChars_more :
    lossyChars (some ⟨missing + 2, low, high, bits⟩) (.ofNat (n + 128) :: rest) =
      lossyChars (some ⟨missing + 1, 0x80, 0xBF, bits * 64 + n⟩) rest := by
  rw [lossyChars_continue h hlow hhigh, if_neg (by omega)]
  rfl

theorem lossyChars_last :
    lossyChars (some ⟨1, low, high, bits⟩) (.ofNat (n + 128) :: rest) =
      Char.ofNat (bits * 64 + n) :: lossyChars none rest := by
  rw [lossyChars_continue h hlow hhigh, if_pos (Nat.le_refl 1)]

end Continuation

theorem lossyChars_lead {n : Nat} {p : PartialChar} (h : leadByte (.ofNat n) = .opens p)
    (rest : List UInt8) : lossyChars none (.ofNat n :: rest) = lossyChars (some p) rest := by
  rw [lossyChars, h]

/-- The bytes of a character are read as that character. -/
theorem lossyChars_utf8EncodeChar (c : Char) (rest : List UInt8) :
    lossyChars none (String.utf8EncodeChar c ++ rest) = c :: lossyChars none rest := by
  have hvalid : c.toNat < 0xD800 ∨ 0xDFFF < c.toNat ∧ c.toNat < 0x110000 := c.valid
  have hback : Char.ofNat c.toNat = c := Char.ofNat_toNat c
  have hvalue : c.val.toNat = c.toNat := rfl
  have hfirst : (0x80 : UInt8).toNat = 128 := rfl
  have hlast : (0xBF : UInt8).toNat = 191 := rfl
  simp only [String.utf8EncodeChar, hvalue]
  -- by the number of bytes
  split_ifs with hone htwo hthree
  · rw [List.singleton_append, lossyChars, leadByte_ofNat (by omega), if_pos (by omega)]
    simp [hback]
  · have hlead := leadByte_ofNat (n := c.toNat / 64 % 32 + 192) (by omega)
    rw [if_neg (by omega), if_neg (by omega), if_pos (by omega)] at hlead
    have hbits : (c.toNat / 64 % 32 + 192 - 192) * 64 + c.toNat % 64 = c.toNat := by omega
    rw [List.cons_append, List.singleton_append, lossyChars_lead hlead,
      lossyChars_last (by omega) (by omega) (by omega), hbits, hback]
  · have hlead := leadByte_ofNat (n := c.toNat / 4096 % 16 + 224) (by omega)
    rw [if_neg (by omega), if_neg (by omega), if_neg (by omega), if_pos (by omega)] at hlead
    -- overlong forms and surrogates are kept out
    have hlow : (if c.toNat / 4096 % 16 + 224 = 224 then (0xA0 : UInt8) else 0x80).toNat ≤
        c.toNat / 64 % 64 + 128 := by
      have hbound : (0xA0 : UInt8).toNat = 160 := rfl
      split_ifs
      · omega
      · omega
    have hhigh : c.toNat / 64 % 64 + 128 ≤
        (if c.toNat / 4096 % 16 + 224 = 237 then (0x9F : UInt8) else 0xBF).toNat := by
      have hbound : (0x9F : UInt8).toNat = 159 := rfl
      split_ifs
      · omega
      · omega
    have hbits : ((c.toNat / 4096 % 16 + 224 - 224) * 64 + c.toNat / 64 % 64) * 64 +
        c.toNat % 64 = c.toNat := by omega
    rw [List.cons_append, List.cons_append, List.singleton_append, lossyChars_lead hlead,
      lossyChars_more (by omega) hlow hhigh, lossyChars_last (by omega) (by omega) (by omega),
      hbits, hback]
  · have hlead := leadByte_ofNat (n := c.toNat / 262144 % 8 + 240) (by omega)
    rw [if_neg (by omega), if_neg (by omega), if_neg (by omega), if_neg (by omega),
      if_pos (by omega)] at hlead
    -- overlong forms and numbers past the last character are kept out
    have hlow : (if c.toNat / 262144 % 8 + 240 = 240 then (0x90 : UInt8) else 0x80).toNat ≤
        c.toNat / 4096 % 64 + 128 := by
      have hbound : (0x90 : UInt8).toNat = 144 := rfl
      split_ifs
      · omega
      · omega
    have hhigh : c.toNat / 4096 % 64 + 128 ≤
        (if c.toNat / 262144 % 8 + 240 = 244 then (0x8F : UInt8) else 0xBF).toNat := by
      have hbound : (0x8F : UInt8).toNat = 143 := rfl
      split_ifs
      · omega
      · omega
    have hbits : (((c.toNat / 262144 % 8 + 240 - 240) * 64 + c.toNat / 4096 % 64) * 64 +
        c.toNat / 64 % 64) * 64 + c.toNat % 64 = c.toNat := by omega
    rw [List.cons_append, List.cons_append, List.cons_append, List.singleton_append,
      lossyChars_lead hlead, lossyChars_more (by omega) hlow hhigh,
      lossyChars_more (by omega) (by omega) (by omega),
      lossyChars_last (by omega) (by omega) (by omega), hbits, hback]

theorem ofBytesLossy_bytes (s : String) : ofBytesLossy (bytes s) = s := by
  have hchars (cs : List Char) : lossyChars none (cs.flatMap String.utf8EncodeChar) = cs := by
    induction cs with
    | nil => rfl
    | cons c cs ih => rw [List.flatMap_cons, lossyChars_utf8EncodeChar, ih]
  rw [ofBytesLossy, bytes, hchars, String.ofList_toList]

/-- The bytes of a text are well-formed, and spell the text. -/
theorem ofBytes?_bytes (s : String) : ofBytes? (bytes s) = some s := by
  simp [ofBytes?, ofBytesLossy_bytes]

end Text
end TicMeter
