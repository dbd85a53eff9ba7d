import TicMeter.Proofs.Encoding
import TicMeter.Samples

/-!
# Sensitivity — what a checksum sees, and what it forgives

A checksum tells the sum of the bytes of a line up to multiples of 64, and nothing more. The lines
that are forgiven have a sum that was counted one too high.

* `Checksum.toNat_compute`: the checksum of a line as a number.
* `Checksum.ofSum_add_one`: one more in the sum moves the character on by one place.
* `Checksum.verify_enabled`: the repair changes one verdict.
* `Checksum.verify_by_sums`: verdicts on lines and changed lines by their sums, and the checksum of
  a miscounting meter.
-/

namespace TicMeter
namespace Checksum

/-! ## Sums -/

theorem toNat_compute (label value : String) :
    (compute label value).toNat = 0x20 + total (GroupLine.text label value) % 64 :=
  toNat_ofSum_bytes (GroupLine.text label value)

theorem compute_eq_iff {label value label' value' : String} :
    compute label value = compute label' value' ↔
      total (GroupLine.text label value) % 64 = total (GroupLine.text label' value') % 64 := by
  rw [← UInt8.toNat_inj, toNat_compute, toNat_compute]
  omega

/-- The character that comes after another one; the first comes after the last. -/
def next (checksum : UInt8) : UInt8 :=
  if checksum = 0x5F then 0x20 else checksum + 1

theorem toNat_next_ofSum (sum : UInt32) :
    (next (ofSum sum)).toNat = 0x20 + (sum.toNat + 1) % 64 := by
  have hsum := toNat_ofSum sum
  unfold next
  split
  · next hlast =>
    have hnat : (ofSum sum).toNat = 0x5F := by rw [hlast]; rfl
    have hfirst : (0x20 : UInt8).toNat = 0x20 := rfl
    omega
  · next hlast =>
    have hnat : (ofSum sum).toNat ≠ 0x5F := fun heq => hlast (UInt8.toNat_inj.1 heq)
    rw [UInt8.toNat_add, UInt8.toNat_one]
    omega

/-- One more in the sum moves the character on by one place. -/
theorem ofSum_add_one (sum : UInt32) : ofSum (sum + 1) = next (ofSum sum) := by
  rw [← UInt8.toNat_inj, toNat_ofSum, toNat_next_ofSum, UInt32.toNat_add, UInt32.toNat_one]
  -- a sum that overflows starts again at a multiple of 64
  omega

theorem next_compute_ne (label value : String) :
    next (compute label value) ≠ compute label value := by
  intro hsame
  have hnat := congrArg UInt8.toNat hsame
  rw [compute, toNat_next_ofSum, toNat_ofSum] at hnat
  omega

/-! ## Verdicts -/

theorem verify_disabled (label value : String) (received : UInt8) :
    verify label value received .disabled =
      if received = compute label value then .valid else .mismatch (compute label value) := by
  unfold verify compute
  simp only [reduceCtorEq, false_and, if_false]

/-- The repair changes the verdict on one character, under one label. -/
theorem verify_enabled (label value : String) (received : UInt8) :
    verify label value received .enabled =
      if label = Wire.adps ∧ received = next (compute label value) then .repaired
      else verify label value received .disabled := by
  rw [verify_disabled]
  unfold verify compute
  simp only [true_and, ofSum_add_one]
  split
  · next hvalid =>
    -- the right character is never the one after it
    have hnext : received ≠ next (ofSum (byteSum label value)) := by
      rw [hvalid]
      exact (next_compute_ne label value).symm
    rw [if_neg fun h => hnext h.2]
  · rfl

theorem verify_disabled_ne_repaired (label value : String) (received : UInt8) :
    verify label value received .disabled ≠ .repaired := by
  rw [verify_disabled]
  split <;> simp

theorem verify_enabled_eq_repaired_iff {label value : String} {received : UInt8} :
    verify label value received .enabled = .repaired ↔
      label = Wire.adps ∧ received = next (compute label value) := by
  rw [verify_enabled]
  split
  · next h => simpa using h
  · next h => simpa [h] using verify_disabled_ne_repaired label value received

/-- The checksum of one line, checked against another. -/
theorem verify_compute_eq (label value label' value' : String) :
    verify label' value' (compute label value) .disabled =
      if total (GroupLine.text label' value') % 64 = total (GroupLine.text label value) % 64 then
        .valid
      else .mismatch (compute label' value') := by
  rw [verify_disabled]
  refine if_congr ?_ rfl rfl
  rw [compute_eq_iff, eq_comm]

/-- Another byte in a line goes unseen only if it differs by a multiple of 64. -/
theorem verify_set_iff {label value label' value' : String} {place : Nat} {old new : UInt8}
    (hold : (GroupLine.text label value)[place]? = some old)
    (hnew : GroupLine.text label' value' = (GroupLine.text label value).set place new) :
    verify label' value' (compute label value) .disabled = .valid ↔
      new.toNat % 64 = old.toNat % 64 := by
  -- both sums have the other bytes in common
  have htotal := total_set hold new
  rw [verify_compute_eq, hnew]
  split
  · next hsame =>
    refine iff_of_true rfl ?_
    omega
  · next hother =>
    refine iff_of_false (by simp) ?_
    omega

/-- What a miscounting meter sends is the character after the right one. -/
theorem miscounted_eq (value : String) :
    Samples.miscounted value = next (compute Wire.adps value) :=
  ofSum_add_one (byteSum Wire.adps value)

/-- The checksum is the sum of the bytes, and verdicts depend on sums alone: of a line on that of
another, of a line with one other byte, and of a line that a miscounting meter sends. -/
theorem verify_by_sums (label value : String) :
    ((compute label value).toNat = 0x20 + total (GroupLine.text label value) % 64 ∧
        0x20 ≤ compute label value ∧ compute label value ≤ 0x5F) ∧
      (∀ label' value', verify label' value' (compute label value) .disabled =
        if total (GroupLine.text label' value') % 64 = total (GroupLine.text label value) % 64 then
          .valid
        else .mismatch (compute label' value')) ∧
      (∀ label' value' place old new, (GroupLine.text label value)[place]? = some old →
        GroupLine.text label' value' = (GroupLine.text label value).set place new →
        (verify label' value' (compute label value) .disabled = .valid ↔
          new.toNat % 64 = old.toNat % 64)) ∧
      (∀ received, (verify label value received .enabled = .repaired ↔
          label = Wire.adps ∧ received = next (compute label value)) ∧
        (¬ (label = Wire.adps ∧ received = next (compute label value)) →
          verify label value received .enabled = verify label value received .disabled)) ∧
      Samples.miscounted value = next (compute Wire.adps value) := by
  have hnat := toNat_compute label value
  refine ⟨⟨hnat, ?_, ?_⟩, verify_compute_eq label value, ?_, fun received => ⟨?_, ?_⟩,
    miscounted_eq value⟩
  · rw [UInt8.le_iff_toNat_le, hnat]
    exact Nat.le_add_right 0x20 _
  -- a remainder is 63 at most, and the last character is 63 above the first
  · rw [UInt8.le_iff_toNat_le, hnat]
    have hlast : (0x5F : UInt8).toNat = 0x5F := rfl
    omega
  · intro label' value' place old new hold hnew
    exact verify_set_iff hold hnew
  · exact verify_enabled_eq_repaired_iff
  · intro hother
    rw [verify_enabled, if_neg hother]

/-- Two characters that lie 64 apart are taken for each other, and a character too high by two is
not repaired. -/
theorem verify_by_sums_unseen :
    (GroupLine.text "ADPS" "037")[5]? = some 0x30 ∧
      GroupLine.text "ADPS" "p37" = (GroupLine.text "ADPS" "037").set 5 0x70 ∧
      verify "ADPS" "p37" (compute "ADPS" "037") .disabled = .valid ∧
      verify "ADPS" "037" 0x44 .enabled = verify "ADPS" "037" 0x44 .disabled := by
  have hold : (GroupLine.text "ADPS" "037")[5]? = some 0x30 := by decide
  have hnew : GroupLine.text "ADPS" "p37" = (GroupLine.text "ADPS" "037").set 5 0x70 := by decide
  rcases verify_by_sums "ADPS" "037" with ⟨-, -, hset, hrepair, -⟩
  exact ⟨hold, hnew, (hset "ADPS" "p37" 5 0x30 0x70 hold hnew).2 (by decide),
    (hrepair 0x44).2 (by decide)⟩

end Checksum
end TicMeter
