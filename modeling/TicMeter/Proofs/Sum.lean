import Mathlib.Algebra.GroupWithZero.Nat
import TicMeter.Checksum

/-!
# Sum — the checksum as a sum of bytes

The checksum is computed in words of 32 bits, of which six bits are kept. Nothing is lost by the
width of the words: the character tells the sum of the bytes, as a number, up to multiples of 64.

* `Checksum.toNat_ofSum_bytes`: the character of a list of bytes.
* `Checksum.ofSum_bytes_ne`: it changes when one byte changes by no multiple of 64.
-/

namespace TicMeter
namespace Checksum

def total (bytes : List UInt8) : Nat :=
  (bytes.map UInt8.toNat).sum

/-- The sum of bytes in a word, from the word `start` on. -/
theorem toNat_foldl_mod (bytes : List UInt8) (start : UInt32) :
    (bytes.foldl (fun sum b => sum + b.toUInt32) start).toNat % 64 =
      (start.toNat + total bytes) % 64 := by
  induction bytes generalizing start with
  | nil => rfl
  | cons b rest ih =>
    -- a word that overflows drops a multiple of 64
    rw [List.foldl_cons, ih, UInt32.toNat_add, UInt8.toNat_toUInt32]
    simp only [total, List.map_cons, List.sum_cons]
    omega

theorem toNat_ofSum (sum : UInt32) : (ofSum sum).toNat = 0x20 + sum.toNat % 64 := by
  have hmask : (sum &&& Wire.checksumMask).toNat = sum.toNat % 2 ^ 6 := by
    rw [UInt32.toNat_and]
    exact Nat.and_two_pow_sub_one_eq_mod sum.toNat 6
  have hoffset : Wire.checksumOffset.toNat = 0x20 := rfl
  rw [ofSum, UInt8.toNat_add, UInt32.toNat_toUInt8, hmask, hoffset]
  -- six bits and the offset fit into a byte
  omega

/-- The checksum character of bytes tells their sum up to multiples of 64. -/
theorem toNat_ofSum_bytes (bytes : List UInt8) :
    (ofSum (bytes.foldl (fun sum b => sum + b.toUInt32) 0)).toNat = 0x20 + total bytes % 64 := by
  rw [toNat_ofSum, toNat_foldl_mod]
  simp

theorem total_set {bytes : List UInt8} {place : Nat} {old : UInt8} (h : bytes[place]? = some old)
    (b : UInt8) : total (bytes.set place b) + old.toNat = total bytes + b.toNat := by
  induction bytes generalizing place with
  | nil => simp at h
  | cons a rest ih =>
    cases place with
    | zero =>
      have ha : a = old := by simpa using h
      simp only [total, List.set_cons_zero, List.map_cons, List.sum_cons, ha]
      omega
    | succ place =>
      have hold : rest[place]? = some old := by simpa using h
      have hrest := ih hold
      simp only [total, List.set_cons_succ, List.map_cons, List.sum_cons] at hrest ⊢
      omega

/-- The checksum character sees every byte that changes by no multiple of 64. -/
theorem ofSum_bytes_ne {bytes : List UInt8} {place : Nat} {old b : UInt8}
    (h : bytes[place]? = some old) (hb : b.toNat % 64 ≠ old.toNat % 64) :
    ofSum ((bytes.set place b).foldl (fun sum b => sum + b.toUInt32) 0) ≠
      ofSum (bytes.foldl (fun sum b => sum + b.toUInt32) 0) := by
  intro hsame
  have hnat := congrArg UInt8.toNat hsame
  have htotal := total_set h b
  rw [toNat_ofSum_bytes, toNat_ofSum_bytes] at hnat
  omega

end Checksum
end TicMeter
