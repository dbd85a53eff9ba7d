import TicMeter.Binary64.Shortest

/-!
# Number — how numbers with a point or an exponent stand in documents

A literal is read as a significand of 64 bits and a power of ten, which are then multiplied or
divided; so the number may differ from the nearest one in its last bits. Digits past the 64 bits are
dropped. A number is written with the fewest digits that mean it.
-/

namespace TicMeter
namespace Json

/-! ## Reading -/

/-- A number part way through: its digits, times a power of ten. -/
abbrev Scaled := Decimal

namespace Scaled

/-- Takes the digits before the point. From the first on for which there is no room, they only count
as places. -/
def readInteger (d : Scaled) : List Char → Scaled
  | [] => d
  | c :: rest =>
      let digits := d.digits * 10 + (c.toNat - '0'.toNat)
      if digits < UInt64.size then readInteger ⟨digits, d.exponent⟩ rest
      else ⟨d.digits, d.exponent + (rest.length + 1)⟩

/-- Takes the digits behind the point, up to the first for which there is no room. -/
def readFraction (d : Scaled) : List Char → Scaled
  | [] => d
  | c :: rest =>
      let digits := d.digits * 10 + (c.toNat - '0'.toNat)
      if digits < UInt64.size then readFraction ⟨digits, d.exponent - 1⟩ rest else d

end Scaled

/-- The greatest power of ten that is multiplied or divided by at once. -/
def maxPower : Nat := 308

/-- A magnitude times a power of ten, unless it is too great. -/
def scale? (a : Magnitude) (exponent : Int) : Option Magnitude :=
  if exponent < -maxPower then
    if a.isZero then some a
    else do
      let power ← Magnitude.nearest? (Nat.pow 10 maxPower) 1
      scale? (← a.over? power) (exponent + maxPower)
  else if maxPower < exponent then if a.isZero then some a else none
  else do
    let power ← Magnitude.nearest? (Nat.pow 10 exponent.natAbs) 1
    if 0 ≤ exponent then a.times? power else a.over? power
  termination_by (-exponent).toNat
  decreasing_by simp only [maxPower] at *; omega

/-- The magnitude that a significand and a power of ten are read as, unless it is too great. -/
def Scaled.magnitude? (d : Scaled) : Option Magnitude := do
  scale? (← Magnitude.nearest? d.digits 1) d.exponent

/-! ## Writing -/

/-- The text of a decimal. It is written out if its first digit has between sixteen places before
the point and five behind it. -/
def decimalText (d : Decimal) : List Char :=
  let digits := Nat.toDigits 10 d.digits
  let first := d.exponent + digits.length - 1
  if -5 ≤ first ∧ first ≤ 15 then
    if 0 ≤ d.exponent then digits ++ List.replicate d.exponent.toNat '0' ++ ['.', '0']
    else if 0 ≤ first then
      let whole := first.toNat + 1
      digits.take whole ++ '.' :: digits.drop whole
    else '0' :: '.' :: List.replicate (-first - 1).toNat '0' ++ digits
  else
    let fraction := digits.drop 1
    digits.take 1 ++ (if fraction.isEmpty then [] else '.' :: fraction) ++
      'e' :: (if first < 0 then '-' else '+') :: Nat.toDigits 10 first.natAbs

def realText (x : Binary64) : List Char :=
  (if x.negative then ['-'] else []) ++ decimalText x.magnitude.shortest

end Json
end TicMeter
