import TicMeter.Binary64

/-!
# Shortest — the fewest decimal digits that mean a magnitude

A decimal means a magnitude if it is nearer to it than to any other. Of the decimals with the fewest
digits the nearest is taken, and the even one of two that are equally near.
-/

namespace TicMeter

/-- A decimal: its digits as a number, times a power of ten. -/
structure Decimal where
  digits : Nat
  exponent : Int
  deriving DecidableEq, Repr

namespace Decimal

def trim : Nat → Decimal → Decimal
  | 0, d => d
  | fuel + 1, d =>
      if 0 < d.digits ∧ d.digits % 10 = 0 then trim fuel ⟨d.digits / 10, d.exponent + 1⟩ else d

end Decimal

namespace Magnitude

/-- The reals that are rounded to a magnitude, in quarters of the unit of its last bit: the bounds
and whether they belong to them. -/
structure Interval where
  low : Nat
  high : Nat
  closed : Bool
  deriving DecidableEq, Repr

/-- Below a power of two the next magnitude is only half as far away. -/
def interval (a : Magnitude) : Interval where
  low :=
    if a.significand = Nat.pow 2 (precision - 1) ∧ minExponent < a.exponent then
      4 * a.significand - 1
    else 4 * a.significand - 2
  high := 4 * a.significand + 2
  closed := a.significand % 2 = 0

/-- Whether `n` units of a decimal grid lie in an interval. A unit is `unit` where a quarter of the
last bit is `quarter`. -/
def Interval.holds (i : Interval) (unit quarter n : Nat) : Bool :=
  let x := n * unit
  if i.closed then i.low * quarter ≤ x && x ≤ i.high * quarter
  else i.low * quarter < x && x < i.high * quarter

/-- The greatest power of ten up to a magnitude other than zero, by its exponent. -/
def decimalExponent (a : Magnitude) : Int :=
  let (numerator, denominator) := a.fraction
  if denominator ≤ numerator then ((Nat.toDigits 10 (numerator / denominator)).length : Int) - 1
  else
    -- a power of ten is at least `denominator / numerator` if it is beyond every number below that
    -((Nat.toDigits 10 ((denominator - 1) / numerator)).length : Int)

/-- The nearest decimal with a given number of digits that means a magnitude, if there is one. -/
def withDigits? (a : Magnitude) (count : Nat) : Option Decimal :=
  let exponent := a.decimalExponent + 1 - count
  let (quarters, parts) := fractionOf 1 (a.exponent - 2)
  -- both units over one denominator
  let unit := Nat.pow 10 exponent.toNat * parts
  let quarter := quarters * Nat.pow 10 (-exponent).toNat
  let value := 4 * a.significand * quarter
  let nearest := roundToEven value unit
  -- next to a bound the farther of two may be the only one
  let other := if nearest * unit ≤ value then nearest + 1 else nearest - 1
  ([nearest, other].find? (a.interval.holds unit quarter)).map (⟨·, exponent⟩)

/-- The fewest digits, of which seventeen are always enough. -/
def shortest (a : Magnitude) : Decimal :=
  if a.isZero then ⟨0, 0⟩
  else
    match (List.range 17).findSome? fun n => a.withDigits? (n + 1) with
    | some d => d.trim 17
    | none => ⟨0, 0⟩

end Magnitude
end TicMeter
