/-!
# Binary64 — numbers of 64 bits with a binary point

A finite number is a sign and a magnitude `significand * 2 ^ exponent`. A magnitude has 53 bits at
most, and fewer only at the least exponent; so equal magnitudes are equal values. Results are
rounded to the nearest magnitude, and to the even one of two that are equally near.
-/

namespace TicMeter

structure Magnitude where
  significand : Nat
  exponent : Int
  deriving DecidableEq, Repr

namespace Magnitude

def precision : Nat := 53

def minExponent : Int := -1074

def maxExponent : Int := 971

def zero : Magnitude := ⟨0, minExponent⟩

def isZero (a : Magnitude) : Bool := a.significand = 0

/-- `n * 2 ^ exponent` as a fraction: its numerator and its denominator. -/
def fractionOf (n : Nat) (exponent : Int) : Nat × Nat :=
  (n * Nat.pow 2 exponent.toNat, Nat.pow 2 (-exponent).toNat)

/-- The whole number nearest to a fraction, the even one of two. -/
def roundToEven (numerator denominator : Nat) : Nat :=
  let n := numerator / denominator
  let twice := 2 * (numerator % denominator)
  if twice < denominator ∨ (twice = denominator ∧ n % 2 = 0) then n else n + 1

/-- The exponent at which the whole part of a fraction has the right number of bits, or the least
exponent. -/
def exponentFor (numerator denominator : Nat) : Int :=
  -- one too small at most
  let guess := (Nat.log2 numerator : Int) - Nat.log2 denominator - precision
  let (scaled, unit) := fractionOf denominator guess
  let wide := Nat.pow 2 precision * scaled ≤ numerator * unit
  max minExponent (if wide then guess + 1 else guess)

/-- The magnitude nearest to a fraction, unless it is too great. -/
def nearest? (numerator denominator : Nat) : Option Magnitude :=
  let exponent := exponentFor numerator denominator
  let (scaled, unit) := fractionOf denominator exponent
  let n := roundToEven (numerator * unit) scaled
  let a : Magnitude :=
    if n = Nat.pow 2 precision then ⟨Nat.pow 2 (precision - 1), exponent + 1⟩ else ⟨n, exponent⟩
  if a.isZero then some zero else if a.exponent ≤ maxExponent then some a else none

def fraction (a : Magnitude) : Nat × Nat :=
  fractionOf a.significand a.exponent

def times? (a b : Magnitude) : Option Magnitude :=
  nearest? (a.fraction.1 * b.fraction.1) (a.fraction.2 * b.fraction.2)

/-- The quotient. The second magnitude is not zero. -/
def over? (a b : Magnitude) : Option Magnitude :=
  nearest? (a.fraction.1 * b.fraction.2) (a.fraction.2 * b.fraction.1)

end Magnitude

/-- A finite number. -/
structure Binary64 where
  negative : Bool
  magnitude : Magnitude
  deriving DecidableEq, Repr

end TicMeter
