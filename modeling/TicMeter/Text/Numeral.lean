/-!
# Numeral — numbers as digits

Decimal numerals with a least width, and hexadecimal ones for single bytes and characters.
-/

namespace TicMeter
namespace Numeral

/-- The decimal numeral of `n`, with zeros on the left up to `width` digits and never cut. -/
def padded (width n : Nat) : String :=
  String.ofList ((Nat.toDigits 10 n).leftpad width '0')

/-- The decimal numeral of an integer, with zeros between the sign and the digits up to `width`
characters, the sign among them. -/
def paddedInt (width : Nat) : Int → String
  | .ofNat n => padded width n
  | .negSucc n => "-" ++ padded (width - 1) (n + 1)

def hexByte (b : UInt8) : String :=
  String.ofList (((Nat.toDigits 16 b.toNat).map Char.toUpper).leftpad 2 '0')

def hex (n : Nat) : List Char :=
  Nat.toDigits 16 n

def isDigits (cs : List Char) : Bool :=
  !cs.isEmpty && cs.all Char.isDigit

/-- The number that decimal digits spell, for a text of one or more digits and nothing else. -/
def parse? (s : String) : Option Nat :=
  if isDigits s.toList then some (Nat.ofDigitChars 10 s.toList 0) else none

end Numeral
end TicMeter
