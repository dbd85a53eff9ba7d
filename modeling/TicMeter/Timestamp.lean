import TicMeter.Text.Numeral

/-!
# Timestamp — the date and time that a meter sends

A timestamp is a date of the Gregorian calendar and a time of day in whole seconds. On the wire it
is `YYMMDDhhmmss`, with the letter of the season before it on some meters; the century is the one
that begins with 2000. In a report it is `YYYY-MM-DDThh:mm:ss`.
-/

namespace TicMeter

namespace Calendar

def isLeapYear (year : Int) : Bool :=
  year % 4 = 0 && (year % 100 ≠ 0 || year % 400 = 0)

def daysInMonth (year : Int) (month : Nat) : Nat :=
  if month = 2 then (if isLeapYear year then 29 else 28)
  else if month ∈ [4, 6, 9, 11] then 30
  else 31

end Calendar

/-- A date of a year with at most four digits, and a time of day. -/
structure Timestamp where
  year : Int
  month : Nat
  day : Nat
  hour : Nat
  minute : Nat
  second : Nat
  year_bounds : -9999 ≤ year ∧ year ≤ 9999
  month_bounds : 1 ≤ month ∧ month ≤ 12
  day_bounds : 1 ≤ day ∧ day ≤ Calendar.daysInMonth year month
  time_bounds : hour < 24 ∧ minute < 60 ∧ second < 60
  deriving DecidableEq

namespace Timestamp

/-- The timestamp with these parts, if the calendar and the clock have it. -/
def of? (year : Int) (month day hour minute second : Nat) : Option Timestamp :=
  if h : (-9999 ≤ year ∧ year ≤ 9999) ∧ (1 ≤ month ∧ month ≤ 12) ∧
      (1 ≤ day ∧ day ≤ Calendar.daysInMonth year month) ∧
      hour < 24 ∧ minute < 60 ∧ second < 60 then
    some ⟨year, month, day, hour, minute, second, h.1, h.2.1, h.2.2.1, h.2.2.2⟩
  else none

/-! ## Wire form -/

/-- Letters that may stand before the digits, for winter (`H`) and summer (`E`). -/
def seasonLetters : List Char := ['E', 'e', 'H', 'h']

def pairs : List Char → List Nat
  | a :: b :: rest => Nat.ofDigitChars 10 [a, b] 0 :: pairs rest
  | _ => []

/-- Twelve digits as a timestamp of this century. -/
def ofDigits? (digits : List Char) : Option Timestamp :=
  if digits.length = 12 ∧ digits.all Char.isDigit then
    match pairs digits with
    | [year, month, day, hour, minute, second] =>
        of? (2000 + (year : Int)) month day hour minute second
    | _ => none
  else none

def parse? (s : String) : Option Timestamp :=
  match s.toList with
  | c :: digits =>
      -- only one letter may go before the twelve digits
      if c ∈ seasonLetters then ofDigits? digits else ofDigits? (c :: digits)
  | [] => none

/-- The wire form, without a season letter; of the year only the last two digits are sent. -/
def wire (t : Timestamp) : String :=
  String.join ([(t.year % 100).toNat, t.month, t.day, t.hour, t.minute, t.second].map
    (Numeral.padded 2))

def display (t : Timestamp) : String :=
  let two := Numeral.padded 2
  Numeral.paddedInt 4 t.year ++ "-" ++ two t.month ++ "-" ++ two t.day ++ "T" ++
    two t.hour ++ ":" ++ two t.minute ++ ":" ++ two t.second

end Timestamp
end TicMeter
