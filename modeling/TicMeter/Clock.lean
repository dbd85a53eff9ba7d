import Std.Time.Date.PlainDate
import TicMeter.Text.Numeral

/-!
# Clock — the time at which a report is made

A moment is a count of nanoseconds since the beginning of 1970, in universal time. It is written
`YYYY-MM-DDThh:mm:ss.fZ`, with no more digits of the fraction than it needs, and without the point
if it needs none.
-/

namespace TicMeter
namespace Clock

/-- The date so many days after the first of 1970. -/
def dateText (days : Nat) : String :=
  let date := Std.Time.PlainDate.ofEpochDay (Std.Time.Day.Offset.ofInt days)
  Numeral.paddedInt 4 date.year ++ "-" ++ Numeral.padded 2 date.month.val.toNat ++ "-" ++
    Numeral.padded 2 date.day.val.toNat

def timeText (seconds : Nat) : String :=
  Numeral.padded 2 (seconds / 3600) ++ ":" ++ Numeral.padded 2 (seconds / 60 % 60) ++ ":" ++
    Numeral.padded 2 (seconds % 60)

def fractionText (billionths : Nat) : String :=
  let digits := (Numeral.padded 9 billionths).toList.reverse.dropWhile (· = '0')
  if digits.isEmpty then "" else String.ofList ('.' :: digits.reverse)

/-- A moment as a report writes it. -/
def text (nanoseconds : Nat) : String :=
  let seconds := nanoseconds / 1000000000
  dateText (seconds / 86400) ++ "T" ++ timeText (seconds % 86400) ++
    fractionText (nanoseconds % 1000000000) ++ "Z"

end Clock
end TicMeter
