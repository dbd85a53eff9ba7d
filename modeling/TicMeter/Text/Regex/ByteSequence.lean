import TicMeter.Text.CharSet

/-!
# ByteSequence — the characters of a set as bytes

The UTF-8 forms of the characters in a set are the byte sequences that lie in one of some
sequences of ranges. Ranges of characters are cut where the forms would not fill such a sequence.
-/

namespace TicMeter
namespace Regex

/-- From the first byte to the last. -/
abbrev ByteRange := Nat × Nat

/-- What each byte of a form may be. -/
abbrev ByteSequence := List ByteRange

namespace ByteSequence

/-- The sequences for numbers of which the lowest `6 * more` bits fill continuation bytes. The bits
above them come first, with `mark` added. -/
def ofBits (mark : Nat) : Nat → Nat → Nat → List ByteSequence
  | 0, first, last => [[(mark + first, mark + last)]]
  | more + 1, first, last =>
      let unit := Nat.pow 64 (more + 1)
      let (a, b) := (first / unit, last / unit)
      let behind (lead low high : Nat) : List ByteSequence :=
        (ofBits 0x80 more low high).map ((mark + lead, mark + lead) :: ·)
      if a = b then behind a (first % unit) (last % unit)
      else
        let cutFirst := first % unit ≠ 0
        let cutLast := last % unit ≠ unit - 1
        let a' := if cutFirst then a + 1 else a
        let b' := if cutLast then b - 1 else b
        (if cutFirst then behind a (first % unit) (unit - 1) else []) ++
          (if a' ≤ b' then
            [(mark + a', mark + b') :: List.replicate (more + 1) (0x80, 0xBF)]
          else []) ++
          (if cutLast then behind b 0 (last % unit) else [])

/-- The numbers with forms of one length: the first and the last, the mark on their first byte and
how many continuation bytes follow it. No character has the number of a surrogate. -/
def lengths : List (Nat × Nat × Nat × Nat) :=
  [(0, 0x7F, 0, 0), (0x80, 0x7FF, 0xC0, 1), (0x800, 0xD7FF, 0xE0, 2), (0xE000, 0xFFFF, 0xE0, 2),
    (0x10000, 0x10FFFF, 0xF0, 3)]

def ofRun (run : Nat × Nat) : List ByteSequence :=
  lengths.flatMap fun (low, high, mark, more) =>
    let first := max low run.1
    let last := min high run.2
    if first ≤ last then ofBits mark more first last else []

def ofSet (set : CharSet) : List ByteSequence := set.runs.flatMap ofRun

def maxLength : Nat := 4

end ByteSequence
end Regex
end TicMeter
