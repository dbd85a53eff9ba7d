import TicMeter.Text.Regex.Fault
import TicMeter.Text.Space

/-!
# Cursor — a place in the text of an expression

A cursor knows what is still to be read and where it begins. Where blanks have no meaning, it can
also pass over them and over comments, which reach from a `#` to the end of the line.
-/

namespace TicMeter
namespace Regex

structure Cursor where
  rest : List Char
  position : Position
  /-- whether blanks and comments have no meaning -/
  spacious : Bool
  deriving Repr

namespace Cursor

def ofText (text : String) : Cursor := ⟨text.toList, .origin, false⟩

def atEnd (c : Cursor) : Bool := c.rest.isEmpty

/-- The span from a position up to here. -/
def since (c : Cursor) (start : Position) : Span := ⟨start, c.position⟩

def point (c : Cursor) : Span := .point c.position

def charSpan (c : Cursor) : Span :=
  match c.rest with
  | [] => c.point
  | x :: _ => ⟨c.position, c.position.after x⟩

def fail {α : Type} (cause : Cause) (span : Span) : Except Fault α := .error { cause, span }

/-! ## Going on -/

def skip : Nat → Cursor → Cursor
  | 0, c => c
  | n + 1, c =>
      match c.rest with
      | [] => c
      | x :: rest => skip n { c with rest, position := c.position.after x }

def next (c : Cursor) : Cursor := c.skip 1

/-- The cursor behind a word, if the word comes next. -/
def eat? (word : String) (c : Cursor) : Option Cursor :=
  if word.toList.isPrefixOf c.rest then some (c.skip word.length) else none

/-- The number of blanks and characters of comments that come next. -/
def blanks (inComment : Bool) : List Char → Nat
  | [] => 0
  | x :: rest =>
      if inComment then blanks (x != '\n') rest + 1
      else if Text.isSpace x then blanks false rest + 1
      else if x = '#' then blanks true rest + 1
      else 0

/-- Passes over blanks if they have no meaning. -/
def skipBlanks (c : Cursor) : Cursor :=
  if c.spacious then c.skip (blanks false c.rest) else c

/-- Passes over white space, which has no meaning here even if it has elsewhere. -/
def skipSpace (c : Cursor) : Cursor :=
  c.skip (c.rest.takeWhile Text.isSpace).length

/-- The cursor behind the next character and the blanks that follow it. -/
def nextSign (c : Cursor) : Cursor := c.next.skipBlanks

theorem length_skip (n : Nat) (c : Cursor) : (c.skip n).rest.length = c.rest.length - n := by
  induction n generalizing c with
  | zero => rfl
  | succ n ih =>
    unfold skip
    split
    · next h => simp [h]
    · next x rest h => rw [ih]; simp [h]

theorem length_skipBlanks (c : Cursor) : c.skipBlanks.rest.length ≤ c.rest.length := by
  unfold skipBlanks
  split
  · rw [length_skip]; omega
  · exact Nat.le_refl _

theorem length_nextSign {c : Cursor} (h : c.rest ≠ []) :
    c.nextSign.rest.length < c.rest.length := by
  have hpos := List.length_pos_iff.mpr h
  have hle := c.next.length_skipBlanks
  rw [next, length_skip] at hle
  unfold nextSign next
  omega

def takeSigns (kind : Char → Bool) (c : Cursor) : List Char × Cursor :=
  match _h : c.rest with
  | [] => ([], c)
  | x :: _ =>
      if kind x then
        let (signs, d) := takeSigns kind c.nextSign
        (x :: signs, d)
      else ([], c)
  termination_by c.rest.length
  decreasing_by exact length_nextSign (by simp [_h])

/-! ## Looking ahead -/

/-- The first of some characters that is neither white space nor the sign of a comment. What a
comment says counts. -/
def firstMark (inComment : Bool) : List Char → Option Char
  | [] => none
  | x :: rest =>
      if Text.isSpace x then firstMark inComment rest
      else if !inComment && x = '#' then firstMark true rest
      else some x

/-- The sign behind the next character. -/
def peek (c : Cursor) : Option Char :=
  if c.spacious then firstMark false c.rest.tail else c.rest.tail.head?

end Cursor
end Regex
end TicMeter
