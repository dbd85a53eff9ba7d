import TicMeter.Text.Regex.Cursor
import TicMeter.Text.Regex.Pattern

/-!
# Escape — what a backslash begins

A backslash names a character, a set of characters or a condition on a place. What is read is given
together with the cursor behind it.
-/

namespace TicMeter
namespace Regex
namespace Cursor

/-! ## Characters by their numbers -/

def isHexDigit (x : Char) : Bool :=
  x.isDigit || ('a' ≤ x && x ≤ 'f') || ('A' ≤ x && x ≤ 'F')

def hexValue (x : Char) : Nat :=
  if x.isDigit then x.toNat - '0'.toNat else x.toLower.toNat - 'a'.toNat + 10

def charOfHex? (digits : List Char) : Option Char :=
  let n := digits.foldl (fun n x => n * 16 + hexValue x) 0
  if n.isValidChar then some (Char.ofNat n) else none

/-- Reads digits of which the first comes next, and so many more. -/
def readHexDigits : Nat → Cursor → Except Fault (List Char × Cursor)
  | more, c =>
      match c.rest with
      | [] => fail .escapeUnfinished c.point
      | x :: _ =>
          if !isHexDigit x then fail .hexDigit c.charSpan
          else
            match more with
            | 0 => .ok ([x], c.nextSign)
            | more + 1 => do
                let (digits, c) ← readHexDigits more c.nextSign
                return (x :: digits, c)

def readFixedHex (start : Position) (count : Nat) (c : Cursor) :
    Except Fault (Pattern × Cursor) := do
  let (digits, d) ← c.readHexDigits (count - 1)
  match charOfHex? digits with
  | some x => return (.literal ⟨d.since start, x, count = 2⟩, d)
  | none => fail .hexNoCharacter (d.since c.position)

def readBracedHex (start : Position) (c : Cursor) : Except Fault (Pattern × Cursor) :=
  let (digits, d) := c.nextSign.takeSigns isHexDigit
  match d.rest with
  | [] => fail .escapeUnfinished (d.since c.position)
  | '\x7d' :: _ =>
      let behind := d.nextSign
      if digits.isEmpty then fail .hexEmpty (behind.since c.position)
      else
        match charOfHex? digits with
        | some x => .ok (.literal { span := behind.since start, char := x }, behind)
        | none => fail .hexNoCharacter (d.since c.next.position)
  | _ => fail .hexDigit d.charSpan

/-- Reads a number; the letter that says how many digits it has comes next. -/
def readHex (start : Position) (count : Nat) (c : Cursor) : Except Fault (Pattern × Cursor) :=
  let d := c.nextSign
  match d.rest with
  | [] => fail .escapeUnfinished d.point
  | '\x7b' :: _ => d.readBracedHex start
  | _ => d.readFixedHex start count

/-! ## Properties -/

/-- Reads the name of a property, a letter or a name in braces. -/
def readProperty (start : Position) (c : Cursor) : Except Fault (Pattern × Cursor) :=
  let d := c.nextSign
  match d.rest with
  | [] => fail .escapeUnfinished d.point
  | '\x7b' :: _ =>
      let (name, e) := d.nextSign.takeSigns (· != '\x7d')
      if e.atEnd then fail .escapeUnfinished e.point
      else .ok (.set (.property (e.next.since start) name), e.next)
  | '\\' :: _ => fail .propertyForm d.charSpan
  | x :: _ => .ok (.set (.property (d.nextSign.since start) [x]), d.nextSign)

/-! ## Conditions -/

def isBoundaryChar (x : Char) : Bool := x.isAlpha || x = '-'

def boundary? (name : List Char) : Option Anchor :=
  match String.ofList name with
  | "start" => some .wordStart
  | "end" => some .wordEnd
  | "start-half" => some .wordStartHalf
  | "end-half" => some .wordEndHalf
  | _ => none

/-- Reads what may follow the escape of a word boundary: the name of a special one in braces. Braces
that do not begin with a name are left to be read as a repetition. -/
def readBoundary (start : Position) (c : Cursor) : Except Fault (Pattern × Cursor) :=
  let plain : Pattern := .anchor (c.since start) .wordBoundary
  match c.rest with
  | '\x7b' :: _ =>
      let d := c.nextSign
      match d.rest with
      | [] => fail .boundaryUnfinished (d.since start)
      | x :: _ =>
          if !isBoundaryChar x then .ok (plain, c)
          else
            let (name, e) := d.takeSigns isBoundaryChar
            if e.rest.head? != some '\x7d' then fail .boundaryUnclosed (e.since c.position)
            else
              match boundary? name with
              | some anchor => .ok (.anchor (e.next.since start) anchor, e.next)
              | none => fail .boundaryUnknown (e.since d.position)
  | _ => .ok (plain, c)

/-! ## Escapes -/

/-- Whether a backslash makes a character stand for itself. -/
def isEscapable (x : Char) : Bool :=
  x.toNat < 0x80 && !x.isAlphanum && x != '<' && x != '>'

def control? : Char → Option Char
  | 'a' => some '\x07'
  | 'f' => some '\x0c'
  | 't' => some '\t'
  | 'n' => some '\n'
  | 'r' => some '\r'
  | 'v' => some '\x0b'
  | _ => none

def shorthand? : Char → Option Shorthand
  | 'd' | 'D' => some .digit
  | 's' | 'S' => some .space
  | 'w' | 'W' => some .word
  | _ => none

def anchor? : Char → Option Anchor
  | 'A' => some .textStart
  | 'z' => some .textEnd
  | 'B' => some .noWordBoundary
  | '<' => some .wordStart
  | '>' => some .wordEnd
  | _ => none

def readEscape (c : Cursor) : Except Fault (Pattern × Cursor) :=
  let start := c.position
  let c := c.next
  match c.rest with
  | [] => fail .escapeUnfinished (c.since start)
  | x :: _ =>
      let d := c.next
      let span := d.since start
      if x.isDigit then fail .backreference span
      else if x = 'x' then c.readHex start 2
      else if x = 'u' then c.readHex start 4
      else if x = 'U' then c.readHex start 8
      else if x = 'p' || x = 'P' then c.readProperty start
      else if x = 'b' then d.readBoundary start
      else if isEscapable x then .ok (.literal { span, char := x }, d)
      else
        match control? x, shorthand? x, anchor? x with
        | some control, _, _ => .ok (.literal { span, char := control }, d)
        | _, some kind, _ => .ok (.set (.shorthand span x.isUpper kind), d)
        | _, _, some anchor => .ok (.anchor span anchor, d)
        | _, _, _ => fail .escapeUnknown span

end Cursor
end Regex
end TicMeter
