import TicMeter.Text.Bytes

/-!
# ControlSequence — control sequences of terminals, left out of a text

A terminal takes some characters as part of a command, not as text. `Mode` says what kind of command
a character stands in; `Text.withoutControls` keeps what a terminal would show, with the blanks and
line breaks.
-/

namespace TicMeter
namespace Text

/-- What a character belongs to. -/
inductive Mode
  | ground
  | escape
  /-- an escape sequence of more than two characters -/
  | escapeMore
  /-- a sequence with arguments, up to its final character -/
  | arguments
  /-- a text for the system, up to a bell -/
  | system
  | deviceStart
  | deviceArguments
  | deviceMore
  /-- a text for a device, up to the sign that ends it -/
  | deviceText
  deriving DecidableEq, Repr

namespace Mode

/-- White space that a terminal obeys at once wherever it obeys controls. -/
def isBreak (c : Char) : Bool :=
  c = '\t' || c = '\n' || c = '\x0c' || c = '\r'

def shows (c : Char) : Mode → Bool
  | .ground => (' ' ≤ c && c != '\x7f') || isBreak c
  | .escape | .escapeMore | .arguments => isBreak c
  | _ => false

/-- Whether the byte 0x9C, which ends a text for a device, is among those of a character. -/
def endsText (c : Char) : Bool :=
  (bytes (String.singleton c)).contains 0x9C

def next (c : Char) (mode : Mode) : Mode :=
  let isMore := ' ' ≤ c && c ≤ '/'
  let isFinal := '@' ≤ c && c ≤ '~'
  -- these break off any sequence
  if c = '\x18' || c = '\x1a' then .ground
  else if c = '\x1b' then .escape
  else
    match mode with
    | .ground => .ground
    | .escape =>
        if isMore then .escapeMore
        else if c = '[' then .arguments
        else if c = ']' then .system
        else if c = 'P' then .deviceStart
        else if c = 'X' || c = '^' || c = '_' then .deviceText
        else if '0' ≤ c && c ≤ '~' then .ground
        else .escape
    | .escapeMore => if '0' ≤ c && c ≤ '~' then .ground else .escapeMore
    | .arguments => if isFinal then .ground else .arguments
    | .system => if c = '\x07' then .ground else .system
    | .deviceStart =>
        if isMore then .deviceMore
        else if '0' ≤ c && c ≤ '?' then .deviceArguments
        else if isFinal then .deviceText
        else .deviceStart
    | .deviceArguments =>
        if isMore then .deviceMore
        else if '<' ≤ c && c ≤ '~' then .deviceText
        else .deviceArguments
    | .deviceMore => if '0' ≤ c && c ≤ '~' then .deviceText else .deviceMore
    | .deviceText => if endsText c then .ground else .deviceText

/-- The characters that are text. In a run of text everything that is text on the ground is shown,
even where a line break in a sequence began the run; the sequence goes on behind the run. -/
def strip (mode : Mode) (inText : Bool) : List Char → List Char
  | [] => []
  | c :: rest =>
      if (if inText then ground else mode).shows c then
        c :: strip (if c.toNat < 0x80 then mode else .ground) true rest
      else strip (mode.next c) false rest

end Mode

def withoutControls (s : String) : String :=
  String.ofList (Mode.ground.strip false s.toList)

end Text
end TicMeter
