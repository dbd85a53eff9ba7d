/-!
# Fault — what is wrong with the text of an expression, and where

A fault has a cause and a span of the text, and perhaps a second span that it disagrees with. Its
text shows the lines of the expression with the spans underlined.
-/

namespace TicMeter
namespace Regex

/-! ## Spans -/

/-- A place between two characters of a text. Lines and columns are counted from one. -/
structure Position where
  /-- the number of characters before it -/
  offset : Nat
  line : Nat
  column : Nat
  deriving DecidableEq, Repr

namespace Position

def origin : Position := ⟨0, 1, 1⟩

def after (p : Position) (c : Char) : Position :=
  if c = '\n' then ⟨p.offset + 1, p.line + 1, 1⟩
  else ⟨p.offset + 1, p.line, p.column + 1⟩

end Position

structure Span where
  start : Position
  stop : Position
  deriving DecidableEq, Repr

namespace Span

/-- The span without characters at a position. -/
def point (p : Position) : Span := ⟨p, p⟩

def inOneLine (span : Span) : Bool := span.start.line = span.stop.line

/-- The number of marks under a span. Even one without characters is marked. -/
def width (span : Span) : Nat := max 1 (span.stop.column - span.start.column)

end Span

/-! ## Causes -/

inductive Cause
  | classEscape
  | classRange
  | classRangeEnd
  | classUnclosed
  | decimalTooLarge
  | hexEmpty
  | hexNoCharacter
  | hexDigit
  | escapeUnfinished
  | escapeUnknown
  | flagDangling
  | flagRepeated
  | negationRepeated
  | flagUnfinished
  | flagUnknown
  | nameRepeated
  | nameEmpty
  | nameCharacter
  | nameUnclosed
  | groupUnclosed
  | groupUnopened
  | nestedTooDeep
  | repetitionRange
  | repetitionNumber
  | repetitionUnclosed
  | repetitionOfNothing
  | boundaryUnclosed
  | boundaryUnknown
  | boundaryUnfinished
  | propertyForm
  | backreference
  | lookAround
  | unicodeNotAllowed
  | notUtf8
  | propertyUnknown
  | propertyValueUnknown
  | shorthandUnavailable
  | caseUnavailable
  deriving DecidableEq, Repr

def nestLimit : Nat := 250

namespace Cause

def message : Cause → String
  | .classEscape => "invalid escape sequence found in character class"
  | .classRange => "invalid character class range, the start must be <= the end"
  | .classRangeEnd => "invalid range boundary, must be a literal"
  | .classUnclosed => "unclosed character class"
  | .decimalTooLarge => "decimal literal invalid"
  | .hexEmpty => "hexadecimal literal empty"
  | .hexNoCharacter => "hexadecimal literal is not a Unicode scalar value"
  | .hexDigit => "invalid hexadecimal digit"
  | .escapeUnfinished => "incomplete escape sequence, reached end of pattern prematurely"
  | .escapeUnknown => "unrecognized escape sequence"
  | .flagDangling => "dangling flag negation operator"
  | .flagRepeated => "duplicate flag"
  | .negationRepeated => "flag negation operator repeated"
  | .flagUnfinished => "expected flag but got end of regex"
  | .flagUnknown => "unrecognized flag"
  | .nameRepeated => "duplicate capture group name"
  | .nameEmpty => "empty capture group name"
  | .nameCharacter => "invalid capture group character"
  | .nameUnclosed => "unclosed capture group name"
  | .groupUnclosed => "unclosed group"
  | .groupUnopened => "unopened group"
  | .nestedTooDeep =>
      s!"exceed the maximum number of nested parentheses/brackets ({nestLimit})"
  | .repetitionRange => "invalid repetition count range, the start must be <= the end"
  | .repetitionNumber => "repetition quantifier expects a valid decimal"
  | .repetitionUnclosed => "unclosed counted repetition"
  | .repetitionOfNothing => "repetition operator missing expression"
  | .boundaryUnclosed =>
      "special word boundary assertion is either unclosed or contains an invalid character"
  | .boundaryUnknown =>
      "unrecognized special word boundary assertion, valid choices are: start, end, " ++
        "start-half or end-half"
  | .boundaryUnfinished =>
      "found either the beginning of a special word boundary or a bounded repetition on a \\b " ++
        "with an opening brace, but no closing brace"
  | .propertyForm => "invalid Unicode character class"
  | .backreference => "backreferences are not supported"
  | .lookAround => "look-around, including look-ahead and look-behind, is not supported"
  | .unicodeNotAllowed => "Unicode not allowed here"
  | .notUtf8 => "pattern can match invalid UTF-8"
  | .propertyUnknown => "Unicode property not found"
  | .propertyValueUnknown => "Unicode property value not found"
  | .shorthandUnavailable =>
      "Unicode-aware Perl class not found (make sure the unicode-perl feature is enabled)"
  | .caseUnavailable =>
      "Unicode-aware case insensitivity matching is not available " ++
        "(make sure the unicode-case feature is enabled)"

end Cause

structure Fault where
  cause : Cause
  span : Span
  /-- what the span disagrees with -/
  other : Option Span := none
  deriving DecidableEq, Repr

namespace Fault

/-! ## Texts -/

/-- The lines of a text, without the carriage returns at their ends. A line break at the end opens
no further line. -/
def linesOf : List Char → List (List Char)
  | [] => []
  | '\n' :: rest => [] :: linesOf rest
  | '\r' :: '\n' :: rest => [] :: linesOf rest
  | [c] => [[c]]
  | c :: d :: rest =>
      match linesOf (d :: rest) with
      | line :: lines => (c :: line) :: lines
      | [] => [[c]]

def spans (fault : Fault) : List Span :=
  match fault.other with
  | none => [fault.span]
  | some other =>
      if other.start.offset ≤ fault.span.start.offset then [other, fault.span]
      else [fault.span, other]

def marks : Nat → List Span → List Char
  | _, [] => []
  | column, span :: rest =>
      List.replicate (span.start.column - column) ' ' ++ List.replicate span.width '^' ++
        marks (max column span.start.column + span.width) rest

/-- The lines of an expression from a number on, with marks under them; `width` is the room for line
numbers, zero for an expression of one line. -/
def annotate (spans : List Span) (width : Nat) : Nat → List (List Char) → List Char
  | _, [] => []
  | number, line :: rest =>
      let label :=
        if width = 0 then List.replicate 4 ' '
        else (toString number).toList.leftpad width ' ' ++ [':', ' ']
      let here := spans.filter fun span => span.inOneLine && span.start.line = number
      let underline :=
        if here.isEmpty then []
        else List.replicate label.length ' ' ++ marks 1 here ++ ['\n']
      label ++ line ++ '\n' :: underline ++ annotate spans width (number + 1) rest

/-- What is said of a span that begins and ends on different lines. -/
def note (span : Span) : String :=
  s!"on line {span.start.line} (column {span.start.column}) through line {span.stop.line} " ++
    s!"(column {span.stop.column - 1})"

/-- A fault in an expression with several lines is set off by rules. -/
def text (fault : Fault) (pattern : String) : String :=
  let chars := pattern.toList
  let lines := linesOf chars
  let count := lines.length + (if chars.getLast? = some '\n' then 1 else 0)
  let width := if count ≤ 1 then 0 else (toString count).length
  let listing := String.ofList (annotate fault.spans width 1 lines)
  let problem := "error: " ++ fault.cause.message
  if chars.contains '\n' then
    let rule := String.ofList (List.replicate 79 '~') ++ "\n"
    let notes := (fault.spans.filter (!·.inOneLine)).map note
    "regex parse error:\n" ++ rule ++ listing ++ rule ++
      (if notes.isEmpty then "" else "\n".intercalate notes ++ "\n") ++ problem
  else "regex parse error:\n" ++ listing ++ problem

end Fault
end Regex
end TicMeter
