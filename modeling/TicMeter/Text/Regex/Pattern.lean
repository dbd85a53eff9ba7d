import TicMeter.Text.Regex.Fault

/-!
# Pattern — expressions as they are written

A pattern keeps what is written and where. What it means depends on flags, which it may set on its
way; `TicMeter.Text.Regex.Meaning` finds that out.
-/

namespace TicMeter
namespace Regex

/-- A character that stands for itself or is named by its number. -/
structure Literal where
  span : Span
  char : Char
  /-- whether it is named by the two digits of a byte -/
  isByte : Bool := false
  deriving DecidableEq, Repr

/-! ## Sets of characters -/

inductive Shorthand
  | digit
  | space
  | word
  deriving DecidableEq, Repr

inductive NamedSet
  | alnum
  | alpha
  | ascii
  | blank
  | cntrl
  | digit
  | graph
  | lower
  | print
  | punct
  | space
  | upper
  | word
  | xdigit
  deriving DecidableEq, Repr

namespace NamedSet

def all : List NamedSet :=
  [.alnum, .alpha, .ascii, .blank, .cntrl, .digit, .graph, .lower, .print, .punct, .space, .upper,
    .word, .xdigit]

def name : NamedSet → String
  | .alnum => "alnum"
  | .alpha => "alpha"
  | .ascii => "ascii"
  | .blank => "blank"
  | .cntrl => "cntrl"
  | .digit => "digit"
  | .graph => "graph"
  | .lower => "lower"
  | .print => "print"
  | .punct => "punct"
  | .space => "space"
  | .upper => "upper"
  | .word => "word"
  | .xdigit => "xdigit"

end NamedSet

inductive SetOperator
  | intersection
  | difference
  | symmetricDifference
  deriving DecidableEq, Repr

inductive SetPattern
  | nothing (span : Span)
  | one (literal : Literal)
  | range (span : Span) (first last : Literal)
  | named (span : Span) (complement : Bool) (name : NamedSet)
  | shorthand (span : Span) (complement : Bool) (kind : Shorthand)
  /-- the characters with a property, or all others -/
  | property (span : Span) (name : List Char)
  | brackets (span : Span) (complement : Bool) (content : SetPattern)
  | union (span : Span) (items : List SetPattern)
  | combined (operator : SetOperator) (left right : SetPattern)
  deriving Repr

namespace SetPattern

def start : SetPattern → Position
  | .nothing span | .range span .. | .named span .. | .shorthand span .. | .property span _
  | .brackets span .. | .union span _ => span.start
  | .one l => l.span.start
  | .combined _ left _ => left.start

def stop : SetPattern → Position
  | .nothing span | .range span .. | .named span .. | .shorthand span .. | .property span _
  | .brackets span .. | .union span _ => span.stop
  | .one l => l.span.stop
  | .combined _ _ right => right.stop

def span (set : SetPattern) : Span := ⟨set.start, set.stop⟩

end SetPattern

/-! ## Patterns -/

inductive Flag
  | ignoreCase
  | multiLine
  | dotMatchesAll
  | swapGreed
  | unicode
  | carriageReturns
  /-- blanks and comments between signs have no meaning -/
  | spacious
  deriving DecidableEq, Repr

namespace Flag

def ofChar? : Char → Option Flag
  | 'i' => some .ignoreCase
  | 'm' => some .multiLine
  | 's' => some .dotMatchesAll
  | 'U' => some .swapGreed
  | 'u' => some .unicode
  | 'R' => some .carriageReturns
  | 'x' => some .spacious
  | _ => none

end Flag

abbrev FlagChanges := List (Flag × Bool)

/-- A condition on a place as it is written. -/
inductive Anchor
  | lineStart
  | lineEnd
  | textStart
  | textEnd
  | wordBoundary
  | noWordBoundary
  | wordStart
  | wordEnd
  | wordStartHalf
  | wordEndHalf
  deriving DecidableEq, Repr

inductive GroupKind
  /-- a group that is remembered -/
  | captured
  | plain (changes : FlagChanges)
  deriving DecidableEq, Repr

inductive Pattern
  | empty (span : Span)
  | flags (span : Span) (changes : FlagChanges)
  | literal (literal : Literal)
  | dot (span : Span)
  | anchor (span : Span) (anchor : Anchor)
  | set (set : SetPattern)
  /-- `isLazy` asks for few turns rather than many -/
  | times (span : Span) (body : Pattern) (least : Nat) (most : Option Nat) (isLazy : Bool)
  | group (span : Span) (kind : GroupKind) (body : Pattern)
  | sequence (span : Span) (items : List Pattern)
  | choice (span : Span) (branches : List Pattern)
  deriving Repr

namespace Pattern

def span : Pattern → Span
  | .empty span | .flags span _ | .dot span | .anchor span _ | .times span .. | .group span ..
  | .sequence span _ | .choice span _ => span
  | .literal l => l.span
  | .set s => s.span

/-- Items in a row, the last first. -/
def ofItems (span : Span) : List Pattern → Pattern
  | [] => .empty span
  | [item] => item
  | items => .sequence span items.reverse

def ofBranches (span : Span) : List Pattern → Pattern
  | [branch] => branch
  | branches => .choice span branches.reverse

def canRepeat : Pattern → Bool
  | .empty _ | .flags .. => false
  | _ => true

end Pattern

/-! ## Depth -/

mutual

/-- The first part of a set that lies more than `depth` levels deep. -/
def SetPattern.below? (depth : Nat) : SetPattern → Option Span
  | .brackets span _ content => if depth = 0 then some span else content.below? (depth - 1)
  | .union span items =>
      if depth = 0 then some span else SetPattern.anyBelow? (depth - 1) items
  | .combined _ left right =>
      if depth = 0 then some ⟨left.start, right.stop⟩
      else (left.below? (depth - 1)).orElse fun _ => right.below? (depth - 1)
  | _ => none

def SetPattern.anyBelow? (depth : Nat) : List SetPattern → Option Span
  | [] => none
  | set :: rest => (set.below? depth).orElse fun _ => SetPattern.anyBelow? depth rest

end

mutual

def Pattern.below? (depth : Nat) : Pattern → Option Span
  | .set s => s.below? depth
  | .times span body _ _ _ | .group span _ body =>
      if depth = 0 then some span else body.below? (depth - 1)
  | .sequence span items | .choice span items =>
      if depth = 0 then some span else Pattern.anyBelow? (depth - 1) items
  | _ => none

def Pattern.anyBelow? (depth : Nat) : List Pattern → Option Span
  | [] => none
  | item :: rest => (item.below? depth).orElse fun _ => Pattern.anyBelow? depth rest

end

end Regex
end TicMeter
