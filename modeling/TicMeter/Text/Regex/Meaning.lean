import TicMeter.Text.Regex
import TicMeter.Text.Regex.Cursor
import TicMeter.Text.Regex.Pattern

/-!
# Meaning — the expression that a pattern means

Flags decide what signs mean. Characters are those of all scripts unless the flag for them is
cleared; then sets may hold only ASCII, so that no part of a character is ever matched. What needs
tables of all scripts, such as their letter cases, is not available.
-/

namespace TicMeter
namespace Regex

/-! ## Flags -/

structure Flags where
  ignoreCase : Bool := false
  multiLine : Bool := false
  dotMatchesAll : Bool := false
  swapGreed : Bool := false
  carriageReturns : Bool := false
  unicode : Bool := true
  deriving DecidableEq, Repr

namespace Flags

def set (flags : Flags) (flag : Flag) (on : Bool) : Flags :=
  match flag with
  | .ignoreCase => { flags with ignoreCase := on }
  | .multiLine => { flags with multiLine := on }
  | .dotMatchesAll => { flags with dotMatchesAll := on }
  | .swapGreed => { flags with swapGreed := on }
  | .carriageReturns => { flags with carriageReturns := on }
  | .unicode => { flags with unicode := on }
  -- blanks have been dealt with
  | .spacious => flags

def change (flags : Flags) (changes : FlagChanges) : Flags :=
  changes.foldl (fun flags (flag, on) => flags.set flag on) flags

end Flags

/-! ## Sets -/

namespace Shorthand

def set : Shorthand → CharSet
  | .digit => .range '0' '9'
  | .space => .ofRanges [('\t', '\r'), (' ', ' ')]
  | .word => .ofRanges [('0', '9'), ('A', 'Z'), ('_', '_'), ('a', 'z')]

end Shorthand

namespace NamedSet

def set : NamedSet → CharSet
  | .alnum => .ofRanges [('0', '9'), ('A', 'Z'), ('a', 'z')]
  | .alpha => .ofRanges [('A', 'Z'), ('a', 'z')]
  | .ascii => .range '\x00' '\x7f'
  | .blank => .ofRanges [('\t', '\t'), (' ', ' ')]
  | .cntrl => .ofRanges [('\x00', '\x1f'), ('\x7f', '\x7f')]
  | .digit => Shorthand.digit.set
  | .graph => .range '!' '~'
  | .lower => .range 'a' 'z'
  | .print => .range ' ' '~'
  | .punct => .ofRanges [('!', '/'), (':', '@'), ('[', '\x60'), ('\x7b', '~')]
  | .space => Shorthand.space.set
  | .upper => .range 'A' 'Z'
  | .word => Shorthand.word.set
  | .xdigit => .ofRanges [('0', '9'), ('A', 'F'), ('a', 'f')]

end NamedSet

/-- A set, with what is known of the letter cases in it. -/
structure CaseSet where
  set : CharSet
  /-- whether it is known to hold every letter in all cases or in none -/
  folded : Bool
  deriving DecidableEq, Repr

namespace CaseSet

def empty : CaseSet := ⟨.empty, true⟩

/-- The set with characters of which nothing is known. -/
def insert (a : CaseSet) (set : CharSet) : CaseSet := ⟨a.set.union set, false⟩

def union (a b : CaseSet) : CaseSet :=
  if b.set.isEmpty || a.set = b.set then a else ⟨a.set.union b.set, a.folded && b.folded⟩

def inter (a b : CaseSet) : CaseSet :=
  if a.set.isEmpty then a
  else if b.set.isEmpty then empty
  else ⟨a.set.inter b.set, a.folded && b.folded⟩

def difference (a b : CaseSet) : CaseSet :=
  if a.set.isEmpty || b.set.isEmpty then a
  else ⟨a.set.difference b.set, a.folded && b.folded⟩

def complement (a : CaseSet) : CaseSet := ⟨a.set.complement, a.folded || a.set.isEmpty⟩

def combine (operator : SetOperator) (a b : CaseSet) : CaseSet :=
  match operator with
  | .intersection => a.inter b
  | .difference => a.difference b
  | .symmetricDifference => (a.union b).difference (a.inter b)

end CaseSet

namespace Flags

open Cursor (fail)

/-- The set with the other cases of its letters, if cases are ignored. -/
def foldCase (flags : Flags) (span : Span) (a : CaseSet) : Except Fault CaseSet :=
  if !flags.ignoreCase then .ok a
  else if !flags.unicode then .ok ⟨a.set.foldCase, true⟩
  else if a.folded || a.set.isEmpty then .ok ⟨a.set, true⟩
  else fail .caseUnavailable span

/-- The complement of a set, if it is meant. -/
def complete (flags : Flags) (span : Span) (complement : Bool) (a : CaseSet) :
    Except Fault CaseSet :=
  if !complement then .ok a
  else if flags.unicode then .ok a.complement
  else fail .notUtf8 span

/-- The character that a literal means. A byte past ASCII is no character. -/
def charOf (flags : Flags) (l : Literal) : Except Fault Char :=
  if !flags.unicode && l.isByte && 0x80 ≤ l.char.toNat then fail .notUtf8 l.span else .ok l.char

def memberOf (flags : Flags) (l : Literal) : Except Fault Char := do
  let c ← flags.charOf l
  if flags.unicode || c.toNat < 0x80 then return c else fail .unicodeNotAllowed l.span

/-- Why the set of the characters with a property is not available. -/
def propertyCause (flags : Flags) (name : List Char) : Cause :=
  let lower := name.map Char.toLower
  let bare := if ['i', 's'].isPrefixOf lower then lower.drop 2 else lower
  let key := bare.filter fun c => c.toNat < 0x80 && c != ' ' && c != '_' && c != '-'
  if !flags.unicode then .unicodeNotAllowed
  -- these names are taken for values, of which there are none
  else if ["cf", "sc", "lc"].contains (String.ofList key) then .propertyValueUnknown
  else .propertyUnknown

end Flags

open Cursor (fail)

mutual

def SetPattern.addTo (flags : Flags) (a : CaseSet) : SetPattern → Except Fault CaseSet
  | .nothing _ => .ok a
  | .one l => do return a.insert (.one (← flags.memberOf l))
  | .range _ first last => do
      return a.insert (.range (← flags.memberOf first) (← flags.memberOf last))
  | .named span complement name => do
      let b ← flags.foldCase span ⟨name.set, false⟩
      return a.union (← flags.complete span complement b)
  | .shorthand span complement kind => do
      if flags.unicode then fail .shorthandUnavailable span
      else return a.union (← flags.complete span complement ⟨kind.set, true⟩)
  | .property span name => fail (flags.propertyCause name) span
  | .brackets span complement content => do
      let b ← content.addTo flags .empty
      let b ← flags.foldCase span b
      return a.union (← flags.complete span complement b)
  | .union _ items => SetPattern.addAllTo flags a items
  | .combined operator left right => do
      let b ← left.addTo flags .empty
      let c ← right.addTo flags .empty
      let c ← flags.foldCase right.span c
      let b ← flags.foldCase left.span b
      return a.union (b.combine operator c)

def SetPattern.addAllTo (flags : Flags) (a : CaseSet) : List SetPattern → Except Fault CaseSet
  | [] => .ok a
  | set :: rest => do
      let a ← set.addTo flags a
      SetPattern.addAllTo flags a rest

end

/-! ## Expressions -/

namespace Flags

def alphabet (flags : Flags) : Alphabet := if flags.unicode then .unicode else .ascii

def lookOf (flags : Flags) : Anchor → Look
  | .textStart => .textStart
  | .textEnd => .textEnd
  | .lineStart =>
      if !flags.multiLine then .textStart
      else if flags.carriageReturns then .returnStart
      else .lineStart
  | .lineEnd =>
      if !flags.multiLine then .textEnd
      else if flags.carriageReturns then .returnEnd
      else .lineEnd
  | .wordBoundary => .word .boundary flags.alphabet
  | .noWordBoundary => .word .noBoundary flags.alphabet
  | .wordStart => .word .start flags.alphabet
  | .wordEnd => .word .stop flags.alphabet
  | .wordStartHalf => .word .startHalf flags.alphabet
  | .wordEndHalf => .word .stopHalf flags.alphabet

def dotSet (flags : Flags) : CharSet :=
  let excluded : CharSet :=
    if flags.dotMatchesAll then .empty
    else if flags.carriageReturns then .ofRanges [('\n', '\n'), ('\r', '\r')]
    else .one '\n'
  excluded.complement

def literalSet (flags : Flags) (l : Literal) : Except Fault CharSet := do
  let c ← flags.charOf l
  if !flags.ignoreCase then return .one c
  else if flags.unicode then fail .caseUnavailable l.span
  else return (CharSet.one c).foldCase

end Flags

mutual

/-- The expression that a pattern means, and the flags behind it. -/
def Pattern.meaning (flags : Flags) : Pattern → Except Fault (Regex × Flags)
  | .empty _ => .ok (.literal [], flags)
  | .flags _ changes => .ok (.literal [], flags.change changes)
  | .literal l => do return (.ofSet (← flags.literalSet l) flags.alphabet, flags)
  | .dot span =>
      if flags.unicode then .ok (.ofSet flags.dotSet flags.alphabet, flags) else fail .notUtf8 span
  | .anchor _ place => .ok (.look (flags.lookOf place), flags)
  | .set s => do return (.ofSet (← s.addTo flags .empty).set flags.alphabet, flags)
  | .times _ body least most isLazy => do
      let (r, flags) ← body.meaning flags
      return (r.repeated least most (isLazy == flags.swapGreed), flags)
  | .group span .captured body => do
      let (r, _) ← body.meaning flags
      -- no two groups open at the same place
      return (.captured span.start.offset r, flags)
  | .group _ (.plain changes) body => do
      let (r, _) ← body.meaning (flags.change changes)
      return (r, flags)
  | .sequence _ items => do
      let (rs, flags) ← Pattern.meanings flags items
      return (Regex.sequence rs, flags)
  | .choice _ branches => do
      let (rs, flags) ← Pattern.meanings flags branches
      return (Regex.choice rs, flags)

def Pattern.meanings (flags : Flags) : List Pattern → Except Fault (List Regex × Flags)
  | [] => .ok ([], flags)
  | item :: rest => do
      let (r, flags) ← item.meaning flags
      let (rs, flags) ← Pattern.meanings flags rest
      return (r :: rs, flags)

end

end Regex
end TicMeter
