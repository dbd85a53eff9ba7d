import TicMeter.Text.Regex.Escape

/-!
# Brackets — sets of characters as they are written

Brackets hold characters, ranges, named sets and further brackets in any order, and operators
between such lists, which are applied from left to right. The brackets that are open are held on a
stack.
-/

namespace TicMeter
namespace Regex

structure OpenSet where
  /-- the opening bracket with the signs that belong to it -/
  opening : Span
  complement : Bool
  /-- what stands before the last operator, and the operator -/
  left : Option (SetPattern × SetOperator) := none
  /-- the span of the items after the last operator -/
  span : Span
  /-- these items, the last first -/
  items : List SetPattern := []
  deriving Repr

namespace OpenSet

def push (set : OpenSet) (item : SetPattern) : OpenSet :=
  let start := if set.items.isEmpty then item.start else set.span.start
  { set with span := ⟨start, item.stop⟩, items := item :: set.items }

def content (set : OpenSet) : SetPattern :=
  let last : SetPattern :=
    match set.items with
    | [] => .nothing set.span
    | [item] => item
    | items => .union set.span items.reverse
  match set.left with
  | none => last
  | some (left, operator) => .combined operator left last

/-- Puts in an operator; `point` is the place behind it. -/
def operate (set : OpenSet) (operator : SetOperator) (point : Span) : OpenSet :=
  { set with left := some (set.content, operator), span := point, items := [] }

def pushChar (set : OpenSet) (x : Char) (c : Cursor) : OpenSet :=
  set.push (.one { span := c.charSpan, char := x })

end OpenSet

namespace Cursor

/-! ## Opening brackets -/

/-- Passes over dashes, which stand for themselves at the beginning. -/
def readDashes (start : Position) (set : OpenSet) (c : Cursor) :
    Except Fault (OpenSet × Cursor) :=
  match _h : c.rest with
  | '-' :: _ =>
      let d := c.nextSign
      if d.atEnd then fail .classUnclosed (.point start)
      else readDashes start (set.pushChar '-' c) d
  | _ => .ok (set, c)
  termination_by c.rest.length
  decreasing_by exact length_nextSign (by simp [_h])

/-- Reads an opening bracket and the signs that have a meaning of their own only behind it. -/
def readOpeningBracket (c : Cursor) : Except Fault (OpenSet × Cursor) := do
  let start := c.position
  let going (c : Cursor) : Except Fault Cursor :=
    if c.atEnd then fail .classUnclosed (c.since start) else .ok c
  let d ← going c.nextSign
  let complement := d.rest.head? = some '^'
  let d ← if complement then going d.nextSign else .ok d
  let (set, d) ← d.readDashes start { opening := d.point, complement, span := d.point }
  -- a closing bracket that comes first stands for itself
  if set.items.isEmpty ∧ d.rest.head? = some ']' then
    let e ← going d.nextSign
    return ({ set.pushChar ']' d with opening := e.since start }, e)
  else return ({ set with opening := d.since start }, d)

/-- The named set that comes next, if one does, and the cursor behind it. -/
def namedSet? (c : Cursor) : Option (SetPattern × Cursor) :=
  match c.rest with
  | '[' :: ':' :: rest => do
      let complement := rest.head? = some '^'
      let signs := if complement then rest.tail else rest
      let name := signs.takeWhile (· != ':')
      let set ← NamedSet.all.find? (·.name == String.ofList name)
      if [':', ']'].isPrefixOf (signs.drop name.length) then
        let d := c.skip (name.length + if complement then 5 else 4)
        some (.named (d.since c.position) complement set, d)
      else none
  | _ => none

/-! ## Items -/

def readMember (c : Cursor) : Except Fault (Pattern × Cursor) :=
  match c.rest with
  | '\\' :: _ => c.readEscape
  | x :: _ => .ok (.literal { span := c.charSpan, char := x }, c.next)
  | [] => .ok (.empty c.point, c)

def setOf : Pattern → Except Fault SetPattern
  | .literal l => .ok (.one l)
  | .set set => .ok set
  | other => fail .classEscape other.span

def boundOf : Pattern → Except Fault Literal
  | .literal l => .ok l
  | other => fail .classRangeEnd other.span

/-- Reads a character, an escape or a range; `opening` is the bracket that is open. -/
def readItem (opening : Span) (c : Cursor) : Except Fault (SetPattern × Cursor) := do
  let (first, c) ← c.readMember
  let c := c.skipBlanks
  if c.atEnd then fail .classUnclosed opening
  else if c.rest.head? != some '-' || c.peek = some ']' || c.peek = some '-' then
    return (← setOf first, c)
  else
    let c := c.nextSign
    if c.atEnd then fail .classUnclosed opening
    else
      let (last, c) ← c.readMember
      let span : Span := ⟨first.span.start, last.span.stop⟩
      let first ← boundOf first
      let last ← boundOf last
      if first.char ≤ last.char then return (.range span first last, c)
      else fail .classRange span

/-! ## Sets -/

/-- Reads on within brackets; `outer` are the brackets around the innermost ones. Every turn reads a
character at least, so as many turns as there are characters are enough. -/
def readSet : Nat → List OpenSet → OpenSet → Cursor → Except Fault (SetPattern × Cursor)
  | 0, _, set, _ => fail .classUnclosed set.opening
  | turns + 1, outer, set, c =>
      let c := c.skipBlanks
      let operate (operator : SetOperator) : Except Fault (SetPattern × Cursor) :=
        let d := c.skip 2
        readSet turns outer (set.operate operator d.point) d
      match c.rest with
      | [] => fail .classUnclosed set.opening
      | '[' :: _ =>
          match c.namedSet? with
          | some (named, d) => readSet turns outer (set.push named) d
          | none => do
              let (inner, d) ← c.readOpeningBracket
              readSet turns (set :: outer) inner d
      | ']' :: _ =>
          let d := c.next
          let closed := .brackets (d.since set.opening.start) set.complement set.content
          match outer with
          | [] => .ok (closed, d)
          | parent :: outer => readSet turns outer (parent.push closed) d
      | '&' :: '&' :: _ => operate .intersection
      | '-' :: '-' :: _ => operate .difference
      | '~' :: '~' :: _ => operate .symmetricDifference
      | _ => do
          let (item, d) ← c.readItem set.opening
          readSet turns outer (set.push item) d

def readBrackets (c : Cursor) : Except Fault (Pattern × Cursor) := do
  let (set, d) ← c.readOpeningBracket
  let (closed, d) ← d.readSet (d.rest.length + 1) [] set
  return (.set closed, d)

end Cursor
end Regex
end TicMeter
