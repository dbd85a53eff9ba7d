import TicMeter.Text.Letter
import TicMeter.Text.Regex.Brackets

/-!
# Reader — patterns from their text

A text is read sign by sign, with the groups that are open held on a stack. The first fault ends the
reading; only a text without faults is looked through for parts that are nested too deep.
-/

namespace TicMeter
namespace Regex
namespace Cursor

/-! ## Groups -/

abbrev GroupName := List Char × Span

def isNameStart (x : Char) : Bool :=
  x = '_' || Text.isLetter x

def isNameChar (x : Char) : Bool :=
  x = '_' || x = '.' || x = '[' || x = ']' || Text.isLetter x || Text.isNumeral x

/-- Reads the name of a group. No two groups may have one name. -/
def readName (names : List GroupName) (c : Cursor) : Except Fault (GroupName × Cursor) :=
  let start := c.position
  match c.rest with
  | [] => fail .nameUnclosed c.point
  | x :: _ =>
      if x != '>' && !isNameStart x then fail .nameCharacter c.charSpan
      else
        let name := c.rest.takeWhile isNameChar
        let d := c.skip name.length
        match d.rest with
        | [] => fail .nameUnclosed d.point
        | '>' :: _ =>
            if name.isEmpty then fail .nameEmpty (.point start)
            else
              let span := d.since start
              match names.find? (·.1 == name) with
              | some (_, other) => .error ⟨.nameRepeated, span, some other⟩
              | none => .ok ((name, span), d.next)
        | _ => fail .nameCharacter d.charSpan

/-- Reads flags up to a colon or a closing parenthesis. The dash, which stands before flags that are
cleared, is none of them. -/
def readFlags (seen : List (Option Flag × Span)) (c : Cursor) :
    Except Fault (List (Option Flag × Span) × Cursor) :=
  match _h : c.rest with
  | [] => fail .flagUnfinished c.point
  | x :: _ =>
      if x = ':' || x = ')' then .ok (seen, c)
      else
        let flag? := Flag.ofChar? x
        if x != '-' && flag?.isNone then fail .flagUnknown c.charSpan
        else
          match seen.find? (·.1 == flag?) with
          | some (_, other) =>
              let cause : Cause := if flag?.isNone then .negationRepeated else .flagRepeated
              .error ⟨cause, c.charSpan, some other⟩
          | none => readFlags (seen ++ [(flag?, c.charSpan)]) c.next
  termination_by c.rest.length
  decreasing_by
    rw [next, length_skip, _h]
    simp

/-- What flags change: those after a dash are cleared. -/
def changesOf (seen : List (Option Flag × Span)) : FlagChanges :=
  let flags (on : Bool) (items : List (Option Flag × Span)) : FlagChanges :=
    items.filterMap fun (flag?, _) => flag?.map (·, on)
  flags true (seen.takeWhile (·.1.isSome)) ++ flags false (seen.dropWhile (·.1.isSome))

def readChanges (c : Cursor) : Except Fault (FlagChanges × Cursor) := do
  let (seen, d) ← c.readFlags []
  match seen.getLast? with
  | some (none, dash) => fail .flagDangling dash
  | _ => return (changesOf seen, d)

inductive Opening
  /-- changes of flags for the rest of the group around -/
  | flags (item : Pattern) (changes : FlagChanges)
  | group (kind : GroupKind) (name? : Option GroupName)
  deriving Repr

def readOpening (names : List GroupName) (c : Cursor) : Except Fault (Opening × Cursor) :=
  let d := c.nextSign
  match ["?=", "?!", "?<=", "?<!"].findSome? (eat? · d) with
  | some e => fail .lookAround (e.since c.position)
  | none =>
      match ["?P<", "?<"].findSome? (eat? · d), d.eat? "?" with
      | some e, _ => do
          let (name, e) ← e.readName names
          return (.group .captured (some name), e)
      | none, none => .ok (.group .captured none, d)
      | none, some e =>
          if e.atEnd then fail .groupUnclosed c.charSpan
          else do
            let (changes, e) ← e.readChanges
            if e.rest.head? = some ':' then return (.group (.plain changes) none, e.next)
            else if changes.isEmpty then fail .repetitionOfNothing d.point
            else return (.flags (.flags (e.next.since c.position) changes) changes, e.next)

/-! ## Repetitions -/

/-- Reads a number, with white space around it. Whether it is one is left for later. -/
def readDecimal (c : Cursor) : Except Fault Nat × Cursor :=
  let c := c.skipSpace
  let (digits, d) := c.takeSigns Char.isDigit
  let n := Nat.ofDigitChars 10 digits 0
  let number :=
    if digits.isEmpty then fail .repetitionNumber (d.since c.position)
    else if n < UInt32.size then .ok n
    else fail .decimalTooLarge (d.since c.position)
  (number, d.skipSpace)

structure Bounds where
  least : Nat
  most : Option Nat
  isLazy : Bool := false
  deriving DecidableEq, Repr

/-- Reads the sign behind bounds that asks for few turns. -/
def readLazy (bounds : Bounds) (c : Cursor) : Bounds × Cursor :=
  if c.rest.head? = some '?' then ({ bounds with isLazy := true }, c.next) else (bounds, c)

def readBounds (c : Cursor) : Except Fault (Bounds × Cursor) := do
  let start := c.position
  let going (c : Cursor) : Except Fault Cursor :=
    if c.atEnd then fail .repetitionUnclosed (c.since start) else .ok c
  let d ← going c.nextSign
  let (least, d) := d.readDecimal
  let d ← going d
  let (bounds, d) ←
    if d.rest.head? = some ',' then do
      let e ← going d.nextSign
      let least ← least
      if e.rest.head? = some '\x7d' then pure (({ least, most := none } : Bounds), e)
      else
        let (most, e) := e.readDecimal
        let most ← most
        pure ({ least, most }, e)
    else do
      let exactly ← least
      pure ({ least := exactly, most := exactly }, d)
  if d.rest.head? != some '\x7d' then fail .repetitionUnclosed (d.since start)
  else
    let (bounds, d) := d.nextSign.readLazy bounds
    if bounds.most.any (· < bounds.least) then fail .repetitionRange (d.since start)
    else return (bounds, d)

def bounds? : Char → Option Bounds
  | '?' => some { least := 0, most := some 1 }
  | '*' => some { least := 0, most := none }
  | '+' => some { least := 1, most := none }
  | _ => none

def readRepetition? (c : Cursor) : Option (Except Fault (Bounds × Cursor)) :=
  match c.rest with
  | '\x7b' :: _ => some c.readBounds
  | x :: _ => (bounds? x).map fun bounds => .ok (c.next.readLazy bounds)
  | [] => none

/-! ## Levels -/

/-- What has been read of a group: its branches, and the items of the one that is not finished. -/
structure Level where
  start : Position
  /-- the last first -/
  branches : List Pattern := []
  branchStart : Position
  /-- the last first -/
  items : List Pattern := []
  deriving Repr

namespace Level

def startingAt (start : Position) : Level := { start, branchStart := start }

def push (level : Level) (item : Pattern) : Level :=
  { level with items := item :: level.items }

def branchesTo (level : Level) (stop : Position) : List Pattern :=
  .ofItems ⟨level.branchStart, stop⟩ level.items :: level.branches

def bar (level : Level) (stop next : Position) : Level :=
  { level with branches := level.branchesTo stop, branchStart := next, items := [] }

def close (level : Level) (stop : Position) : Pattern :=
  .ofBranches ⟨level.start, stop⟩ (level.branchesTo stop)

/-- Repeats the last item; `c` stands before the repetition. -/
def repeated (level : Level) (c : Cursor) (reading : Except Fault (Bounds × Cursor)) :
    Except Fault (Level × Cursor) :=
  match level.items with
  | item :: items =>
      if item.canRepeat then do
        let (bounds, d) ← reading
        let span := d.since item.span.start
        let item : Pattern := .times span item bounds.least bounds.most bounds.isLazy
        return ({ level with items := item :: items }, d)
      else fail .repetitionOfNothing c.point
  | [] => fail .repetitionOfNothing c.point

end Level

structure OpenGroup where
  opening : Span
  kind : GroupKind
  /-- whether blanks have no meaning around it -/
  spacious : Bool
  outer : Level
  deriving Repr

/-! ## Patterns -/

def withChanges (changes : FlagChanges) (c : Cursor) : Cursor :=
  match changes.find? (·.1 == .spacious) with
  | some (_, on) => { c with spacious := on }
  | none => c

/-- Reads one item that is no group. -/
def readAtom (c : Cursor) : Except Fault (Pattern × Cursor) :=
  match c.rest with
  | '[' :: _ => c.readBrackets
  | '\\' :: _ => c.readEscape
  | '.' :: _ => .ok (.dot c.charSpan, c.next)
  | '^' :: _ => .ok (.anchor c.charSpan .lineStart, c.next)
  | '$' :: _ => .ok (.anchor c.charSpan .lineEnd, c.next)
  | x :: _ => .ok (.literal { span := c.charSpan, char := x }, c.next)
  | [] => .ok (.empty c.point, c)

/-- Reads on in the innermost group. Every turn reads a character at least. -/
def readPattern : Nat → List OpenGroup → List GroupName → Level → Cursor → Except Fault Pattern
  | 0, _, _, level, c => .ok (level.close c.position)
  | turns + 1, groups, names, level, c =>
      let c := c.skipBlanks
      match c.rest with
      | [] =>
          match groups with
          | [] => .ok (level.close c.position)
          | group :: _ => fail .groupUnclosed group.opening
      | '(' :: _ => do
          let (opening, d) ← c.readOpening names
          match opening with
          | .flags item changes =>
              readPattern turns groups names (level.push item) (d.withChanges changes)
          | .group kind name? =>
              let group : OpenGroup := ⟨c.charSpan, kind, c.spacious, level⟩
              let d :=
                match kind with
                | .captured => d
                | .plain changes => d.withChanges changes
              readPattern turns (group :: groups) (name?.toList ++ names) (.startingAt d.position) d
      | ')' :: _ =>
          match groups with
          | [] => fail .groupUnopened c.charSpan
          | group :: groups =>
              -- a change of the blanks ends with the group that it was made in
              let d := { c.next with spacious := group.spacious }
              let body := level.close c.position
              let item : Pattern := .group (d.since group.opening.start) group.kind body
              readPattern turns groups names (group.outer.push item) d
      | '|' :: _ =>
          readPattern turns groups names (level.bar c.position c.next.position) c.next
      | _ =>
          match c.readRepetition? with
          | some reading => do
              let (level, d) ← level.repeated c reading
              readPattern turns groups names level d
          | none => do
              let (item, d) ← c.readAtom
              readPattern turns groups names (level.push item) d

end Cursor

def Pattern.ofText (text : String) : Except Fault Pattern := do
  let c := Cursor.ofText text
  let pattern ← c.readPattern (c.rest.length + 1) [] [] (.startingAt c.position)
  match pattern.below? nestLimit with
  | some span => .error { cause := .nestedTooDeep, span }
  | none => return pattern

end Regex
end TicMeter
