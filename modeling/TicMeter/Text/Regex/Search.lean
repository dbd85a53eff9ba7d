import TicMeter.Text.Regex

/-!
# Search — expressions in a text

A search walks over the places of a text once. At each place it knows by marks where within the
expression the matches stand that are under way; `Regex.advance` lets them take the next character.
A repetition keeps the number of turns that are left with its marks, so even a large one is never
spelled out.
-/

namespace TicMeter
namespace Regex

/-! ## Turns -/

/-- How many more times something may be repeated, without a bound if there is no greatest
number. -/
structure TurnsLeft where
  least : Nat
  most : Option Nat
  deriving DecidableEq, Repr

namespace TurnsLeft

def reaches : Option Nat → Option Nat → Bool
  | none, _ => true
  | some _, none => false
  | some m, some n => n ≤ m

/-- Whether whatever suits `b` suits `a`. -/
def covers (a b : TurnsLeft) : Bool :=
  a.least ≤ b.least && reaches a.most b.most

/-- Turns are listed by falling greatest numbers and then by rising least ones. -/
def comesBefore (a b : TurnsLeft) : Bool :=
  if a.most = b.most then a.least < b.least else reaches a.most b.most

/-- What is left behind one more turn. If turns may pass without characters here, none of the later
ones is needed. -/
def next? (passes : Bool) (left : TurnsLeft) : Option TurnsLeft :=
  if left.most = some 0 then none
  else some ⟨if passes then 0 else left.least - 1, left.most.map (· - 1)⟩

end TurnsLeft

/-- A turn of a repetition that is under way, with the marks in it. -/
structure Turn (α : Type) where
  left : TurnsLeft
  marks : α

namespace Turn

variable {α : Type}

/-- Joins a turn and later ones with another list, by a function that does so for the later
ones. -/
def weave (union : α → α → α) (turn : Turn α) (joinLater : List (Turn α) → List (Turn α)) :
    List (Turn α) → List (Turn α)
  | [] => turn :: joinLater []
  | other :: rest =>
      if turn.left = other.left then ⟨turn.left, union turn.marks other.marks⟩ :: joinLater rest
      else if turn.left.comesBefore other.left then turn :: joinLater (other :: rest)
      else other :: weave union turn joinLater rest

/-- The turns of two lists in order. Turns with as many turns left become one, with the marks of
both. -/
def join (union : α → α → α) : List (Turn α) → List (Turn α) → List (Turn α)
  | [] => fun turns => turns
  | turn :: later => weave union turn (join union later)

def covers (within : α → α → Bool) (a b : Turn α) : Bool :=
  a.left.covers b.left && within b.marks a.marks

def thin (within : α → α → Bool) (turn : Turn α) : List (Turn α) → List (Turn α)
  | [] => [turn]
  | other :: rest =>
      if turn.covers within other then thin within turn rest
      else turn :: thin within other rest

def prune (within : α → α → Bool) : List (Turn α) → List (Turn α)
  | [] => []
  | turn :: rest => thin within turn rest

end Turn

/-! ## Marks -/

/-- Where in an expression matches stand that have just taken a character. -/
def Marks : Regex → Type
  -- the characters that are still to come, fewer and fewer
  | .literal _ => List (List Char)
  | .oneOf _ _ => Option Unit
  | .look _ => Unit
  | .seq a b | .either a b => Option (a.Marks × b.Marks)
  | .times a _ _ _ => List (Turn a.Marks)
  | .captured _ a => a.Marks

namespace Marks

def nowhere : (r : Regex) → r.Marks
  | .literal _ => ([] : List (List Char))
  | .oneOf _ _ => (none : Option Unit)
  | .look _ => ()
  | .seq a b | .either a b => (none : Option (a.Marks × b.Marks))
  | .times a _ _ _ => ([] : List (Turn a.Marks))
  | .captured _ a => nowhere a

def isNowhere : (r : Regex) → r.Marks → Bool
  | .literal _, (rests : List (List Char)) => rests.isEmpty
  | .oneOf _ _, (mark : Option Unit) => mark.isNone
  | .look _, _ => true
  | .seq _ _, (marks : Option _) | .either _ _, (marks : Option _) => marks.isNone
  | .times _ _ _ _, (turns : List _) => turns.isEmpty
  | .captured _ a, marks => isNowhere a marks

def pair (a b : Regex) (ma : a.Marks) (mb : b.Marks) : Option (a.Marks × b.Marks) :=
  if isNowhere a ma && isNowhere b mb then none else some (ma, mb)

/-- Whether other marks reach all that some marks reach. -/
def within : (r : Regex) → r.Marks → r.Marks → Bool
  | .literal _, (xs : List (List Char)), (ys : List (List Char)) => xs.all ys.contains
  | .oneOf _ _, (x : Option Unit), (y : Option Unit) => x.isNone || y.isSome
  | .look _, _, _ => true
  | .seq a b, (xs : Option (a.Marks × b.Marks)), (ys : Option (a.Marks × b.Marks))
  | .either a b, (xs : Option (a.Marks × b.Marks)), (ys : Option (a.Marks × b.Marks)) =>
      match xs, ys with
      | none, _ => true
      | some _, none => false
      | some (xa, xb), some (ya, yb) => within a xa ya && within b xb yb
  | .times a _ _ _, (xs : List (Turn a.Marks)), (ys : List (Turn a.Marks)) =>
      xs.all fun x => ys.any fun y => y.covers (within a) x
  | .captured _ a, xs, ys => within a xs ys

/-- The lists of two that are in order of falling length. All of them are tails of one list. -/
def unionRests (xs ys : List (List Char)) : List (List Char) :=
  (xs.merge ys fun a b => b.length ≤ a.length).eraseReps

/-- The marks of both. A turn is left out if the one before it reaches all that it reaches. -/
def union : (r : Regex) → r.Marks → r.Marks → r.Marks
  | .literal _, (xs : List (List Char)), (ys : List (List Char)) => unionRests xs ys
  | .oneOf _ _, (x : Option Unit), (y : Option Unit) => (x.or y : Option Unit)
  | .look _, _, _ => ()
  | .seq a b, (xs : Option (a.Marks × b.Marks)), (ys : Option (a.Marks × b.Marks))
  | .either a b, (xs : Option (a.Marks × b.Marks)), (ys : Option (a.Marks × b.Marks)) =>
      match xs, ys with
      | none, marks | marks, none => (marks : Option (a.Marks × b.Marks))
      | some (xa, xb), some (ya, yb) => some (union a xa ya, union b xb yb)
  | .times a _ _ _, (xs : List (Turn a.Marks)), (ys : List (Turn a.Marks)) =>
      Turn.prune (within a) (Turn.join (union a) xs ys)
  | .captured _ a, xs, ys => union a xs ys

end Marks

/-! ## Matching -/

/-- What is left of some characters if the first of them comes next. -/
def taken? (after : Option Char) : List Char → Option (List Char)
  | [] => none
  | c :: cs => if after = some c then some cs else none

/-- Lets matches take the character after a place, which may be the end of the text. Matches that
stand at the end of the expression before that are reported, and `entered` tells whether matches
begin at this place. -/
def advance (before after : Option Char) : (r : Regex) → Bool → r.Marks → r.Marks × Bool
  | .literal chars, entered, (rests : List (List Char)) =>
      let rests := if entered then chars :: rests else rests
      (rests.filterMap (taken? after), rests.any List.isEmpty)
  | .oneOf chars _, entered, (mark : Option Unit) =>
      ((if entered && after.any chars.holds then some () else none : Option Unit), mark.isSome)
  | .look condition, entered, _ => ((), entered && condition.holds before after)
  | .seq a b, entered, (marks : Option (a.Marks × b.Marks)) =>
      if !entered && marks.isNone then ((none : Option (a.Marks × b.Marks)), false)
      else
        let (ma, mb) := marks.getD (Marks.nowhere a, Marks.nowhere b)
        let (ma, passed) := a.advance before after entered ma
        let (mb, ended) := b.advance before after passed mb
        (Marks.pair a b ma mb, ended)
  | .either a b, entered, (marks : Option (a.Marks × b.Marks)) =>
      if !entered && marks.isNone then ((none : Option (a.Marks × b.Marks)), false)
      else
        let (ma, mb) := marks.getD (Marks.nowhere a, Marks.nowhere b)
        let (ma, endedA) := a.advance before after entered ma
        let (mb, endedB) := b.advance before after entered mb
        (Marks.pair a b ma mb, endedA || endedB)
  | .times a least most greedy, entered, (turns : List (Turn a.Marks)) =>
      if !entered && turns.isEmpty then (([] : List (Turn a.Marks)), false)
      else
        let (fresh, passes) := a.advance before after true (Marks.nowhere a)
        let steps := turns.map fun turn => (turn.left, a.advance before after false turn.marks)
        let kept := steps.filterMap fun (left, marks, _) =>
          if Marks.isNowhere a marks then none else some (⟨left, marks⟩ : Turn a.Marks)
        let ended := steps.filterMap fun (left, _, ended) => if ended then some left else none
        -- a match that enters has all turns left, as if one had just ended
        let whole : List TurnsLeft := if entered then [⟨least, most⟩] else []
        let begun (lefts : List TurnsLeft) : List (Turn a.Marks) :=
          if Marks.isNowhere a fresh then []
          else (lefts.filterMap (·.next? passes)).map fun left => ⟨left, fresh⟩
        let union := Marks.union (.times a least most greedy)
        (union (begun whole) (union (begun ended) kept),
          (whole ++ ended).any fun left => passes || left.least = 0)
  | .captured _ a, entered, marks => a.advance before after entered marks

/-- Whether a match that is under way, or one that begins at a later place, comes to its end. -/
def search (r : Regex) (before : Option Char) (marks : r.Marks) (rest : List Char) : Bool :=
  let (marks, ended) := r.advance before rest.head? true marks
  ended ||
    match rest with
    | [] => false
    | c :: rest => r.search (some c) marks rest

def occursIn (r : Regex) (text : String) : Bool :=
  r.search none (Marks.nowhere r) text.toList

end Regex
end TicMeter
