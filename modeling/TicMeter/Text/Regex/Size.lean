import TicMeter.Text.Regex
import TicMeter.Text.Regex.SetStates
import TicMeter.Text.Regex.Trie

/-!
# Size — how much room an expression takes as an automaton

An automaton reads bytes, forwards or backwards. `Regex.place` goes through an expression in the
order in which its states are placed, with a repetition written out as often as its bounds ask for.
Expressions that take too much are refused.
-/

namespace TicMeter
namespace Regex

/-! ## Ends of expressions -/

def minLength? : Regex → Option Nat
  | .literal chars => some chars.length
  | .look _ => some 0
  | .oneOf chars _ => if chars.isEmpty then none else some 1
  | .seq a b => do return (← a.minLength?) + (← b.minLength?)
  | .either a b => do return min (← a.minLength?) (← b.minLength?)
  | .times a least _ _ => a.minLength?.map (· * least)
  | .captured _ a => a.minLength?

def takesSome (r : Regex) : Bool := r.minLength?.any (0 < ·)

/-- Whether the last state has several ways out, so that going on from it takes a link. -/
def endsInChoice (direction : Direction) : Regex → Bool
  | .literal _ | .look _ | .oneOf _ _ | .either _ _ => false
  | .seq a b =>
      match direction with
      | .forwards => b.endsInChoice direction
      | .backwards => a.endsInChoice direction
  | .times a least most _ =>
      match most with
      | some most => least = most && a.endsInChoice direction
      | none => 0 < least || a.takesSome
  | .captured _ a => direction = .backwards && a.endsInChoice direction

def endSize (direction : Direction) (r : Regex) : Nat :=
  if r.endsInChoice direction then linkSize else 0

/-- What is known of the beginning of an expression, or backwards of its end. -/
structure Edge where
  /-- whether it only matches where a certain condition is met -/
  needed : Bool
  /-- whether it takes no characters, so that what lies beyond it counts too -/
  takesNone : Bool
  deriving DecidableEq, Repr

namespace Edge

def andThen (a b : Edge) : Edge :=
  ⟨a.needed || (a.takesNone && b.needed), a.takesNone && b.takesNone⟩

end Edge

/-- What is known of an expression where it is read first, with a view to a condition. -/
def edge (direction : Direction) (condition : Look) : Regex → Edge
  | .literal chars => ⟨false, chars.isEmpty⟩
  | .oneOf _ _ => ⟨false, false⟩
  | .look c => ⟨c = condition, true⟩
  | .seq a b =>
      match direction with
      | .forwards => (a.edge direction condition).andThen (b.edge direction condition)
      | .backwards => (b.edge direction condition).andThen (a.edge direction condition)
  | .either a b =>
      let (a, b) := (a.edge direction condition, b.edge direction condition)
      ⟨a.needed && b.needed, a.takesNone && b.takesNone⟩
  | .times a least most _ =>
      let a := a.edge direction condition
      ⟨0 < least && a.needed, most.isSome && a.takesNone⟩
  | .captured _ a => a.edge direction condition

/-! ## Placing -/

/-- Places a repetition of what `place` places, with `link` bytes behind it; `takesSome` tells
whether it must take a character. -/
def placeTimes (place : Room → Room) (link : Nat) (takesSome : Bool) (least : Nat)
    (most : Option Nat) (room : Room) : Room :=
  match most with
  | some most =>
      if least = most then room.row place link least
      else if least = 0 ∧ most = 1 then (place (room.add 1 0)).add 1 (2 * linkSize + link)
      else
        -- each further turn may be left out by a link to one common state
        let turn (room : Room) : Room := (place (room.add 1 0)).add 0 (2 * linkSize + link)
        ((room.row place link least).add 1 (if least = 0 then 0 else link)).copies turn 0
          (most - least)
  | none =>
      if 0 < least then (room.row place link least).add 1 (linkSize + link)
      else if takesSome then (place (room.add 1 0)).add 0 (linkSize + link)
      else (place room).add 3 (4 * linkSize + link)

/-- The strings that an expression chooses from if all its alternatives are plain characters. -/
def strings? : Regex → Option (List (List Char))
  | .literal chars => if chars.isEmpty then none else some [chars]
  | .either (.literal chars) b =>
      if chars.isEmpty then none else b.strings?.map (chars :: ·)
  | _ => none

def bytesOf (direction : Direction) (chars : List Char) : List UInt8 :=
  let bytes := chars.flatMap String.utf8EncodeChar
  match direction with
  | .forwards => bytes
  | .backwards => bytes.reverse

def isEither : Regex → Bool
  | .either _ _ => true
  | _ => false

/-- Places the states for an expression, or for the alternatives of one of which `before` have been
placed. The states that join alternatives come behind the second one. -/
def place (direction : Direction) : Regex → (before : Nat) → Room → Room
  | .literal chars, _, room => room.add (max 1 (chars.foldl (· + ·.utf8Size) 0)) 0
  | .look _, _, room => room.add 1 0
  | .oneOf chars _, _, room => placeSet direction chars room
  | .seq a b, _, room =>
      match direction with
      | .forwards => b.place direction 0 ((a.place direction 0 room).add 0 (a.endSize direction))
      | .backwards => a.place direction 0 ((b.place direction 0 room).add 0 (b.endSize direction))
  | .either a b, before, room =>
      match if before = 0 then (Regex.either a b).strings? else none with
      | some strings => Trie.placeAll (strings.map (bytesOf direction)) room
      | none =>
          let joint (second : Bool) : Nat := if second then 2 else 0
          let room := (a.place direction 0 room).add (joint (before = 1))
            (linkSize + a.endSize direction)
          let room := b.place direction (before + 1) room
          if b.isEither then room
          else room.add (joint (before = 0)) (linkSize + b.endSize direction)
  | .times a least most _, _, room =>
      placeTimes (a.place direction 0) (a.endSize direction) a.takesSome least most room
  | .captured _ a, _, room =>
      match direction with
      | .forwards => (a.place direction 0 (room.add 1 0)).add 1 (a.endSize direction)
      | .backwards => a.place direction 0 room

/-! ## Limits -/

/-- Places the states of the whole automaton. A match may begin anywhere unless the expression needs
the end of the text that it is read from; behind it are the states that tell of the match. -/
def placeWhole (direction : Direction) (r : Regex) : Room :=
  let start : Look :=
    match direction with
    | .forwards => .textStart
    | .backwards => .textEnd
  let anywhere : Room := ⟨3, rangeSize + 2 * linkSize⟩
  let room := if (r.edge direction start).needed then ⟨1, 0⟩ else anywhere
  match direction with
  | .forwards => (r.place direction 0 (room.add 1 0)).add 2 (r.endSize direction)
  | .backwards => (r.place direction 0 room).add 1 (r.endSize direction)

def fits (direction : Direction) (r : Regex) : Bool := !(r.placeWhole direction).isFull

end Regex
end TicMeter
