import TicMeter.Text.Regex.Room

/-!
# Trie — byte strings by their common beginnings

The alternatives of an expression that are all plain characters share the states of their common
beginnings. Alternatives are tried in their order, so what is added behind a string that has ended
is kept apart from what was there before.
-/

namespace TicMeter
namespace Regex

/-- What strings may go on with at a place, the latest first. -/
inductive Trie
  | nil
  /-- a byte, with what follows it -/
  | edge (byte : UInt8) (child next : Trie)
  /-- a string ends here -/
  | mark (next : Trie)
  deriving DecidableEq, Repr

namespace Trie

/-- The place where a string begins that has nothing in common with others. -/
def ofBytes : List UInt8 → Trie
  | [] => .mark .nil
  | b :: bs => .edge b (ofBytes bs) .nil

/-- Adds a string. Only edges behind the last end of a string are shared. -/
def insert : Trie → List UInt8 → Trie
  | .nil, [] | .mark .nil, [] => .mark .nil
  | t, [] => .mark t
  | .edge c child next, b :: bs =>
      if b = c then .edge c (child.insert bs) next else .edge c child (next.insert (b :: bs))
  | t, b :: bs => .edge b (ofBytes bs) t

def ofList (strings : List (List UInt8)) : Trie := strings.foldl insert .nil

def isLeaf : Trie → Bool
  | .nil | .mark .nil => true
  | _ => false

/-- Places the state for `n` edges and the link to it. A single edge needs no list of ways out. -/
def placeEdges (n : Nat) (room : Room) : Room :=
  match n with
  | 0 => room
  | 1 => room.add 1 linkSize
  | n => room.add 1 (linkSize + rangeSize * n)

/-- Places the states of a trie, of which `n` edges of the same state have been seen. Each group of
edges takes a state, and each end of a string a link; what is no leaf takes a state that leads to
these. -/
def place (n : Nat) : Trie → Room → Room
  | .nil, room => placeEdges n room
  | .mark next, room => next.place 0 ((placeEdges n room).add 0 linkSize)
  | .edge _ child next, room =>
      next.place (n + 1) (if child.isLeaf then room else (child.place 0 room).add 1 0)

def placeAll (strings : List (List UInt8)) (room : Room) : Room :=
  ((ofList strings).place 0 room).add 2 0

end Trie
end Regex
end TicMeter
