/-!
# Room — how much room an automaton takes

An automaton has states of 32 bytes, numbered in the order in which they are placed; a state with
several ways out takes more for each of them. What is placed when there is no room left counts no
more, so that even a repetition without end is given up in time.
-/

namespace TicMeter
namespace Regex

def stateSize : Nat := 32

/-- The bytes of a way out of a state that reads no byte. -/
def linkSize : Nat := 4

/-- The bytes of a way out of a state that reads a byte. -/
def rangeSize : Nat := 8

def sizeLimit : Nat := 10485760

structure Room where
  states : Nat
  /-- the bytes for ways out of the states -/
  extra : Nat
  deriving DecidableEq, Repr

namespace Room

def bytes (room : Room) : Nat := stateSize * room.states + room.extra

def isFull (room : Room) : Bool := sizeLimit < room.bytes

def add (room : Room) (states extra : Nat) : Room := ⟨room.states + states, room.extra + extra⟩

/-- Places the same `n` times, as long as there is room; `link` bytes come before each. -/
def copies (place : Room → Room) (link : Nat) : Nat → Room → Room
  | 0, room => room
  | n + 1, room =>
      if room.isFull then room else copies place link n (place (room.add 0 link))

/-- Places the same `n` times in a row, with `link` bytes between each two. Nothing at all takes a
state too. -/
def row (place : Room → Room) (link : Nat) : Nat → Room → Room
  | 0, room => room.add 1 0
  | n + 1, room => copies place link n (place room)

end Room
end Regex
end TicMeter
