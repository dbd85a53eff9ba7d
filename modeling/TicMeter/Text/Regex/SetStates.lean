import TicMeter.Text.Regex.ByteSequence
import TicMeter.Text.Regex.Room

/-!
# SetStates — the states for a set of characters

The forms of characters share states: forwards, where the same bytes lead to the same states, and
backwards, where the same bytes have been read. States are found again in a table with a slot for
each, by their numbers; a state may lose its slot to a later one, and what it does is then placed
anew.
-/

namespace TicMeter
namespace Regex

inductive Direction
  | forwards
  | backwards
  deriving DecidableEq, Repr

/-! ## Tables of states -/

/-- A state in its slot, with the numbers that tell what it does. -/
structure SlotEntry where
  slot : Nat
  key : List Nat
  state : Nat
  deriving DecidableEq, Repr

structure StateTable where
  slots : Nat
  /-- at most one for each slot -/
  entries : List SlotEntry := []
  deriving DecidableEq, Repr

namespace StateTable

/-- The slot for some numbers, which they are hashed to in 64 bits. -/
def slotOf (table : StateTable) (key : List Nat) : Nat :=
  let hash := key.foldl (fun hash n => (hash ^^^ n.toUInt64) * 0x100000001B3)
    (0xCBF29CE484222325 : UInt64)
  hash.toNat % table.slots

def find? (table : StateTable) (key : List Nat) : Option Nat :=
  let slot := table.slotOf key
  match table.entries.find? (·.slot == slot) with
  | some entry => if entry.key = key then some entry.state else none
  | none => none

def insert (table : StateTable) (key : List Nat) (state : Nat) : StateTable :=
  let slot := table.slotOf key
  { table with entries := ⟨slot, key, state⟩ :: table.entries.filter (·.slot != slot) }

end StateTable

/-! ## Placing -/

/-- The room that is taken, and the states that may be used again. -/
structure SetStates where
  room : Room
  table : StateTable
  deriving DecidableEq, Repr

namespace SetStates

/-- The state that does what numbers tell. It is placed, with `extra` bytes, unless it is found. -/
def stateFor (key : List Nat) (extra : Nat) (s : SetStates) : Nat × SetStates :=
  match s.table.find? key with
  | some state => (state, s)
  | none =>
      let state := s.room.states
      (state, { room := s.room.add 1 extra, table := s.table.insert key state })

/-- The state that reads sequences of at most so many bytes and then leads to `target`. The states
behind it come first. -/
def readTo (target : Nat) : Nat → List ByteSequence → SetStates → Nat × SetStates
  | 0, _, s => (target, s)
  | length + 1, sequences, s =>
      if sequences.all List.isEmpty then (target, s)
      else
        let groups := sequences.splitBy (·.head? == ·.head?)
        let (key, s) := groups.foldl (fun (key, s) group =>
          let (low, high) := (group.head?.bind List.head?).getD (0, 0)
          let (next, s) := readTo target length (group.map List.tail) s
          (key ++ [low, high, next], s)) ([], s)
        s.stateFor key (rangeSize * groups.length)

def readFrom (target : Nat) (s : SetStates) (sequence : ByteSequence) : SetStates :=
  let (_, s) := sequence.foldl (fun (state, s) (low, high) => s.stateFor [state, low, high] 0)
    (target, s)
  { s with room := s.room.add 0 linkSize }

end SetStates

/-- Places the states for a set. Bytes of ASCII characters take a single state beside the end. -/
def placeSet (direction : Direction) (set : CharSet) (room : Room) : Room :=
  if set.isAscii then room.add 2 (rangeSize * set.runs.length)
  else
    let sequences := ByteSequence.ofSet set
    match direction with
    | .forwards =>
        let s : SetStates := ⟨room.add 1 0, { slots := 10000 }⟩
        (s.readTo room.states ByteSequence.maxLength sequences).2.room
    | .backwards =>
        let s : SetStates := ⟨room.add 2 0, { slots := 1000 }⟩
        (sequences.foldl (SetStates.readFrom (room.states + 1)) s).room

end Regex
end TicMeter
