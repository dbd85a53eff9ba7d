/-!
# CharSet — sets of characters

A set is kept as the runs of its numbers: rising, with a gap between each two. Sets are then equal
when their runs are, and every operation works on runs.
-/

namespace TicMeter

/-- The characters whose numbers lie in one of the runs. -/
structure CharSet where
  runs : List (Nat × Nat)
  deriving DecidableEq, Repr

namespace CharSet

def top : Nat := 0x10FFFF

def holds (set : CharSet) (c : Char) : Bool :=
  set.runs.any fun (first, last) => first ≤ c.toNat && c.toNat ≤ last

/-! ## Making sets -/

def empty : CharSet := ⟨[]⟩

def range (first last : Char) : CharSet := ⟨[(first.toNat, last.toNat)]⟩

def one (c : Char) : CharSet := range c c

/-- Puts a run among others, together with those that it touches. -/
def insertRun (first last : Nat) : List (Nat × Nat) → List (Nat × Nat)
  | [] => [(first, last)]
  | (a, b) :: rest =>
      if last + 1 < a then (first, last) :: (a, b) :: rest
      else if b + 1 < first then (a, b) :: insertRun first last rest
      else insertRun (min first a) (max last b) rest

def union (a b : CharSet) : CharSet :=
  ⟨b.runs.foldl (fun runs (first, last) => insertRun first last runs) a.runs⟩

def ofRanges (ranges : List (Char × Char)) : CharSet :=
  ranges.foldl (fun set (first, last) => set.union (range first last)) empty

/-- The number of the next character. The numbers of surrogates are passed over. -/
def above (n : Nat) : Nat := if n = 0xD7FF then 0xE000 else n + 1

def below (n : Nat) : Nat := if n = 0xE000 then 0xD7FF else n - 1

/-- The gaps between runs and behind the last of them. Two runs may meet at the surrogates; the
ends of the gap between them are crossed. -/
def gapsBehind : List (Nat × Nat) → List (Nat × Nat)
  | [] => []
  | [(_, last)] => if last < top then [(above last, top)] else []
  | (_, last) :: (first, last') :: rest =>
      (above last, below first) :: gapsBehind ((first, last') :: rest)

def gaps (set : CharSet) : List (Nat × Nat) :=
  match set.runs with
  | [] => [(0, top)]
  | (first, last) :: rest =>
      (if 0 < first then [(0, below first)] else []) ++ gapsBehind ((first, last) :: rest)

/-- The characters in the gaps of a set. A gap with crossed ends holds both. -/
def complement (set : CharSet) : CharSet :=
  ⟨set.gaps.map fun (a, b) => (min a b, max a b)⟩

def inter (a b : CharSet) : CharSet :=
  ⟨a.runs.flatMap fun (first, last) => b.runs.filterMap fun (first', last') =>
    let low := max first first'
    let high := min last last'
    if low ≤ high then some (low, high) else none⟩

/-- What a set holds and another does not. A gap with crossed ends has no part in it. -/
def difference (a b : CharSet) : CharSet := a.inter ⟨b.gaps⟩

/-! ## Asking about sets -/

def isEmpty (set : CharSet) : Bool := set.runs.isEmpty

def isAscii (set : CharSet) : Bool := set.runs.all fun (_, last) => last < 0x80

def single? (set : CharSet) : Option Char :=
  match set.runs with
  | [(first, last)] => if first = last then some (Char.ofNat first) else none
  | _ => none

/-! ## ASCII letters -/

def upperLetters : CharSet := range 'A' 'Z'

def lowerLetters : CharSet := range 'a' 'z'

def shift (set : CharSet) (step : Nat → Nat) : CharSet :=
  ⟨set.runs.map fun (first, last) => (step first, step last)⟩

def foldCase (set : CharSet) : CharSet :=
  (set.union ((set.inter upperLetters).shift (· + 32))).union
    ((set.inter lowerLetters).shift (· - 32))

end CharSet
end TicMeter
