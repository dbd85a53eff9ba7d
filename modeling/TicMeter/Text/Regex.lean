import TicMeter.Text.CharSet

/-!
# Regex — regular expressions

Expressions are made in a simple form by `Regex.ofSet`, `Regex.sequence`, `Regex.choice` and
`Regex.repeated`: characters in a row are one part, sequences and alternatives lean to the right,
and what all alternatives begin with stands before them.
-/

namespace TicMeter

/-! ## Places -/

/-- The characters that a word or a set is taken from. -/
inductive Alphabet
  | ascii
  | unicode
  deriving DecidableEq, Repr

def isWordChar (c : Char) : Bool :=
  c.isAlphanum || c = '_'

/-- How a place may lie to the words around it. -/
inductive WordPlace
  | boundary
  | noBoundary
  | start
  | stop
  | startHalf
  | stopHalf
  deriving DecidableEq, Repr

namespace WordPlace

/-- Whether a place lies like this if a word does or does not come before it and after it. -/
def holds (before after : Bool) : WordPlace → Bool
  | .boundary => before != after
  | .noBoundary => before == after
  | .start => !before && after
  | .stop => before && !after
  | .startHalf => !before
  | .stopHalf => !after

end WordPlace

/-- A condition on the place between two characters of a text, of which either may be missing. -/
inductive Look
  | textStart
  | textEnd
  | lineStart
  | lineEnd
  /-- where a line starts or ends if a carriage return may end it too -/
  | returnStart
  | returnEnd
  | word (place : WordPlace) (alphabet : Alphabet)
  deriving DecidableEq, Repr

namespace Look

/-- Whether it is known what meets the condition. Words are known in ASCII only. -/
def isDecidable : Look → Bool
  | .word _ .unicode => false
  | _ => true

def holds (before after : Option Char) : Look → Bool
  | .textStart => before.isNone
  | .textEnd => after.isNone
  | .lineStart => before.all (· = '\n')
  | .lineEnd => after.all (· = '\n')
  | .returnStart => before.all fun c => c = '\n' || (c = '\r' && after != some '\n')
  | .returnEnd => after.all fun c => c = '\r' || (c = '\n' && before != some '\r')
  | .word place _ => place.holds (before.any isWordChar) (after.any isWordChar)

end Look

/-! ## Expressions -/

inductive Regex
  /-- characters in a row; nothing at all if there are none -/
  | literal (chars : List Char)
  /-- one character of a set -/
  | oneOf (chars : CharSet) (alphabet : Alphabet)
  | look (condition : Look)
  | seq (a b : Regex)
  | either (a b : Regex)
  /-- so many times in a row, without a bound if there is no greatest number; `greedy` prefers more
  of them -/
  | times (a : Regex) (least : Nat) (most : Option Nat) (greedy : Bool)
  /-- the same in a group that is remembered by its number -/
  | captured (group : Nat) (a : Regex)
  deriving DecidableEq, Repr

namespace Regex

/-- Whether an expression takes no characters wherever it matches. -/
def takesNone : Regex → Bool
  | .literal chars => chars.isEmpty
  | .look _ => true
  | .oneOf _ _ => false
  | .seq a b | .either a b => a.takesNone && b.takesNone
  | .times a _ most _ => most.isSome && a.takesNone
  | .captured _ a => a.takesNone

def isDecidable : Regex → Bool
  | .look condition => condition.isDecidable
  | .seq a b | .either a b => a.isDecidable && b.isDecidable
  | .times a _ _ _ | .captured _ a => a.isDecidable
  | .literal _ | .oneOf _ _ => true

/-! ## Simple forms -/

def never : Regex := .oneOf .empty .ascii

/-- One character of a set. A set of one character is that character. -/
def ofSet (chars : CharSet) (alphabet : Alphabet) : Regex :=
  if chars.isEmpty then never
  else
    match chars.single? with
    | some c => .literal [c]
    | none => .oneOf chars alphabet

/-! ### Sequences -/

def items : Regex → List Regex
  | .literal [] => []
  | .seq a b => a :: b.items
  | a => [a]

/-- Puts a part before others. Characters are joined. -/
def consItem : Regex → List Regex → List Regex
  | .literal cs, .literal ds :: rest => .literal (cs ++ ds) :: rest
  | a, rest => a :: rest

def ofItems : List Regex → Regex
  | [] => .literal []
  | [a] => a
  | a :: b :: rest => .seq a (ofItems (b :: rest))

def sequence (rs : List Regex) : Regex :=
  ofItems ((rs.flatMap items).foldr consItem [])

/-! ### Alternatives -/

def branches : Regex → List Regex
  | .either a b => a :: b.branches
  | a => [a]

def ofBranches : List Regex → Regex
  | [] => never
  | [a] => a
  | a :: b :: rest => .either a (ofBranches (b :: rest))

def charSet? : Regex → Option CharSet
  | .literal [c] => some (.one c)
  | _ => none

/-- The set for an expression that is one character of several. -/
def severalSet? : Regex → Option CharSet
  | .oneOf chars _ => some chars
  | _ => none

/-- One of some alternatives, which have no common beginning. Characters are joined into a set, and
so are sets, but not the ones with the others. -/
def unshared (rs : List Regex) : Regex :=
  match rs.flatMap branches with
  | [a] => a
  | alternatives =>
      match (alternatives.mapM charSet?).or (alternatives.mapM severalSet?) with
      | some sets => ofSet (sets.foldl CharSet.union .empty) .unicode
      | none => ofBranches alternatives

def commonItems : List Regex → List Regex → List Regex
  | a :: as, b :: bs => if a = b then a :: commonItems as bs else []
  | _, _ => []

/-- The parts that all of some sequences begin with. Only sequences of several parts share any. -/
def sharedItems (rows : List (List Regex)) : List Regex :=
  match rows with
  | row :: row' :: rest =>
      if rows.all (2 ≤ ·.length) then (row' :: rest).foldl commonItems row else []
  | _ => []

/-- One of some alternatives. What all of them begin with is put before them. -/
def choice (rs : List Regex) : Regex :=
  let rows := (rs.flatMap branches).map items
  match sharedItems rows with
  | [] => unshared rs
  | shared => sequence (shared ++ [unshared (rows.map fun row => ofItems (row.drop shared.length))])

/-! ### Repetitions -/

/-- A repetition. What takes no characters need not be repeated. -/
def repeated (a : Regex) (least : Nat) (most : Option Nat) (greedy : Bool) : Regex :=
  let least := if a.takesNone then min least 1 else least
  let most := if a.takesNone then some (min (most.getD 1) 1) else most
  if most = some 0 then .literal []
  else if least = 1 ∧ most = some 1 then a
  else .times a least most greedy

end Regex
end TicMeter
