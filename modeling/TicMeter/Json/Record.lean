import TicMeter.Json

/-!
# Record — typed values from JSON

A record is written as an object, in which unknown keys are passed over and a known key may come
only once, or as an array of its fields in their order. Words of a closed vocabulary are written
as strings or as the key of an object with one member. Whatever is kept as it stands is brought
into normal form: keys rising, the last member of a key counting.
-/

namespace TicMeter
namespace Json

/-! ## Scalars -/

def asBool? : Json → Option Bool
  | .bool b => some b
  | _ => none

def asString? : Json → Option String
  | .string s => some s
  | _ => none

/-- A number from zero up to but not including `bound`. -/
def asNat? (bound : Nat) : Json → Option Nat
  | .integer n => if 0 ≤ n ∧ n < bound then some n.toNat else none
  | _ => none

/-- An unsigned number of 64 bits. -/
def asWord? : Json → Option Nat :=
  asNat? UInt64.size

def asList? {α : Type} (item? : Json → Option α) : Json → Option (List α)
  | .array items => items.mapM item?
  | _ => none

/-! ## Records -/

/-- The fields of a record with the given keys, as far as they are there. -/
def asRecord? (keys : List String) : Json → Option (List (Option Json))
  | .object members =>
      keys.mapM fun key =>
        match members.filter (·.1 == key) with
        | [] => some none
        | [(_, j)] => some (some j)
        | _ => none
  | .array items =>
      if items.length ≤ keys.length then
        some (items.map some ++ List.replicate (keys.length - items.length) none)
      else none
  | _ => none

/-- The word of a vocabulary, with what its object form carries. A plain string carries nothing. -/
def asWordWith? : Json → Option (String × Option Json)
  | .string s => some (s, none)
  | .object [(key, j)] => some (key, some j)
  | _ => none

/-- A member of a closed vocabulary, by its word. -/
def asMember? {α : Type} (all : List α) (word : α → String) (j : Json) : Option α := do
  let (s, content) ← asWordWith? j
  match content with
  | none | some .null => all.find? (word · == s)
  | some _ => none

/-! ## Normal form -/

/-- How deep containers may be nested in what is kept of a document. -/
def maxDepth : Nat := 127

mutual

/-- The normal form, if there is one and at most `depth` containers are nested in it. -/
def normal? (depth : Nat) : Json → Option Json
  | .illFormed => none
  | .array items => if depth = 0 then none else (normalItems? (depth - 1) items).map .array
  | .object members =>
      if depth = 0 then none
      else (normalMembers? (depth - 1) members).map fun members =>
        .object (KeyMap.ofList members).entries
  | j => some j

def normalItems? (depth : Nat) : List Json → Option (List Json)
  | [] => some []
  | j :: rest => do
      let j ← normal? depth j
      let rest ← normalItems? depth rest
      some (j :: rest)

def normalMembers? (depth : Nat) : List (String × Json) → Option (List (String × Json))
  | [] => some []
  | (key, j) :: rest => do
      let j ← normal? depth j
      let rest ← normalMembers? depth rest
      some ((key, j) :: rest)

end

def asKeyMap? (depth : Nat) : Json → Option (KeyMap Json)
  | .object members => (normalMembers? depth members).map KeyMap.ofList
  | _ => none

end Json
end TicMeter
