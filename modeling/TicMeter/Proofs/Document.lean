import TicMeter.Json.Parser
import TicMeter.Proofs.Token

/-!
# Document — JSON documents are read as the values they were written for

Both layouts write the same tokens (`Json.tokens`), with other blanks between them.

* `Json.run_tokens`: the tokens of a value deliver the value, whatever containers it stands in.
* `Plain.lexes_compact`, `Plain.lexes_indented`: the texts of a value are cut into its tokens.
* `Json.parse?_render`: so a document reads as its value, in either layout.
-/

namespace TicMeter
namespace Json

open Token

/-! ## Tokens -/

mutual

def tokens : Json → List Token
  | .array [] => [.openArray, .closeArray]
  | .array (j :: rest) => .openArray :: (tokens j ++ itemTokens rest) ++ [.closeArray]
  | .object [] => [.openObject, .closeObject]
  | .object ((key, j) :: rest) =>
      .openObject :: (.string (some key) :: .colon :: tokens j ++ memberTokens rest) ++
        [.closeObject]
  | .string s => [.string (some s)]
  | j => [.scalar j]

def itemTokens : List Json → List Token
  | [] => []
  | j :: rest => .comma :: (tokens j ++ itemTokens rest)

def memberTokens : List (String × Json) → List Token
  | [] => []
  | (key, j) :: rest => .comma :: (.string (some key) :: .colon :: tokens j ++ memberTokens rest)

end

/-! ## From tokens to values -/

theorem State.deliver_cons (j : Json) (container : Container) (stack : List Container) :
    deliver j (container :: stack) = .next (container.push j :: stack) := rfl

/-- The first item of an array is read as any value is. -/
theorem run_firstItem (j : Json) (stack : List Container) :
    j.tokens.foldlM State.step (.firstItem stack) =
      j.tokens.foldlM State.step (.value (.array [] :: stack)) := by
  unfold tokens
  split <;> rfl

mutual

/-- The tokens of a value deliver it to the containers that it stands in. The items and members
after the first are put on top of those that the innermost container has. -/
theorem run_tokens (stack : List Container) : (j : Json) →
    j.tokens.foldlM State.step (.value stack) = some (State.deliver j stack)
  | .array [] => rfl
  | .array (j :: rest) => by
    simp [tokens, State.step, State.begin, run_firstItem, run_tokens _ j, State.deliver_cons,
      Container.push, run_itemTokens]
  | .object [] => rfl
  | .object ((key, j) :: rest) => by
    simp [tokens, State.step, State.begin, run_tokens _ j, State.deliver_cons, Container.push,
      run_memberTokens]
  | .string _ => rfl
  | .null | .bool _ | .integer _ | .real _ | .illFormed => rfl

theorem run_itemTokens (stack : List Container) : (items rest : List Json) →
    (itemTokens rest).foldlM State.step (.next (.array items :: stack)) =
      some (.next (.array (rest.reverse ++ items) :: stack))
  | _, [] => rfl
  | _, j :: rest => by
    simp [itemTokens, State.step, run_tokens _ j, State.deliver_cons, Container.push,
      run_itemTokens]

theorem run_memberTokens (stack : List Container) : (members rest : List (String × Json)) →
    (memberTokens rest).foldlM State.step (.next (.object (some members) none :: stack)) =
      some (.next (.object (some (rest.reverse ++ members)) none :: stack))
  | _, [] => rfl
  | _, (_, j) :: rest => by
    simp [memberTokens, State.step, run_tokens _ j, State.deliver_cons, Container.push,
      run_memberTokens]

end

theorem ofTokens?_tokens (j : Json) : ofTokens? j.tokens = some j := by
  rw [ofTokens?, run_tokens]
  rfl

/-! ## From texts to tokens -/

/-- Whether all numbers in a value are integers of 64 bits without a sign. -/
inductive Plain : Json → Prop
  | null : Plain .null
  | bool (b : Bool) : Plain (.bool b)
  | integer {n : Nat} (h : n < UInt64.size) : Plain (.integer n)
  | string (s : String) : Plain (.string s)
  | array {items : List Json} (h : ∀ j ∈ items, Plain j) : Plain (.array items)
  | object {members : List (String × Json)} (h : ∀ m ∈ members, Plain m.2) :
      Plain (.object members)

section Containers

-- Behind the first one, every item or member is written in the same way.

variable (depth : Nat)

theorem itemTokens_eq : (items : List Json) →
    itemTokens items = items.flatMap fun j => .comma :: j.tokens
  | [] => rfl
  | j :: rest => by simp [itemTokens, itemTokens_eq rest]

theorem memberTokens_eq : (members : List (String × Json)) →
    memberTokens members =
      members.flatMap fun m => .comma :: .string (some m.1) :: .colon :: m.2.tokens
  | [] => rfl
  | (key, j) :: rest => by simp [memberTokens, memberTokens_eq rest]

theorem compactItems_eq : (items : List Json) →
    compactItems items = items.flatMap fun j => ',' :: j.compact
  | [] => rfl
  | j :: rest => by simp [compactItems, compactItems_eq rest]

theorem compactMembers_eq : (members : List (String × Json)) →
    compactMembers members =
      members.flatMap fun m => ',' :: (literal m.1 ++ ':' :: m.2.compact)
  | [] => rfl
  | (key, j) :: rest => by simp [compactMembers, compactMembers_eq rest]

theorem indentedItems_eq : (items : List Json) →
    indentedItems depth items =
      items.flatMap fun j => ',' :: (newLine depth ++ j.indented depth)
  | [] => rfl
  | j :: rest => by simp [indentedItems, indentedItems_eq rest]

theorem indentedMembers_eq : (members : List (String × Json)) →
    indentedMembers depth members =
      members.flatMap fun m =>
        ',' :: (newLine depth ++ (literal m.1 ++ ':' :: ' ' :: m.2.indented depth))
  | [] => rfl
  | (key, j) :: rest => by simp [indentedMembers, indentedMembers_eq rest]

end Containers

theorem Plain.lexes_compact {j : Json} (h : j.Plain) : Lexes j.compact j.tokens := by
  induction h with
  | null => exact .null
  | bool b => exact .bool b
  | integer h => exact .integer h
  | string s => exact .literal s
  | @array items _ ih =>
    cases items with
    | nil => exact Lexes.nil.enclosed .openArray .closeArray rfl rfl
    | cons j rest =>
      have hitems := Lexes.separated ih
      simpa [compact, tokens, compactItems_eq, itemTokens_eq] using
        hitems.enclosed .openArray .closeArray rfl rfl
  | @object members _ ih =>
    cases members with
    | nil => exact Lexes.nil.enclosed .openObject .closeObject rfl rfl
    | cons m rest =>
      have hmembers := Lexes.separated fun m hm => (ih m hm).member m.1
      simpa [compact, tokens, compactMembers_eq, memberTokens_eq] using
        hmembers.enclosed .openObject .closeObject rfl rfl

theorem Plain.lexes_indented {j : Json} (h : j.Plain) (depth : Nat) :
    Lexes (j.indented depth) j.tokens := by
  induction h generalizing depth with
  | null => exact .null
  | bool b => exact .bool b
  | integer h => exact .integer h
  | string s => exact .literal s
  | @array items _ ih =>
    cases items with
    | nil => exact Lexes.nil.enclosed .openArray .closeArray rfl rfl
    | cons j rest =>
      have hitems := Lexes.separated fun j hj => (ih j hj (depth + 1)).newLine (depth + 1)
      simpa [indented, tokens, indentedItems_eq, itemTokens_eq] using
        (hitems.trailing depth).enclosed .openArray .closeArray rfl rfl
  | @object members _ ih =>
    cases members with
    | nil => exact Lexes.nil.enclosed .openObject .closeObject rfl rfl
    | cons m rest =>
      have hmembers := Lexes.separated fun m hm =>
        (((ih m hm (depth + 1)).blank (c := ' ') rfl).member m.1).newLine (depth + 1)
      simpa [indented, tokens, indentedMembers_eq, memberTokens_eq] using
        (hmembers.trailing depth).enclosed .openObject .closeObject rfl rfl

/-- A document is read as the value it was written for. -/
theorem parse?_render {j : Json} (h : j.Plain) (layout : Layout) :
    parse? (j.render layout) = some j := by
  have hlexes : Lexes (j.render layout).toList j.tokens := by
    cases layout with
    | compact => simpa [render] using h.lexes_compact
    | pretty => simpa [render] using h.lexes_indented 0
  have htokens := hlexes [] .nil
  rw [List.append_nil, ofChars?, Option.map_some, List.append_nil] at htokens
  rw [parse?, htokens, Option.bind_some, ofTokens?_tokens]

end Json
end TicMeter
