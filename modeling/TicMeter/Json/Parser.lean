import TicMeter.Json.Token

/-!
# Parser — documents from tokens

Reading goes token by token (`State.step`), with the containers that are open held on a stack, so
that a document may be nested to any depth. `Json.parse?` accepts exactly one value and blanks
around it.
-/

namespace TicMeter
namespace Json

/-- A container that has not been closed, with its items or members so far, newest first. -/
inductive Container
  | array (items : List Json)
  /-- the key belongs to the member that comes next; an object with an ill-formed key has no
  members -/
  | object (members : Option (List (String × Json))) (key : Option String)

namespace Container

def push (j : Json) : Container → Container
  | .array items => .array (j :: items)
  | .object members key =>
      match members, key with
      | some members, some key => .object (some ((key, j) :: members)) none
      | _, _ => .object none none

end Container

/-- What may come next, and the containers around it. -/
inductive State
  /-- a value -/
  | value (stack : List Container)
  /-- the first item of an array, or its end -/
  | firstItem (stack : List Container)
  /-- the first key of an object, or its end -/
  | firstKey (stack : List Container)
  /-- a key after a comma -/
  | nextKey (stack : List Container) (members : Option (List (String × Json)))
  /-- the colon after a key -/
  | colon (stack : List Container)
  /-- a comma or the end of the innermost container -/
  | next (stack : List Container)
  /-- nothing -/
  | done (j : Json)

namespace State

def deliver (j : Json) : List Container → State
  | [] => .done j
  | container :: stack => .next (container.push j :: stack)

/-- A token where a value must begin. -/
def begin (stack : List Container) : Token → Option State
  | .scalar j => some (deliver j stack)
  | .string (some s) => some (deliver (.string s) stack)
  | .string none => some (deliver .illFormed stack)
  | .openArray => some (.firstItem stack)
  | .openObject => some (.firstKey stack)
  | _ => none

def step (state : State) (token : Token) : Option State :=
  match state, token with
  | .value stack, token => begin stack token
  | .firstItem stack, .closeArray => some (deliver (.array []) stack)
  | .firstItem stack, token => begin (.array [] :: stack) token
  | .firstKey stack, .closeObject => some (deliver (.object []) stack)
  | .firstKey stack, .string name => some (.colon (.object (some []) name :: stack))
  | .nextKey stack members, .string name => some (.colon (.object members name :: stack))
  | .colon stack, .colon => some (.value stack)
  | .next (.array items :: stack), .comma => some (.value (.array items :: stack))
  | .next (.array items :: stack), .closeArray => some (deliver (.array items.reverse) stack)
  | .next (.object members _ :: stack), .comma => some (.nextKey stack members)
  | .next (.object (some members) _ :: stack), .closeObject =>
      some (deliver (.object members.reverse) stack)
  | .next (.object none _ :: stack), .closeObject => some (deliver .illFormed stack)
  | _, _ => none

end State

def ofTokens? (tokens : List Token) : Option Json :=
  match tokens.foldlM State.step (.value []) with
  | some (.done j) => some j
  | _ => none

def parse? (text : String) : Option Json :=
  (Token.ofChars? text.toList).bind ofTokens?

end Json
end TicMeter
