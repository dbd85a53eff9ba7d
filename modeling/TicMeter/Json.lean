import TicMeter.Json.Number
import TicMeter.KeyMap

/-!
# Json — values of JSON documents

Objects keep their members as they are written, in order and with repeats. A number that is no
integer of 64 bits has a binary point. A string literal whose escapes name half a character spells
no text, nor does an object with such a key, and a number may be too great: these are `illFormed`,
which may be skipped over but never used.
-/

namespace TicMeter

inductive Json
  | null
  | bool (b : Bool)
  | integer (n : Int)
  | real (x : Binary64)
  | string (s : String)
  | illFormed
  | array (items : List Json)
  | object (members : List (String × Json))
  deriving Repr

namespace Json

/-! ## Compact text -/

def escapedChar (c : Char) : List Char :=
  if c = '"' then ['\\', '"']
  else if c = '\\' then ['\\', '\\']
  else if c = '\n' then ['\\', 'n']
  else if c = '\r' then ['\\', 'r']
  else if c = '\t' then ['\\', 't']
  else if c = '\x08' then ['\\', 'b']
  else if c = '\x0c' then ['\\', 'f']
  else if c.toNat < 0x20 then ['\\', 'u'] ++ (Nat.toDigits 16 c.toNat).leftpad 4 '0'
  else [c]

def literal (s : String) : List Char :=
  '"' :: s.toList.flatMap escapedChar ++ ['"']

/-- The text of a value without containers in it. -/
def scalar : Json → List Char
  | .null => "null".toList
  | .bool true => "true".toList
  | .bool false => "false".toList
  | .integer n => n.repr.toList
  | .real x => realText x
  | .string s => literal s
  | _ => []

mutual

/-- The text of a value without blanks. -/
def compact : Json → List Char
  | .array [] => ['[', ']']
  | .array (j :: rest) => '[' :: compact j ++ compactItems rest ++ [']']
  | .object [] => ['\x7b', '\x7d']
  | .object ((key, j) :: rest) =>
      '\x7b' :: literal key ++ ':' :: compact j ++ compactMembers rest ++ ['\x7d']
  | j => scalar j

def compactItems : List Json → List Char
  | [] => []
  | j :: rest => ',' :: compact j ++ compactItems rest

def compactMembers : List (String × Json) → List Char
  | [] => []
  | (key, j) :: rest => ',' :: literal key ++ ':' :: compact j ++ compactMembers rest

end

/-! ## Indented text -/

/-- A new line at a depth of two blanks a level. -/
def newLine (depth : Nat) : List Char :=
  '\n' :: List.replicate (2 * depth) ' '

mutual

/-- The text of a value with one item or member a line. -/
def indented (depth : Nat) : Json → List Char
  | .array [] => ['[', ']']
  | .array (j :: rest) =>
      '[' :: newLine (depth + 1) ++ indented (depth + 1) j ++ indentedItems (depth + 1) rest ++
        newLine depth ++ [']']
  | .object [] => ['\x7b', '\x7d']
  | .object ((key, j) :: rest) =>
      '\x7b' :: newLine (depth + 1) ++ literal key ++ ':' :: ' ' :: indented (depth + 1) j ++
        indentedMembers (depth + 1) rest ++ newLine depth ++ ['\x7d']
  | j => scalar j

def indentedItems (depth : Nat) : List Json → List Char
  | [] => []
  | j :: rest => ',' :: newLine depth ++ indented depth j ++ indentedItems depth rest

def indentedMembers (depth : Nat) : List (String × Json) → List Char
  | [] => []
  | (key, j) :: rest =>
      ',' :: newLine depth ++ literal key ++ ':' :: ' ' :: indented depth j ++
        indentedMembers depth rest

end

inductive Layout
  | compact
  | pretty
  deriving DecidableEq, Repr

def render (layout : Layout) (j : Json) : String :=
  match layout with
  | .compact => String.ofList j.compact
  | .pretty => String.ofList (j.indented 0)

end Json
end TicMeter
