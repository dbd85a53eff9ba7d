import TicMeter.Disk

/-!
# Glob — patterns that stand for paths

A pattern is a path in which a segment may hold wildcards: `?` for a character, `*` for any run of
them, `[abc]`, `[a-z]` and `[!abc]` for one character of a class. The segment `**` stands for any
number of directories. `Glob.expand` lists the paths of a disk that match, with the matches of one
segment in rising order.
-/

namespace TicMeter
namespace Glob

inductive Error
  | longWildcard
  | partialTree
  | unclosedClass
  deriving DecidableEq, Repr

namespace Error

def message : Error → String
  | .longWildcard => "wildcards are either regular \x60*\x60 or recursive \x60**\x60"
  | .partialTree => "recursive wildcards must form a single path component"
  | .unclosedClass => "invalid range pattern"

end Error

/-! ## Segments -/

inductive ClassItem
  | one (c : Char)
  | range (first last : Char)
  deriving DecidableEq, Repr

namespace ClassItem

def holds (item : ClassItem) (c : Char) : Bool :=
  match item with
  | .one d => c = d
  | .range first last => first ≤ c && c ≤ last

/-- The parts of a class. A dash between two characters makes a range. -/
def ofChars : List Char → List ClassItem
  | a :: '-' :: b :: rest => .range a b :: ofChars rest
  | a :: rest => .one a :: ofChars rest
  | [] => []

end ClassItem

inductive Token
  | char (c : Char)
  | anyChar
  | anyRun
  | anyTree
  | oneOf (items : List ClassItem)
  | noneOf (items : List ClassItem)
  deriving DecidableEq, Repr

namespace Token

mutual

/-- Reads a pattern; `before` is the character before it. A double star must fill a segment, and
takes the slash after it along. -/
def readAll (before : Option Char) : List Char → Except Error (List Token)
  | [] => .ok []
  | '?' :: rest => (readAll (some '?') rest).map (.anyChar :: ·)
  | '*' :: '*' :: rest =>
      let opens := before = none ∨ before = some '/'
      match rest with
      | '*' :: _ => .error .longWildcard
      | [] => if opens then .ok [.anyTree] else .error .partialTree
      | '/' :: rest =>
          if opens then (readAll (some '/') rest).map (.anyTree :: ·) else .error .partialTree
      | _ => .error .partialTree
  | '*' :: rest => (readAll (some '*') rest).map (.anyRun :: ·)
  | '[' :: '!' :: c :: rest => readClass true [c] rest
  | '[' :: '!' :: [] => .error .unclosedClass
  | '[' :: c :: rest => readClass false [c] rest
  | '[' :: [] => .error .unclosedClass
  | c :: rest => (readAll (some c) rest).map (.char c :: ·)

/-- Reads a pattern from within brackets on; `inside` are the characters of the class so far, newest
first. The first of them stands for itself, even if it is a bracket. -/
def readClass (complement : Bool) (inside : List Char) : List Char → Except Error (List Token)
  | [] => .error .unclosedClass
  | ']' :: rest =>
      let items := ClassItem.ofChars inside.reverse
      let token : Token := if complement then .noneOf items else .oneOf items
      (readAll (some ']') rest).map (token :: ·)
  | c :: rest => readClass complement (c :: inside) rest

end

def ofChars (cs : List Char) : Except Error (List Token) :=
  readAll none cs

/-- Some characters, and what is left of them as more and more are taken from the front. -/
def tails : List Char → List (List Char)
  | [] => [[]]
  | c :: rest => (c :: rest) :: tails rest

/-- What is left of some characters behind a part that takes just one. -/
def rest? : Token → List Char → Option (List Char)
  | .char d, c :: cs => if c = d then some cs else none
  | .anyChar, _ :: cs => some cs
  | .oneOf items, c :: cs => if items.any (·.holds c) then some cs else none
  | .noneOf items, c :: cs => if items.any (·.holds c) then none else some cs
  | _, _ => none

/-- What may be left of a name behind a part, given what may be left before it. All of these are
tails of the name, the longest first, so a run leaves the tails of the first one. -/
def advance (rests : List (List Char)) : Token → List (List Char)
  | .anyRun | .anyTree => rests.head?.elim [] tails
  | token => rests.filterMap token.rest?

/-- Whether a name matches: its parts, one after the other, may leave nothing of it. -/
def matchName (tokens : List Token) (name : List Char) : Bool :=
  (tokens.foldl advance [name]).any List.isEmpty

end Token

inductive Segment
  | literal (name : String)
  | wild (tokens : List Token)
  | tree
  deriving DecidableEq, Repr

namespace Segment

def ofTokens (tokens : List Token) : Segment :=
  let chars := tokens.filterMap fun
    | .char c => some c
    | _ => none
  if chars.length = tokens.length then .literal (String.ofList chars)
  else if tokens = [.anyTree] then .tree
  else .wild tokens

end Segment

/-! ## Patterns -/

structure Pattern where
  absolute : Bool
  segments : List Segment
  /-- whether only directories match, as for a pattern that ends in a slash -/
  directoriesOnly : Bool
  deriving DecidableEq, Repr

/-- Whether a path text is meant as a pattern. -/
def isPattern (text : String) : Bool :=
  text.toList.any fun c => c = '*' || c = '?' || c = '['

/-- The names that a pattern passes through before its first wildcard. -/
def fixedSteps (text : String) : List String :=
  (Path.steps text).takeWhile (!isPattern ·)

/-- Leaves one of several `**` segments in a row. -/
def collapse : List Segment → List Segment
  | .tree :: .tree :: rest => collapse (.tree :: rest)
  | segment :: rest => segment :: collapse rest
  | [] => []

namespace Pattern

/-- The pattern that a text spells: the text as a whole and every segment of it must be well
formed. -/
def ofText (text : String) : Except Error Pattern := do
  let _ ← Token.ofChars text.toList
  let body := if Path.isAbsolute text then text.toList.tail else text.toList
  let pieces := Path.segmentsOf body
  let pieces := if pieces.getLast? = some [] then pieces.dropLast else pieces
  let tokens ← pieces.mapM Token.ofChars
  return { absolute := Path.isAbsolute text
           segments := collapse (tokens.map Segment.ofTokens)
           directoriesOnly := Path.endsWithSlash text }

end Pattern

/-! ## Expansion -/

def entryPath (directory name : String) : String :=
  if Path.isWorkingDir directory then name else Path.join directory name

/-- The names in a directory with their paths, or nothing for what is no directory. -/
def entriesOf (disk : Disk) (path : String) : List (String × String) :=
  match disk.list path with
  | .ok names => names.map fun name => (name, entryPath path name)
  | .error _ => []

/-- The paths of dots in a directory that a segment asks for. -/
def dots (tokens : List Token) (path : String) : List String :=
  match tokens with
  | .char '.' :: _ =>
      ["..", "."].filterMap fun name =>
        if Token.matchName tokens name.toList then some (Path.join path name) else none
  | _ => []

/-- A path under a `**` segment and the paths below it, at most `depth` deep, each with whatever
`select` makes of it. A directory stands for itself where the pattern ends (`last`). -/
def underTree (disk : Disk) (last : Bool) (select : String → String → List String) :
    Nat → String → String → List String
  | 0, _, _ => []
  | depth + 1, name, path =>
      let below :=
        (entriesOf disk path).flatMap fun (name, path) =>
          underTree disk last select depth name path
      if last then (if disk.isDirectory path then path :: below else [])
      else select name path ++ below

/-- The paths that continue a path by the segments. -/
def continuations (disk : Disk) (directoriesOnly : Bool) (depth : Nat) :
    List Segment → String → List String
  | [], path => if directoriesOnly && !disk.isDirectory path then [] else [path]
  | .literal name :: rest, path =>
      let next := entryPath path name
      -- a plain name is only looked up: the directory need not be listed
      let isDot := name = "." || name = ".."
      if (isDot && disk.isDirectory path) || (!isDot && disk.reaches next) then
        continuations disk directoriesOnly depth rest next
      else []
  | .wild tokens :: rest, path =>
      if disk.isDirectory path then
        (dots tokens path).flatMap (continuations disk directoriesOnly depth rest) ++
          (entriesOf disk path).flatMap fun (name, path) =>
            if Token.matchName tokens name.toList then
              continuations disk directoriesOnly depth rest path
            else []
      else []
  | .tree :: rest, path =>
      (entriesOf disk path).flatMap fun (name, path) =>
        match rest with
        | [] => underTree disk true (fun _ _ => []) depth name path
        | .literal wanted :: rest =>
            underTree disk false (fun name path =>
              if name = wanted then continuations disk directoriesOnly depth rest path else [])
              depth name path
        | .wild tokens :: rest =>
            underTree disk false (fun name path =>
              if Token.matchName tokens name.toList then
                continuations disk directoriesOnly depth rest path
              else []) depth name path
        | .tree :: _ => []

def expand (disk : Disk) (pattern : Pattern) : List String :=
  let depth := (disk.entries.map (·.1.length)).foldl max 0 + 1
  continuations disk pattern.directoriesOnly depth pattern.segments
    (if pattern.absolute then "/" else ".")

end Glob
end TicMeter
