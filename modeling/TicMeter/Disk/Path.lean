/-!
# Path — the texts by which files are named

A path text is a sequence of segments between slashes. Empty segments and single dots have no
meaning, except that a dot may open a relative path. This module takes path texts apart without
looking at any disk; `TicMeter.Disk` follows them.
-/

namespace TicMeter
namespace Path

/-- The segments between slashes, empty ones among them. -/
def segmentsOf : List Char → List (List Char)
  | [] => [[]]
  | c :: rest =>
      match segmentsOf rest with
      | [] => [[c]]
      | segment :: segments =>
          if c = '/' then [] :: segment :: segments else (c :: segment) :: segments

def isAbsolute (path : String) : Bool :=
  path.toList.head? = some '/'

def endsWithSlash (path : String) : Bool :=
  path.toList.getLast? = some '/'

/-- The names that a path passes through, dots among them. -/
def steps (path : String) : List String :=
  ((segmentsOf path.toList).filter (!·.isEmpty)).map String.ofList

/-! ## Components -/

/-- Whether a segment has no meaning; `opens` tells whether it is the first of a relative path. -/
def isVoid (opens : Bool) (segment : List Char) : Bool :=
  segment.isEmpty || (segment = ['.'] && !opens)

/-- The segments of a path without its root, each with the mark whether it means nothing. -/
def marked (path : String) : List (List Char × Bool) :=
  match path.toList with
  | '/' :: body => (segmentsOf body).map fun segment => (segment, isVoid false segment)
  | body =>
      match segmentsOf body with
      | [] => []
      | first :: rest =>
          (first, isVoid true first) :: rest.map fun segment => (segment, isVoid false segment)

def trimVoid (segments : List (List Char × Bool)) : List (List Char × Bool) :=
  (segments.reverse.dropWhile (·.2)).reverse

def ofSegments (root : Bool) (segments : List (List Char × Bool)) : String :=
  (if root then "/" else "") ++
    "/".intercalate (segments.map fun segment => String.ofList segment.1)

def parent? (path : String) : Option String :=
  match trimVoid (marked path) with
  | [] => none
  | segments => some (ofSegments (isAbsolute path) (trimVoid segments.dropLast))

/-- The last component, if it is a name. -/
def fileName? (path : String) : Option String :=
  match (trimVoid (marked path)).getLast? with
  | some (segment, _) =>
      if segment = ['.'] ∨ segment = ['.', '.'] then none else some (String.ofList segment)
  | none => none

/-- What follows the last dot of the file name, unless the name begins with that dot. -/
def extension? (path : String) : Option String := do
  let name := (← fileName? path).toList
  let suffix := (name.reverse.takeWhile (· ≠ '.')).reverse
  if suffix.length + 1 < name.length then some (String.ofList suffix) else none

def isWorkingDir (path : String) : Bool :=
  match trimVoid (marked path) with
  | [(segment, _)] => segment = ['.'] && !isAbsolute path
  | _ => false

def join (directory name : String) : String :=
  if directory.isEmpty || endsWithSlash directory then directory ++ name
  else directory ++ "/" ++ name

/-- The paths that end in one of the segments, which are given from the last to the first. -/
def upwards (root : Bool) : List (List Char × Bool) → List String
  | [] => []
  | segment :: outer =>
      if segment.2 then upwards root outer
      else ofSegments root (segment :: outer).reverse :: upwards root outer

/-- The path and its parents but the root and the empty path, the innermost first. -/
def lineage (path : String) : List String :=
  upwards (isAbsolute path) (marked path).reverse

end Path
end TicMeter
