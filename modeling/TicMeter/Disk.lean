import TicMeter.Disk.Path
import TicMeter.Text.Bytes

/-!
# Disk — a tree of files and directories

A disk maps places to files and directories. Path texts are followed from the root or from the
working directory, step by step; every step but the last must lead to a directory. Reading,
creating and writing fail for the causes in `OsError`.

Links, permissions, files that are neither plain nor directories, and devices that run full are left
out: whatever is there can be read and replaced, and every place has one path of plain names.
-/

namespace TicMeter

inductive OsError
  | notFound
  | alreadyExists
  | notDirectory
  | isDirectory
  | nameTooLong
  deriving DecidableEq, Repr

namespace OsError

def message : OsError → String
  | .notFound => "No such file or directory (os error 2)"
  | .alreadyExists => "File exists (os error 17)"
  | .notDirectory => "Not a directory (os error 20)"
  | .isDirectory => "Is a directory (os error 21)"
  | .nameTooLong => "File name too long (os error 36)"

end OsError

/-- The names from the root to a file or directory. -/
abbrev Place := List String

inductive Entry
  | file (bytes : List UInt8)
  | directory
  deriving DecidableEq, Repr

structure Disk where
  entries : List (Place × Entry)
  workingDir : Place
  deriving DecidableEq, Repr

namespace Disk

/-- What stands at a place. The root is always there. -/
def at? (disk : Disk) (place : Place) : Option Entry :=
  if place.isEmpty then some .directory
  else (disk.entries.find? (·.1 == place)).map (·.2)

/-- Puts something at a place, in place of what stood there. -/
def put (disk : Disk) (place : Place) (entry : Entry) : Disk :=
  { disk with entries := disk.entries.filter (·.1 != place) ++ [(place, entry)] }

/-- The directories above a place, the outermost first. -/
def above (place : Place) : List Place :=
  (List.range place.length).map (place.take ·)

/-- Puts something at a place, with the directories above it. -/
def install (disk : Disk) (place : Place) (entry : Entry) : Disk :=
  let add (disk : Disk) (parent : Place) : Disk :=
    if (disk.at? parent).isSome then disk else disk.put parent .directory
  ((above place).foldl add disk).put place entry

/-! ## Following paths -/

/-- The greatest length of a name in bytes. -/
def maxNameLength : Nat := 255

def maxPathLength : Nat := 4095

def isTooLong (name : String) : Bool :=
  maxNameLength < Text.byteLength name

/-- Why no path text of this form is followed. -/
def refusal? (path : String) : Option OsError :=
  if path.isEmpty then some .notFound
  else if maxPathLength < Text.byteLength path then some .nameTooLong
  else none

def next (place : Place) (name : String) : Place :=
  if name = "." then place
  else if name = ".." then place.dropLast
  else place ++ [name]

/-- Follows names from a place. Every place that is passed must be a directory. -/
def walk (disk : Disk) : Place → List String → Except OsError Place
  | place, [] => .ok place
  | place, name :: rest =>
      match disk.at? place with
      | some .directory =>
          if isTooLong name then .error .nameTooLong
          else if (disk.at? (next place name)).isSome then disk.walk (next place name) rest
          else .error .notFound
      | _ => .error .notDirectory

def origin (disk : Disk) (path : String) : Place :=
  if Path.isAbsolute path then [] else disk.workingDir

/-- The place of something that exists. -/
def resolve (disk : Disk) (path : String) : Except OsError Place :=
  match refusal? path with
  | some why => .error why
  | none =>
      match disk.walk (disk.origin path) (Path.steps path) with
      | .error why => .error why
      | .ok place =>
          if Path.endsWithSlash path ∧ disk.at? place ≠ some .directory then .error .notDirectory
          else .ok place

def lookup? (disk : Disk) (path : String) : Option Entry :=
  match disk.resolve path with
  | .ok place => disk.at? place
  | .error _ => none

def reaches (disk : Disk) (path : String) : Bool :=
  (disk.lookup? path).isSome

def isDirectory (disk : Disk) (path : String) : Bool :=
  disk.lookup? path = some .directory

def isFile (disk : Disk) (path : String) : Bool :=
  match disk.lookup? path with
  | some (.file _) => true
  | _ => false

/-! ## Reading -/

def read (disk : Disk) (path : String) : Except OsError (List UInt8) :=
  match disk.resolve path with
  | .error why => .error why
  | .ok place =>
      match disk.at? place with
      | some (.file bytes) => .ok bytes
      | some .directory => .error .isDirectory
      | none => .error .notFound

/-- The names in the directory at a place, rising. -/
def children (disk : Disk) (place : Place) : List String :=
  (disk.entries.filterMap fun (p, _) =>
    if p.dropLast = place then p.getLast? else none).mergeSort fun a b => decide (a ≤ b)

def list (disk : Disk) (path : String) : Except OsError (List String) :=
  match disk.resolve path with
  | .error why => .error why
  | .ok place =>
      match disk.at? place with
      | some .directory => .ok (disk.children place)
      | _ => .error .notDirectory

/-! ## Creating and writing -/

/-- The directory in which the last name of a path is looked up, and that name. -/
def locate (disk : Disk) (path : String) : Except OsError (Place × Option String) :=
  match refusal? path with
  | some why => .error why
  | none =>
      let steps := Path.steps path
      match disk.walk (disk.origin path) steps.dropLast with
      | .error why => .error why
      | .ok place =>
          match disk.at? place with
          | some .directory => .ok (place, steps.getLast?)
          | _ => .error .notDirectory

def createDirectory (disk : Disk) (path : String) : Except OsError Disk :=
  match disk.locate path with
  | .error why => .error why
  | .ok (_, none) => .error .alreadyExists
  | .ok (place, some name) =>
      if name = "." ∨ name = ".." then .error .alreadyExists
      else if isTooLong name then .error .nameTooLong
      else if (disk.at? (place ++ [name])).isSome then .error .alreadyExists
      else .ok (disk.put (place ++ [name]) .directory)

/-- Of a path and its parents, the innermost first, those that have to be created below one that is
there or could be created; and the disk with that one. -/
def missing (disk : Disk) : List String → Except OsError (List String × Disk)
  | [] => .ok ([], disk)
  | path :: parents =>
      match disk.createDirectory path with
      | .ok disk => .ok ([], disk)
      | .error .notFound => (disk.missing parents).map fun (paths, disk) => (path :: paths, disk)
      | .error .alreadyExists =>
          if disk.isDirectory path then .ok ([], disk) else .error .alreadyExists
      | .error why => .error why

/-- Creates directories, each in the one before it. What was created stays when a later one fails.
-/
def createEach (disk : Disk) : List String → Disk × Option OsError
  | [] => (disk, none)
  | path :: rest =>
      match disk.createDirectory path with
      | .ok disk => disk.createEach rest
      | .error .alreadyExists =>
          if disk.isDirectory path then disk.createEach rest else (disk, some .alreadyExists)
      | .error why => (disk, some why)

def createDirectories (disk : Disk) (path : String) : Disk × Option OsError :=
  match disk.missing (Path.lineage path) with
  | .error why => (disk, some why)
  | .ok (paths, disk) => disk.createEach paths.reverse

/-- Writes a file, in place of the one that was there. -/
def write (disk : Disk) (path : String) (bytes : List UInt8) : Except OsError Disk :=
  match disk.locate path with
  | .error why => .error why
  | .ok (_, none) => .error .isDirectory
  | .ok (place, some name) =>
      if name = "." ∨ name = ".." ∨ Path.endsWithSlash path then .error .isDirectory
      else if isTooLong name then .error .nameTooLong
      else if disk.at? (place ++ [name]) = some .directory then .error .isDirectory
      else .ok (disk.put (place ++ [name]) (.file bytes))

/-! ## Comparison -/

def changes (before after : Disk) : List (Place × Entry) :=
  after.entries.filter fun (place, entry) => before.at? place ≠ some entry

end Disk
end TicMeter
