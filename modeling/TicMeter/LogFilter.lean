import TicMeter.Notice
import TicMeter.Text.ControlSequence
import TicMeter.Text.Regex.Compiled
import TicMeter.Text.Space

/-!
# LogFilter — which notices are shown

A filter is a list of directives, which say how detailed the notices of a topic may be, and
perhaps a pattern for their messages. A filter text is a list of `topic=level`, `topic` and
`level` items between commas, and the pattern after a slash. Of the directives whose name opens a
topic, the longest name decides. Lines are written as for an output that is no terminal, without
colours.
-/

namespace TicMeter

/-- How detailed notices may be; the directive without a name is for every topic. -/
structure Directive where
  topic : Option String
  /-- the greatest rank that is shown, zero for none -/
  detail : Nat
  deriving DecidableEq, Repr

structure LogFilter where
  directives : List Directive
  /-- what must occur in a message that is shown -/
  pattern : Option Regex := none
  deriving DecidableEq, Repr

namespace LogFilter

def everything : Nat := Level.rank .trace

def ofVerbosity (quiet : Bool) (verbosity : Nat) : LogFilter :=
  let level : Level :=
    if quiet then .error
    else
      match verbosity with
      | 0 => .warn
      | 1 => .info
      | 2 => .debug
      | _ => .trace
  { directives := [⟨none, level.rank⟩] }

/-! ## Filter texts -/

def trim (cs : List Char) : List Char :=
  ((cs.dropWhile Text.isSpace).reverse.dropWhile Text.isSpace).reverse

def pieces (separator : Char) : List Char → List (List Char)
  | [] => [[]]
  | c :: rest =>
      match pieces separator rest with
      | [] => [[c]]
      | piece :: more =>
          if c = separator then [] :: piece :: more else (c :: piece) :: more

/-- The detail that a word asks for, in any letter case. -/
def detail? (word : List Char) : Option Nat :=
  let word := String.ofList (word.map Char.toUpper)
  if word = "OFF" then some 0
  else (Level.all.find? (·.word == word)).map Level.rank

/-- What an item says, or the text that is wrong with it. -/
def directive? (item : List Char) : Except String Directive :=
  match pieces '=' item with
  | [word] =>
      match detail? word with
      | some detail => .ok ⟨none, detail⟩
      -- a word that is no level is a topic
      | none => .ok ⟨some (String.ofList word), everything⟩
  | [topic, word] =>
      let word := trim word
      if word.isEmpty then .ok ⟨some (String.ofList topic), everything⟩
      else
        match detail? word with
        | some detail => .ok ⟨some (String.ofList topic), detail⟩
        | none => .error (String.ofList word)
  | _ => .error (String.ofList item)

/-- A directive for a topic takes the place of the one before. -/
def add (filter : LogFilter) (directive : Directive) : LogFilter :=
  let directives := filter.directives
  if directives.any (·.topic == directive.topic) then
    { filter with
      directives := directives.map fun d => if d.topic == directive.topic then directive else d }
  else { filter with directives := directives ++ [directive] }

def warning (problem : String) : String :=
  "warning: " ++ problem ++ ", ignoring it"

def addItems (filter : LogFilter) : List (List Char) → LogFilter × List String
  | [] => (filter, [])
  | item :: items =>
      match directive? item with
      | .ok directive => (filter.add directive).addItems items
      | .error problem =>
          let (filter, warnings) := filter.addItems items
          (filter, warning ("invalid logging spec '" ++ problem ++ "'") :: warnings)

def addPattern (filter : LogFilter) (text : String) : LogFilter × List String :=
  match Regex.ofText text with
  | .ok pattern => ({ filter with pattern := some pattern }, [])
  | .error problem => (filter, [warning ("invalid regex filter - " ++ problem.message text)])

def refine (filter : LogFilter) (text : String) : LogFilter × List String :=
  let items (cs : List Char) := ((pieces ',' cs).map trim).filter (!·.isEmpty)
  match pieces '/' text.toList with
  | [directives] => filter.addItems (items directives)
  | [directives, pattern] =>
      let (filter, warnings) := filter.addItems (items directives)
      let (filter, more) := filter.addPattern (String.ofList pattern)
      (filter, warnings ++ more)
  | _ => (filter, [warning ("invalid logging spec '" ++ text ++ "' (too many '/'s)")])

/-! ## Showing notices -/

def nameLength (directive : Directive) : Nat :=
  match directive.topic with
  | some topic => Text.byteLength topic
  | none => 0

def covers (directive : Directive) (topic : String) : Bool :=
  match directive.topic with
  | some name => name.toList.isPrefixOf topic.toList
  | none => true

/-- The detail for a topic. The later of two directives with names of one length is asked first. -/
def detailOf (filter : LogFilter) (topic : String) : Nat :=
  let byLength := filter.directives.mergeSort fun a b => nameLength a ≤ nameLength b
  match byLength.reverse.find? (covers · topic) with
  | some directive => directive.detail
  | none => 0

def shows (filter : LogFilter) (notice : Notice) : Bool :=
  notice.level.rank ≤ filter.detailOf notice.topic &&
    filter.pattern.all (·.occursIn notice.message)

/-- A notice as a line of the log; what follows a line break is indented. -/
def line (notice : Notice) : String :=
  let level := notice.level.word
  let padding := String.ofList (List.replicate (5 - level.length) ' ')
  let message := notice.message.toList.flatMap fun c =>
    if c = '\n' then '\n' :: List.replicate 4 ' ' else [c]
  "[" ++ level ++ padding ++ " " ++ notice.topic ++ "] " ++ String.ofList message ++ "\n"

/-- The log of the notices that are shown. Control sequences are left out of every line, and one
that does not end takes the line break along. -/
def log (filter : LogFilter) (notices : List Notice) : String :=
  String.join ((notices.filter filter.shows).map fun notice => Text.withoutControls (line notice))

end LogFilter
end TicMeter
