import TicMeter.Capture
import TicMeter.Disk.Glob

/-!
# Command — how commands end

A command leaves a disk, what it wrote to its two outputs, and an exit code. A refusal is a cause
with a message and perhaps a hint.
-/

namespace TicMeter

/-- Why a command did not do what was asked, or did it and found fault. -/
inductive Refusal
  | invalidPattern (pattern : String) (why : Glob.Error)
  | noMatch (pattern : String)
  | severalMatches (pattern : String) (paths : List String)
  | inputNotFound (path : String)
  | unsupportedFormat (path : String)
  | inputNotAFile (path : String)
  | inputUnresolved (path : String) (why : OsError)
  | invalidReportPath (path : String)
  | reportIsInput (path : String)
  | decodingFailed (why : Capture.Error)
  | directoryNotCreated (path : String) (why : OsError)
  | reportNotWritten (path : String) (why : OsError)
  | rejectedFrames (count : Nat)
  | invalidLabel (label : String)
  | invalidValue (value : String)
  | lineTooLong (length : Nat)
  deriving DecidableEq, Repr

namespace Refusal

def message : Refusal → String
  | .invalidPattern pattern _ => "invalid input pattern '" ++ pattern ++ "'"
  | .noMatch pattern => "no files match pattern '" ++ pattern ++ "'"
  | .severalMatches pattern paths =>
      "multiple files match pattern '" ++ pattern ++ s!"' ({paths.length} matches); matches: " ++
        ", ".intercalate (paths.take 3) ++ (if 3 < paths.length then ", ..." else "")
  | .inputNotFound path => "input file not found: " ++ path
  | .unsupportedFormat path => "unsupported input format '" ++ path ++ "'"
  | .inputNotAFile path => "input is not a file: " ++ path
  | .inputUnresolved path why => "Failed to resolve input path: " ++ path ++ ": " ++ why.message
  | .invalidReportPath path => "Invalid report path: " ++ path
  | .reportIsInput path => "report path must differ from input: " ++ path
  | .decodingFailed why => "Teleinfo capture decoding failed: " ++ why.message
  | .directoryNotCreated path why =>
      "Failed to create output directory: " ++ path ++ ": " ++ why.message
  | .reportNotWritten path why => "Failed to write report: " ++ path ++ ": " ++ why.message
  | .rejectedFrames count => s!"{count} rejected frames detected"
  | .invalidLabel label => "invalid label '" ++ label ++ "'"
  | .invalidValue value => "invalid value '" ++ value ++ "'"
  | .lineTooLong length => s!"group line would be {length} bytes long"

def hint? : Refusal → Option String
  | .invalidPattern _ why => some ("pattern error: " ++ why.message)
  | .noMatch _ => some "check the path or quote the pattern; expected .raw or .bin"
  | .severalMatches .. => some "pass a single capture file, or run once per file"
  | .inputNotFound _ | .inputNotAFile _ => some "use a .raw or .bin capture file"
  | .unsupportedFormat _ => some "expected a .raw or .bin capture of the serial line"
  | .reportIsInput _ => some "choose a different output path"
  | .rejectedFrames _ => some "use --list-errors to inspect"
  | .invalidLabel _ => some "labels are printable ASCII without spaces"
  | .invalidValue _ => some "values are ASCII text"
  | .lineTooLong _ => some s!"lines are limited to {Wire.maxLineLength} bytes"
  | .inputUnresolved .. | .invalidReportPath _ | .decodingFailed _ | .directoryNotCreated ..
  | .reportNotWritten .. => none

def lines (refusal : Refusal) : List String :=
  ("error: " ++ refusal.message) ::
    match refusal.hint? with
    | some hint => ["hint: " ++ hint]
    | none => []

end Refusal

/-- What a command leaves behind. -/
structure Run where
  disk : Disk
  exitCode : Nat
  stdout : String
  stderr : String
  deriving DecidableEq

namespace Run

/-- A text of whole lines. -/
def text (lines : List String) : String :=
  String.join (lines.map (· ++ "\n"))

/-- The exit code of a command of the main program that refuses. -/
def refused : Nat := 2

def report (run : Run) (output : String) : Run :=
  { run with stderr := run.stderr ++ output }

def say (run : Run) (lines : List String) : Run :=
  run.report (text lines)

def refuse (run : Run) (refusal : Refusal) : Run :=
  { run.say refusal.lines with exitCode := refused }

end Run
end TicMeter
