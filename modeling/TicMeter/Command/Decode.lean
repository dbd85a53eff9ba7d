import TicMeter.Command
import TicMeter.CommandLine
import TicMeter.LogFilter
import TicMeter.Report.Json

/-!
# Decode — the command that turns a capture into a report

The input is a path or a pattern that one file matches. It must be a capture by its extension, and
the report must not take its place. The report goes to standard output or to a file whose
directories are made as needed; notices, the list of rejected frames and a closing line go to the
error output.
-/

namespace TicMeter
namespace DecodeRequest

/-! ## Input -/

def inputPath (disk : Disk) (input : String) : Except Refusal String :=
  if Glob.isPattern input then
    match Glob.Pattern.ofText input with
    | .error why => .error (.invalidPattern input why)
    | .ok pattern =>
        match (Glob.expand disk pattern).filter disk.isFile with
        | [] => .error (.noMatch input)
        | [path] => .ok path
        | paths => .error (.severalMatches input paths)
  else .ok input

/-- Whether a path has the extension of a capture, in any letter case. -/
def isCapturePath (path : String) : Bool :=
  match Path.extension? path with
  | some extension => ["raw", "bin"].contains (String.ofList (extension.toList.map Char.toLower))
  | none => false

/-- Whether a report at this path would take the place of the input. A directory that is not there
cannot hold the input. -/
def checkDistinct (disk : Disk) (report : String) (input : Place) : Except Refusal Unit :=
  match Path.parent? report with
  | none => .ok ()
  | some parent =>
      match disk.resolve (if parent.isEmpty then "." else parent) with
      | .error _ => .ok ()
      -- the names are compared where the directories lead, so that dots do not hide the input
      | .ok directory =>
          match Path.fileName? report with
          | none => .error (.invalidReportPath report)
          | some name =>
              if directory ++ [name] = input then .error (.reportIsInput report) else .ok ()

def checkReport (disk : Disk) (request : DecodeRequest) (input : Place) : Except Refusal Unit :=
  match request.report with
  | some report => checkDistinct disk report input
  | none => .ok ()

def openInput (disk : Disk) (request : DecodeRequest) :
    Except Refusal (String × List UInt8) := do
  let path ← inputPath disk request.input
  if !disk.reaches path then .error (.inputNotFound path)
  else if !isCapturePath path then .error (.unsupportedFormat path)
  else
    match disk.resolve path with
    | .error why => .error (.inputUnresolved path why)
    | .ok place => do
        checkReport disk request place
        match disk.at? place with
        | some (.file bytes) => .ok (path, bytes)
        | _ => .error (.inputNotAFile request.input)

/-! ## Report -/

def layout (request : DecodeRequest) : Json.Layout :=
  if request.pretty then .pretty else .compact

def options (request : DecodeRequest) : Options :=
  { autoRepairAdps := request.autoRepairAdps }

def fileFeed (bytes : List UInt8) : BufferedFeed :=
  .ofScript [.bytes bytes] Wire.readSize

def makeParents (disk : Disk) (path : String) : Disk × Option Refusal :=
  match Path.parent? path with
  | none => (disk, none)
  | some parent =>
      if parent.isEmpty then (disk, none)
      else
        let (disk, why) := disk.createDirectories parent
        (disk, why.map (.directoryNotCreated parent))

def writeReport (run : Run) (path text : String) : Run × Option Refusal :=
  match makeParents run.disk path with
  | (disk, some refusal) => ({ run with disk }, some refusal)
  | (disk, none) =>
      match disk.write path (Text.bytes text) with
      | .error why => ({ run with disk }, some (.reportNotWritten path why))
      | .ok disk => ({ run with disk }, none)

def handOver (request : DecodeRequest) (filter : LogFilter) (run : Run) (text : String) :
    Run × Option Refusal :=
  match request.report with
  | none => ({ run with stdout := run.stdout ++ text }, none)
  | some path =>
      match writeReport run path text with
      | (run, none) => (run.report (filter.log [.reportWritten path]), none)
      | failed => failed

def errorListing (report : Report) : List String :=
  "Frame errors:" :: report.errors.map fun e =>
    s!"  #{e.sequence} " ++ e.kind ++ s!" [{e.span.start}..{e.span.stop}]: " ++ e.message

/-- Tells about a report that was handed over. -/
def conclude (request : DecodeRequest) (run : Run) (report : Report) : Run :=
  let run := if request.listErrors && !request.quiet then run.say (errorListing report) else run
  let run :=
    match request.report with
    | some path =>
        if request.quiet then run
        else
          run.say [s!"OK: {report.frames.length} frames decoded, " ++
            s!"{report.errors.length} rejected -> " ++ path]
    | none => run
  if request.strict && !report.errors.isEmpty then
    run.refuse (.rejectedFrames report.errors.length)
  else run

def deliver (request : DecodeRequest) (filter : LogFilter) (run : Run) (report : Report) : Run :=
  match handOver request filter run (report.render request.layout) with
  | (run, some refusal) => run.refuse refusal
  | (run, none) => conclude request run report

/-- Runs the command. Reports are stamped with the time `now`. -/
def execute (request : DecodeRequest) (filter : LogFilter) (now : String) (run : Run) : Run :=
  match openInput run.disk request with
  | .error refusal => run.refuse refusal
  | .ok (path, bytes) =>
      let outcome := Capture.decode path (fileFeed bytes) request.options
      let run :=
        run.report (filter.log (.decodingStarted path request.autoRepairAdps :: outcome.notices))
      match outcome.result with
      | .error why => run.refuse (.decodingFailed why)
      | .ok report => deliver request filter run { report with generatedAt := now }

end DecodeRequest
end TicMeter
