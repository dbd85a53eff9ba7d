import TicMeter.Report
import TicMeter.Session

/-!
# Capture — a whole recording decoded into a report

`Capture.decode` drains a source. A source that fails gives no report; frames that are rejected go
into the report.
-/

namespace TicMeter
namespace Capture

inductive Error
  | source (why : SourceError)
  deriving DecidableEq, Repr

namespace Error

def message : Error → String
  | .source why => "Source error: " ++ why.message

end Error

structure Outcome where
  result : Except Error Report
  notices : List Notice

/-- What there is to say about an event besides its decoding. -/
def remarks : Event → List Notice
  | .frame frame =>
      if frame.discarded.isEmpty then [] else [.labelsDiscarded frame.sequence frame.discarded]
  | .rejected _ => []

/-- The report on a stream that ended with these statistics after these events. -/
def summarize (path : String) (options : Options) (events : List Event) (stats : Stats) : Report :=
  { Report.stub path stats.bytesRead options with
    summary := stats
    frames := events.filterMap fun
      | .frame frame => some (.ofFrame frame)
      | .rejected _ => none
    errors := events.filterMap fun
      | .frame _ => none
      | .rejected why => some (.ofError why) }

def decode {σ : Type} [ByteSource σ] (path : String) (source : σ) (options : Options) : Outcome :=
  let drained := (Session.start options.repair source).drain
  let notices :=
    drained.events.flatMap (fun (event, notices) => notices ++ remarks event) ++ drained.notices
  match drained.ending with
  | .failed why => ⟨.error (.source why), notices⟩
  | .ended =>
      let stats := drained.session.receiver.stats
      ⟨.ok (summarize path options (drained.events.map (·.1)) stats),
        notices ++
          [.captureDecoded path stats.framesDecoded stats.framesRejected stats.framesInterrupted]⟩

end Capture
end TicMeter
