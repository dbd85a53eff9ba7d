import TicMeter.Feed
import TicMeter.Frame
import TicMeter.GroupLine
import TicMeter.Text.Quoted

/-!
# Notice — what the decoder reports about its own work

A notice is data: what happened, and where. Its level, its topic and its wording are functions of
it, so that decoding never deals with text.
-/

namespace TicMeter

/-- How grave a notice is, the gravest first. -/
inductive Level
  | error | warn | info | debug | trace
  deriving DecidableEq, Repr

namespace Level

def all : List Level := [.error, .warn, .info, .debug, .trace]

def word : Level → String
  | .error => "ERROR"
  | .warn => "WARN"
  | .info => "INFO"
  | .debug => "DEBUG"
  | .trace => "TRACE"

def rank : Level → Nat
  | .error => 1
  | .warn => 2
  | .info => 3
  | .debug => 4
  | .trace => 5

end Level

inductive Notice
  | frameStarted (offset : Nat)
  | lineSkipped (raw : List UInt8) (offset : Nat) (why : LineError)
  | checksumMismatch (offset : Nat) (why : LineError)
  | checksumRepaired (offset : Nat)
  | labelUnknown (offset : Nat) (why : ValueError)
  | valueDropped (offset : Nat) (why : ValueError)
  | valueVoid (label : Label)
  | labelRepeated (label : Label)
  | labelsForeign (sequence : Nat) (kind : FrameKind) (labels : List Label)
  | frameDecoded (sequence : Nat) (kind : FrameKind)
  | frameRejected (why : FrameError)
  | frameTruncated (fields : Nat) (start : Nat)
  | sourceFailed (offset : Nat) (why : SourceError)
  | labelsDiscarded (sequence : Nat) (labels : List Label)
  | captureDecoded (path : String) (decoded rejected interrupted : Nat)
  | decodingStarted (path : String) (repair : Bool)
  | reportWritten (path : String)
  deriving DecidableEq

namespace Notice

def level : Notice → Level
  | .frameStarted _ | .valueVoid _ => .trace
  | .lineSkipped .. | .checksumMismatch .. | .labelUnknown .. | .valueDropped ..
  | .labelRepeated _ | .labelsForeign .. | .frameDecoded .. | .frameTruncated ..
  | .decodingStarted .. => .debug
  | .captureDecoded .. | .reportWritten _ => .info
  | .checksumRepaired _ | .frameRejected _ | .sourceFailed .. | .labelsDiscarded .. => .warn

/-- The part of the program that a notice is filed under. -/
def topic : Notice → String
  | .labelsForeign .. => "teleinfo_core::frame::assembler"
  | .labelsDiscarded .. | .captureDecoded .. => "teleinfo_core::analysis"
  | .decodingStarted .. | .reportWritten _ => "teleinfo"
  | _ => "teleinfo_core::reader::stream"

def message : Notice → String
  | .frameStarted offset => s!"frame start at byte {offset}"
  | .lineSkipped raw offset why =>
      "skipping line " ++ Text.quoted (Text.ofBytesLossy raw) ++
        s!" at byte {offset}: " ++ why.message
  | .checksumMismatch offset why => s!"skipping line at byte {offset}: " ++ why.message
  | .checksumRepaired offset =>
      "accepted " ++ Wire.adps ++
        s!" line at byte {offset} with the known firmware checksum defect"
  | .labelUnknown offset why => s!"skipping line at byte {offset}: " ++ why.message
  | .valueDropped offset why => s!"dropping field at byte {offset}: " ++ why.message
  | .valueVoid label => label.text ++ " not applicable"
  | .labelRepeated label =>
      label.text ++ " repeated within one frame; keeping the latest value"
  | .labelsForeign sequence kind labels =>
      s!"frame #{sequence} classified as " ++ kind.display ++ "; dropping " ++
        Label.listing labels
  | .frameDecoded sequence kind => s!"frame #{sequence} decoded as " ++ kind.display
  | .frameRejected why => why.message
  | .frameTruncated fields start =>
      s!"source closed mid-frame; dropping {fields} fields of the frame started at byte {start}"
  | .sourceFailed offset why => s!"byte source failed at byte {offset}: " ++ why.message
  | .labelsDiscarded sequence labels =>
      s!"frame #{sequence} carries labels of another variant: " ++ Label.listing labels
  | .captureDecoded path decoded rejected interrupted =>
      path ++ s!": {decoded} frames decoded, {rejected} rejected, {interrupted} interrupted"
  | .decodingStarted path repair =>
      "decoding " ++ path ++ " with ReaderOptions \x7b auto_repair_adps: " ++
        (if repair then "true" else "false") ++ " \x7d"
  | .reportWritten path => "report written to " ++ path

end Notice
end TicMeter
