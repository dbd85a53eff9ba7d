import TicMeter.Json
import TicMeter.Receiver

/-!
# Report — what a decoded capture comes to

A report lists the frames and the rejected transmissions of one capture in the order of the stream,
with the statistics of the receiver. Values of fields are JSON values: numbers for integers, and the
display text for everything else.
-/

namespace TicMeter

structure Options where
  autoRepairAdps : Bool := false
  deriving DecidableEq, Repr

namespace Options

def repair (options : Options) : AdpsRepair :=
  .ofBool options.autoRepairAdps

end Options

structure ToolInfo where
  name : String
  version : String
  deriving DecidableEq, Repr

structure InputInfo where
  path : String
  bytes : Nat
  deriving DecidableEq, Repr

structure FrameSummary where
  sequence : Nat
  span : Span
  family : MeterFamily
  option : Option BillingOption
  fields : KeyMap Json
  discardedLabels : List String

structure RejectionSummary where
  sequence : Nat
  span : Span
  kind : String
  message : String
  labels : List String
  deriving DecidableEq, Repr

structure Report where
  reportVersion : Nat
  tool : ToolInfo
  generatedAt : String
  input : InputInfo
  options : Options
  summary : Stats
  frames : List FrameSummary
  errors : List RejectionSummary

def Value.toJson : Value → Json
  | .integer n => .integer n.toNat
  | v => .string v.display

namespace FrameSummary

def ofFrame (frame : Frame) : FrameSummary where
  sequence := frame.sequence
  span := frame.span
  family := frame.kind.family
  option := frame.kind.option?
  fields :=
    KeyMap.ofList (frame.fields.entries.map fun (label, value) => (label.text, value.toJson))
  discardedLabels := frame.discarded.map Label.text

end FrameSummary

namespace RejectionSummary

def ofError (why : FrameError) : RejectionSummary where
  sequence := why.sequence
  span := why.span
  kind := why.word
  message := why.message
  labels := why.labels.map Label.text

end RejectionSummary

namespace Report

/-- The version of the layout of reports. -/
def currentVersion : Nat := 1

/-- Stands for the time of generation where no clock is read. -/
def defaultGeneratedAt : String := "1970-01-01T00:00:00Z"

def currentTool : ToolInfo := ⟨"teleinfo", "0.1.0"⟩

/-- A report on a capture of which nothing has been decoded. -/
def stub (path : String) (bytes : Nat) (options : Options) : Report where
  reportVersion := currentVersion
  tool := currentTool
  generatedAt := defaultGeneratedAt
  input := ⟨path, bytes⟩
  options := options
  summary := {}
  frames := []
  errors := []

end Report
end TicMeter
