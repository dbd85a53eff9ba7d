import TicMeter.Json.Parser
import TicMeter.Json.Record
import TicMeter.Report

/-!
# Json — reports as JSON documents

Every part of a report has a JSON value (`toJson`) and is read back from one (`ofJson?`). Lists of
labels that are empty and a missing billing option are left out when written.
-/

namespace TicMeter

/-! ## Vocabularies -/

def AdpsRepair.ofJson? : Json → Option AdpsRepair :=
  Json.asMember? AdpsRepair.all AdpsRepair.word

def MeterFamily.ofJson? : Json → Option MeterFamily :=
  Json.asMember? MeterFamily.all MeterFamily.word

def BillingOption.ofJson? : Json → Option BillingOption :=
  Json.asMember? BillingOption.all BillingOption.word

def TariffPeriod.ofJson? : Json → Option TariffPeriod :=
  Json.asMember? TariffPeriod.all TariffPeriod.word

def DayColour.ofJson? : Json → Option DayColour :=
  Json.asMember? DayColour.all DayColour.word

def ScheduleGroup.ofJson? : Json → Option ScheduleGroup :=
  Json.asMember? ScheduleGroup.all ScheduleGroup.code

namespace CircuitProgramme

def toJson (programme : CircuitProgramme) : Json :=
  .object [("circuit1", .string programme.circuit1.word),
    ("circuit2", .string (SecondCircuit.word programme.circuit2))]

def ofJson? (j : Json) : Option CircuitProgramme := do
  match ← Json.asRecord? ["circuit1", "circuit2"] j with
  | [some circuit1, some circuit2] =>
      let circuit1 ← Json.asMember? FirstCircuit.all FirstCircuit.word circuit1
      let circuit2 ← Json.asMember? SecondCircuit.all SecondCircuit.word circuit2
      some { circuit1, circuit2 }
  | _ => none

end CircuitProgramme

namespace TariffOption

/-- The options that carry no programme. -/
def plain : List TariffOption := [.base, .hc, .ejp]

def word : TariffOption → String
  | .base => "Base"
  | .hc => "Hc"
  | .ejp => "Ejp"
  | .tempo _ => "Tempo"

def toJson : TariffOption → Json
  | .tempo programme => .object [("Tempo", programme.toJson)]
  | o => .string o.word

def ofJson? (j : Json) : Option TariffOption :=
  match j with
  | .object [("Tempo", programme)] => (CircuitProgramme.ofJson? programme).map .tempo
  | _ => Json.asMember? plain word j

end TariffOption

/-! ## Records -/

namespace Span

def toJson (span : Span) : Json :=
  .object [("start", .integer span.start), ("end", .integer span.stop)]

def ofJson? (j : Json) : Option Span := do
  match ← Json.asRecord? ["start", "end"] j with
  | [some start, some stop] => some ⟨← start.asWord?, ← stop.asWord?⟩
  | _ => none

end Span

namespace Options

def toJson (options : Options) : Json :=
  .object [("auto_repair_adps", .bool options.autoRepairAdps)]

def ofJson? (j : Json) : Option Options := do
  match ← Json.asRecord? ["auto_repair_adps"] j with
  | [none] => some {}
  | [some repair] => some ⟨← repair.asBool?⟩
  | _ => none

end Options

namespace Stats

def named (stats : Stats) : List (String × Nat) :=
  [("bytes_read", stats.bytesRead), ("noise_bytes", stats.noiseBytes),
    ("lines_total", stats.linesTotal), ("lines_unreadable", stats.linesUnreadable),
    ("checksum_mismatches", stats.checksumMismatches), ("adps_repairs", stats.adpsRepairs),
    ("unknown_labels", stats.unknownLabels), ("conversion_failures", stats.conversionFailures),
    ("duplicate_labels", stats.duplicateLabels), ("frames_decoded", stats.framesDecoded),
    ("frames_rejected", stats.framesRejected), ("frames_interrupted", stats.framesInterrupted),
    ("frames_truncated", stats.framesTruncated)]

def toJson (stats : Stats) : Json :=
  .object (stats.named.map fun (name, n) => (name, .integer n))

def ofJson? (j : Json) : Option Stats := do
  let slots ← Json.asRecord? ((named {}).map (·.1)) j
  match ← slots.mapM (·.bind Json.asWord?) with
  | [bytesRead, noiseBytes, linesTotal, linesUnreadable, checksumMismatches, adpsRepairs,
      unknownLabels, conversionFailures, duplicateLabels, framesDecoded, framesRejected,
      framesInterrupted, framesTruncated] =>
      some { bytesRead, noiseBytes, linesTotal, linesUnreadable, checksumMismatches, adpsRepairs,
             unknownLabels, conversionFailures, duplicateLabels, framesDecoded, framesRejected,
             framesInterrupted, framesTruncated }
  | _ => none

end Stats

namespace ToolInfo

def toJson (tool : ToolInfo) : Json :=
  .object [("name", .string tool.name), ("version", .string tool.version)]

def ofJson? (j : Json) : Option ToolInfo := do
  match ← Json.asRecord? ["name", "version"] j with
  | [some name, some version] => some ⟨← name.asString?, ← version.asString?⟩
  | _ => none

end ToolInfo

namespace InputInfo

def toJson (input : InputInfo) : Json :=
  .object [("path", .string input.path), ("bytes", .integer input.bytes)]

def ofJson? (j : Json) : Option InputInfo := do
  match ← Json.asRecord? ["path", "bytes"] j with
  | [some path, some bytes] => some ⟨← path.asString?, ← bytes.asWord?⟩
  | _ => none

end InputInfo

/-- A member with a list of texts, unless the list is empty. -/
def Json.listMember (key : String) (items : List String) : List (String × Json) :=
  if items.isEmpty then [] else [(key, .array (items.map .string))]

/-- A list of texts, empty if it was left out. -/
def Json.asTexts? : Option Json → Option (List String)
  | none => some []
  | some j => j.asList? Json.asString?

namespace FrameSummary

def toJson (frame : FrameSummary) : Json :=
  .object ([("sequence", .integer frame.sequence), ("span", frame.span.toJson),
      ("family", .string frame.family.word)] ++
    (match frame.option with
      | some option => [("option", .string option.word)]
      | none => []) ++
    [("fields", .object frame.fields.entries)] ++
    Json.listMember "discarded_labels" frame.discardedLabels)

/-- A billing option that was left out or is null is none. -/
def option? : Option Json → Option (Option BillingOption)
  | none | some .null => some none
  | some j => (BillingOption.ofJson? j).map some

/-- Reads a summary inside of which `depth` more containers may be nested. -/
def ofJson? (depth : Nat) (j : Json) : Option FrameSummary := do
  match ← Json.asRecord?
      ["sequence", "span", "family", "option", "fields", "discarded_labels"] j with
  | [some sequence, some span, some family, option, some fields, discarded] =>
      some { sequence := ← sequence.asWord?
             span := ← Span.ofJson? span
             family := ← MeterFamily.ofJson? family
             option := ← option? option
             fields := ← fields.asKeyMap? (depth - 1)
             discardedLabels := ← Json.asTexts? discarded }
  | _ => none

end FrameSummary

namespace RejectionSummary

def toJson (rejection : RejectionSummary) : Json :=
  .object ([("sequence", .integer rejection.sequence), ("span", rejection.span.toJson),
      ("kind", .string rejection.kind), ("message", .string rejection.message)] ++
    Json.listMember "labels" rejection.labels)

def ofJson? (j : Json) : Option RejectionSummary := do
  match ← Json.asRecord? ["sequence", "span", "kind", "message", "labels"] j with
  | [some sequence, some span, some kind, some message, labels] =>
      some { sequence := ← sequence.asWord?
             span := ← Span.ofJson? span
             kind := ← kind.asString?
             message := ← message.asString?
             labels := ← Json.asTexts? labels }
  | _ => none

end RejectionSummary

namespace Report

def toJson (report : Report) : Json :=
  .object [("report_version", .integer report.reportVersion), ("tool", report.tool.toJson),
    ("generated_at", .string report.generatedAt), ("input", report.input.toJson),
    ("options", report.options.toJson), ("summary", report.summary.toJson),
    ("frames", .array (report.frames.map FrameSummary.toJson)),
    ("errors", .array (report.errors.map RejectionSummary.toJson))]

def ofJson? (j : Json) : Option Report := do
  match ← Json.asRecord? ["report_version", "tool", "generated_at", "input", "options",
      "summary", "frames", "errors"] j with
  | [some version, some tool, some generatedAt, some input, some options, some summary,
      some frames, some errors] =>
      some { reportVersion := ← version.asNat? UInt32.size
             tool := ← ToolInfo.ofJson? tool
             generatedAt := ← generatedAt.asString?
             input := ← InputInfo.ofJson? input
             options := ← Options.ofJson? options
             summary := ← Stats.ofJson? summary
             frames := ← frames.asList? (FrameSummary.ofJson? (Json.maxDepth - 3))
             errors := ← errors.asList? RejectionSummary.ofJson? }
  | _ => none

def render (layout : Json.Layout) (report : Report) : String :=
  report.toJson.render layout

def parse? (text : String) : Option Report :=
  (Json.parse? text).bind ofJson?

end Report
end TicMeter
