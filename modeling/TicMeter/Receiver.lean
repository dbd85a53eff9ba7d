import TicMeter.Notice

/-!
# Receiver — the decoder, byte by byte

A receiver looks for the byte that opens a frame, gathers lines until the frame closes or breaks
off, and yields an event for every frame. `Receiver.step` takes one byte, `Receiver.sourceEnded`
and `Receiver.sourceFailed` take the other answers a source can give. Lines that cannot be used
change only the statistics.
-/

namespace TicMeter

/-- Counters over everything that a receiver has read. -/
structure Stats where
  bytesRead : Nat := 0
  /-- bytes outside frames -/
  noiseBytes : Nat := 0
  linesTotal : Nat := 0
  linesUnreadable : Nat := 0
  checksumMismatches : Nat := 0
  adpsRepairs : Nat := 0
  unknownLabels : Nat := 0
  conversionFailures : Nat := 0
  duplicateLabels : Nat := 0
  framesDecoded : Nat := 0
  framesRejected : Nat := 0
  framesInterrupted : Nat := 0
  /-- frames that were open when the source ended -/
  framesTruncated : Nat := 0
  deriving DecidableEq, Repr

/-! ## Lines -/

inductive LineOutcome
  | unreadable (why : LineError)
  | mismatch (label : String) (expected actual : UInt8)
  | unknownLabel (label : String)
  | unconvertible (why : ValueError)
  | void (label : Label)
  | field (label : Label) (value : Value)
  deriving DecidableEq

/-- A line as it was understood, and whether its checksum had to be repaired. -/
structure LineReading where
  outcome : LineOutcome
  repaired : Bool
  deriving DecidableEq

namespace LineReading

/-- What the label and the value of a line with a good checksum say. -/
def ofContent (label value : String) : LineOutcome :=
  match Label.ofText? label with
  | none => .unknownLabel label
  | some label =>
      match label.read value with
      | .ok (some decoded) => .field label decoded
      | .ok none => .void label
      | .error why => .unconvertible why

def ofBytes (repair : AdpsRepair) (raw : List UInt8) : LineReading :=
  match GroupLine.parse raw with
  | .error why => ⟨.unreadable why, false⟩
  | .ok line =>
      match Checksum.verify line.label line.value line.checksum repair with
      | .mismatch expected => ⟨.mismatch line.label expected line.checksum, false⟩
      | .valid => ⟨ofContent line.label line.value, false⟩
      | .repaired => ⟨ofContent line.label line.value, true⟩

/-- The fields once the line is taken in. The latest value of a label stays. -/
def update (reading : LineReading) (fields : FieldMap) : FieldMap :=
  match reading.outcome with
  | .field label value => fields.insert label value
  | _ => fields

/-- Whether the line gives a value to a label that has one. -/
def repeats (reading : LineReading) (fields : FieldMap) : Bool :=
  match reading.outcome with
  | .field label _ => fields.contains label
  | _ => false

def count (reading : LineReading) (fields : FieldMap) (stats : Stats) : Stats :=
  let stats := { stats with linesTotal := stats.linesTotal + 1 }
  let stats :=
    if reading.repaired then { stats with adpsRepairs := stats.adpsRepairs + 1 } else stats
  match reading.outcome with
  | .unreadable _ => { stats with linesUnreadable := stats.linesUnreadable + 1 }
  | .mismatch .. => { stats with checksumMismatches := stats.checksumMismatches + 1 }
  | .unknownLabel _ => { stats with unknownLabels := stats.unknownLabels + 1 }
  | .unconvertible _ => { stats with conversionFailures := stats.conversionFailures + 1 }
  | .void _ => stats
  | .field .. =>
      if reading.repeats fields then { stats with duplicateLabels := stats.duplicateLabels + 1 }
      else stats

/-- What there is to say about a line that began at `offset`. -/
def notices (reading : LineReading) (fields : FieldMap) (raw : List UInt8) (offset : Nat) :
    List Notice :=
  (if reading.repaired then [.checksumRepaired offset] else []) ++
    match reading.outcome with
    | .unreadable why => [.lineSkipped raw offset why]
    | .mismatch label expected actual =>
        [.checksumMismatch offset (.checksumMismatch label expected actual)]
    | .unknownLabel label => [.labelUnknown offset (.unknownLabel label)]
    | .unconvertible why => [.valueDropped offset why]
    | .void label => [.valueVoid label]
    | .field label _ => if reading.repeats fields then [.labelRepeated label] else []

end LineReading

/-! ## States -/

/-- The line that is being received: where it began, and as many of its first bytes as it takes to
see whether it is too long. -/
structure PendingLine where
  start : Nat
  kept : List UInt8
  deriving DecidableEq, Repr

namespace PendingLine

def empty : PendingLine := ⟨0, []⟩

def push (line : PendingLine) (offset : Nat) (b : UInt8) : PendingLine :=
  { start := if line.kept.isEmpty then offset else line.start
    kept := if line.kept.length ≤ Wire.maxLineLength then line.kept ++ [b] else line.kept }

end PendingLine

structure OpenFrame where
  start : Nat
  line : PendingLine
  fields : FieldMap
  deriving DecidableEq

inductive Phase
  /-- between frames -/
  | seeking
  /-- inside a frame -/
  | reading (frame : OpenFrame)
  /-- just after a frame that was closed in order -/
  | complete
  /-- the source failed -/
  | faulted
  deriving DecidableEq

structure Receiver where
  repair : AdpsRepair
  phase : Phase
  /-- offset of the next byte -/
  position : Nat
  /-- number of the next event -/
  sequence : Nat
  stats : Stats
  deriving DecidableEq

structure Transition where
  next : Receiver
  event : Option Event
  notices : List Notice

namespace OpenFrame

/-- Takes in the line that has been received, if it has any bytes. -/
def closeLine (frame : OpenFrame) (repair : AdpsRepair) (stats : Stats) :
    OpenFrame × Stats × List Notice :=
  if frame.line.kept.isEmpty then (frame, stats, [])
  else
    let reading := LineReading.ofBytes repair frame.line.kept
    ({ frame with line := .empty, fields := reading.update frame.fields },
      reading.count frame.fields stats,
      reading.notices frame.fields frame.line.kept frame.line.start)

end OpenFrame

namespace Receiver

def fresh (repair : AdpsRepair) : Receiver :=
  ⟨repair, .seeking, 0, 0, {}⟩

def openFrame (r : Receiver) (offset : Nat) : Receiver :=
  { r with phase := .reading ⟨offset, .empty, .empty⟩ }

/-- Gives up the open frame, which reaches up to `stop`. -/
def interrupt (r : Receiver) (frame : OpenFrame) (stop : Nat) : Receiver × FrameError :=
  ({ r with
      phase := .seeking
      sequence := r.sequence + 1
      stats := { r.stats with framesInterrupted := r.stats.framesInterrupted + 1 } },
    .interrupted r.sequence ⟨frame.start, stop⟩)

/-- Closes the open frame, which reaches up to `stop`. -/
def complete (r : Receiver) (frame : OpenFrame) (stop : Nat) : Transition :=
  let r' := { r with phase := .complete, sequence := r.sequence + 1 }
  match Frame.assemble frame.fields ⟨frame.start, stop⟩ r.sequence with
  | .ok decoded =>
      { next := { r' with stats.framesDecoded := r.stats.framesDecoded + 1 }
        event := some (.frame decoded)
        notices :=
          (if decoded.discarded.isEmpty then []
            else [.labelsForeign decoded.sequence decoded.kind decoded.discarded]) ++
          [.frameDecoded decoded.sequence decoded.kind] }
  | .error why =>
      { next := { r' with stats.framesRejected := r.stats.framesRejected + 1 }
        event := some (.rejected why)
        notices := [.frameRejected why] }

def stepInFrame (r : Receiver) (frame : OpenFrame) (offset : Nat) (b : UInt8) : Transition :=
  if b = Wire.stx then
    -- the byte that breaks the frame off belongs to the frame it opens
    let (r, why) := r.interrupt frame offset
    { next := r.openFrame offset
      event := some (.rejected why)
      notices := [.frameRejected why, .frameStarted offset] }
  else if b = Wire.eot then
    let (r, why) := r.interrupt frame (offset + 1)
    { next := r, event := some (.rejected why), notices := [.frameRejected why] }
  else if b = Wire.etx then
    -- the last line may lack its closing byte
    let (frame, stats, notices) := frame.closeLine r.repair r.stats
    let closed := complete { r with stats } frame (offset + 1)
    { closed with notices := notices ++ closed.notices }
  else if b = Wire.lf ∨ b = Wire.cr then
    let (frame, stats, notices) := frame.closeLine r.repair r.stats
    { next := { r with phase := .reading frame, stats }, event := none, notices }
  else
    { next := { r with phase := .reading { frame with line := frame.line.push offset b } }
      event := none
      notices := [] }

/-- Takes in one byte. A faulted receiver takes none. -/
def step (r : Receiver) (b : UInt8) : Transition :=
  let offset := r.position
  let counted :=
    { r with position := offset + 1, stats.bytesRead := r.stats.bytesRead + 1 }
  match r.phase with
  | .reading frame => counted.stepInFrame frame offset b
  | .faulted => { next := r, event := none, notices := [] }
  | .seeking | .complete =>
      if b = Wire.stx then
        { next := counted.openFrame offset, event := none, notices := [.frameStarted offset] }
      else
        { next :=
            { counted with phase := .seeking, stats.noiseBytes := r.stats.noiseBytes + 1 }
          event := none
          notices := [] }

/-- The source has run dry: an open frame is dropped. -/
def sourceEnded (r : Receiver) : Receiver × List Notice :=
  match r.phase with
  | .reading frame =>
      ({ r with phase := .seeking, stats.framesTruncated := r.stats.framesTruncated + 1 },
        [.frameTruncated frame.fields.size frame.start])
  | _ => ({ r with phase := .seeking }, [])

/-- The source has failed: an open frame is dropped, and the receiver stays faulted. -/
def sourceFailed (r : Receiver) (why : SourceError) : Receiver × List Notice :=
  ({ r with phase := .faulted }, [.sourceFailed r.position why])

end Receiver
end TicMeter
