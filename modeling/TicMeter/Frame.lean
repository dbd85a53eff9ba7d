import TicMeter.FieldMap
import TicMeter.FrameKind

/-!
# Frame — classified transmissions and rejected ones

When a frame closes, its fields are classified (`Frame.assemble`). A frame keeps the fields that its
kind accepts and names the labels it dropped; fields that fit no kind make a rejection.
-/

namespace TicMeter

/-- The bytes of a stream from `start` up to but not including `stop`. -/
structure Span where
  start : Nat
  stop : Nat
  deriving DecidableEq, Repr

namespace Span

def length (span : Span) : Nat :=
  span.stop - span.start

def isEmpty (span : Span) : Bool :=
  span.length = 0

end Span

/-- One classified transmission. -/
structure Frame where
  kind : FrameKind
  fields : FieldMap
  span : Span
  /-- place among the events of its stream -/
  sequence : Nat
  /-- labels that were read but belong to other kinds -/
  discarded : List Label
  deriving DecidableEq

inductive FrameError
  | unclassifiable (sequence : Nat) (span : Span) (labels : List Label)
  | interrupted (sequence : Nat) (span : Span)
  deriving DecidableEq, Repr

/-- What a stream of bytes yields. -/
inductive Event
  | frame (frame : Frame)
  | rejected (why : FrameError)
  deriving DecidableEq

namespace FrameError

def sequence : FrameError → Nat
  | .unclassifiable sequence _ _ | .interrupted sequence _ => sequence

def span : FrameError → Span
  | .unclassifiable _ span _ | .interrupted _ span => span

/-- The labels that had been read, for a frame that fits no kind. -/
def labels : FrameError → List Label
  | .unclassifiable _ _ labels => labels
  | .interrupted .. => []

def word : FrameError → String
  | .unclassifiable .. => "unclassifiable"
  | .interrupted .. => "interrupted"

def message : FrameError → String
  | .unclassifiable sequence span labels =>
      s!"frame #{sequence} at byte {span.start} matches no known variant " ++
        s!"({labels.length} labels decoded)"
  | .interrupted sequence span =>
      s!"frame #{sequence} at byte {span.start} was interrupted before its end marker"

end FrameError

namespace Event

def sequence : Event → Nat
  | .frame f => f.sequence
  | .rejected why => why.sequence

def span : Event → Span
  | .frame f => f.span
  | .rejected why => why.span

end Event

namespace Frame

def assemble (fields : FieldMap) (span : Span) (sequence : Nat) : Except FrameError Frame :=
  match FrameKind.classify fields.contains with
  | none => .error (.unclassifiable sequence span fields.labels)
  | some kind =>
      .ok { kind
            fields := fields.restrict kind.accepts
            span
            sequence
            discarded := fields.labels.filter fun label => !kind.accepts label }

/-! ## Typed access -/

def integer? (frame : Frame) (label : Label) : Option UInt32 :=
  (frame.fields.get? label).bind Value.asInteger

def text? (frame : Frame) (label : Label) : Option String :=
  (frame.fields.get? label).bind Value.asText

/-- The address of the meter. -/
def adco? (frame : Frame) : Option String :=
  frame.text? .adco

def period? (frame : Frame) : Option TariffPeriod :=
  match frame.fields.get? .ptec with
  | some (.period p) => some p
  | _ => none

def schedule? (frame : Frame) : Option ScheduleGroup :=
  match frame.fields.get? .hhphc with
  | some (.schedule group) => some group
  | _ => none

def tomorrow? (frame : Frame) : Option DayColour :=
  match frame.fields.get? .demain with
  | some (.tomorrow colour) => some colour
  | _ => none

def option? (frame : Frame) : Option TariffOption :=
  match frame.fields.get? .optarif with
  | some (.option o) => some o
  | _ => none

/-- The programme of the switched circuits, which the coloured option announces. -/
def programme? (frame : Frame) : Option CircuitProgramme :=
  match frame.option? with
  | some (.tempo programme) => some programme
  | _ => none

end Frame
end TicMeter
