import TicMeter.Proofs.Transmission

/-!
# Concatenation — what came before a frame does not matter

A receiver that has already read something differs from a fresh one in its offsets, in the number of
the next event and in the counters, and in nothing else that the next `stx` would leave in place.

* `Receiver.step_shift`: a step commutes with moving a receiver to a later place.
* `Receiver.run_stx`: from a frame's first byte on, every receiver behaves as a fresh one that was
  moved to its place.
* `Session.drain_append_onBytes`: what is drained from two recordings, one after the other.
-/

namespace TicMeter

/-! ## Moving to a later place -/

def Span.shift (offset : Nat) (span : Span) : Span :=
  ⟨offset + span.start, offset + span.stop⟩

def FrameError.shift (offset events : Nat) : FrameError → FrameError
  | .unclassifiable sequence span labels =>
      .unclassifiable (events + sequence) (span.shift offset) labels
  | .interrupted sequence span => .interrupted (events + sequence) (span.shift offset)

/-- The event as it comes after `offset` bytes and `events` events. -/
def Event.shift (offset events : Nat) : Event → Event
  | .frame f => .frame { f with span := f.span.shift offset, sequence := events + f.sequence }
  | .rejected why => .rejected (why.shift offset events)

theorem Event.shift_ofFields (offset events : Nat) (fields : FieldMap) (span : Span)
    (sequence : Nat) :
    (Event.ofFields fields span sequence).shift offset events =
      .ofFields fields (span.shift offset) (events + sequence) := by
  unfold ofFields
  cases FrameKind.classify fields.contains <;> rfl

/-- An empty line has not begun anywhere. -/
def PendingLine.shift (offset : Nat) (line : PendingLine) : PendingLine :=
  { line with start := if line.kept.isEmpty then line.start else offset + line.start }

theorem PendingLine.push_shift (offset place : Nat) (line : PendingLine) (b : UInt8) :
    (line.shift offset).push (offset + place) b = (line.push place b).shift offset := by
  rcases line with ⟨start, kept⟩
  cases kept with
  | nil => simp [push, shift]
  | cons a rest =>
    have hkept : (if (a :: rest).length ≤ Wire.maxLineLength then a :: rest ++ [b]
        else a :: rest).isEmpty = false := by
      split <;> rfl
    simp only [push, shift, hkept]
    rfl

namespace OpenFrame

def shift (offset : Nat) (frame : OpenFrame) : OpenFrame :=
  ⟨offset + frame.start, frame.line.shift offset, frame.fields⟩

theorem closeLine_shift (offset : Nat) (base : Stats) (frame : OpenFrame) (repair : AdpsRepair)
    (stats : Stats) :
    ((frame.shift offset).closeLine repair (base + stats)).1 =
        (frame.closeLine repair stats).1.shift offset ∧
      ((frame.shift offset).closeLine repair (base + stats)).2.1 =
        base + (frame.closeLine repair stats).2.1 := by
  have hkept : (frame.shift offset).line.kept = frame.line.kept := rfl
  have hfields : (frame.shift offset).fields = frame.fields := rfl
  unfold closeLine
  rw [hkept, hfields]
  by_cases hempty : frame.line.kept.isEmpty
  · simp [hempty]
  · rw [if_neg hempty, if_neg hempty]
    exact ⟨rfl, LineReading.count_add _ _ _ _⟩

end OpenFrame

def Phase.shift (offset : Nat) : Phase → Phase
  | .reading frame => .reading (frame.shift offset)
  | phase => phase

namespace Receiver

/-- The receiver as it is after `offset` bytes, `events` events and the statistics `base` that it
does not know of. -/
def shift (offset events : Nat) (base : Stats) (r : Receiver) : Receiver where
  repair := r.repair
  phase := r.phase.shift offset
  position := offset + r.position
  sequence := events + r.sequence
  stats := base + r.stats

section Shift

variable (offset events : Nat) (base : Stats)

theorem complete_shift (r : Receiver) (frame : OpenFrame) (stop : Nat) :
    ((r.shift offset events base).complete (frame.shift offset) (offset + stop)).next =
        (r.complete frame stop).next.shift offset events base ∧
      ((r.shift offset events base).complete (frame.shift offset) (offset + stop)).event =
        (r.complete frame stop).event.map (Event.shift offset events) := by
  rcases complete_eq r frame stop with ⟨hevent, hnext⟩
  rcases complete_eq (r.shift offset events base) (frame.shift offset) (offset + stop) with
    ⟨hevent', hnext'⟩
  rw [hevent, hnext, hevent', hnext', Option.map_some, Event.shift_ofFields]
  refine ⟨?_, rfl⟩
  simp [shift, OpenFrame.shift, Phase.shift, add_assoc base, Nat.add_assoc]

theorem stepInFrame_shift (r : Receiver) (frame : OpenFrame) (place : Nat) (b : UInt8) :
    ((r.shift offset events base).stepInFrame (frame.shift offset) (offset + place) b).next =
        (r.stepInFrame frame place b).next.shift offset events base ∧
      ((r.shift offset events base).stepInFrame (frame.shift offset) (offset + place) b).event =
        (r.stepInFrame frame place b).event.map (Event.shift offset events) := by
  rcases OpenFrame.closeLine_shift offset base frame r.repair r.stats with ⟨hframe, hstats⟩
  have hrepair' : (r.shift offset events base).repair = r.repair := rfl
  have hstats' : (r.shift offset events base).stats = base + r.stats := rfl
  -- which branch is taken depends on the byte only, which a shift does not move
  unfold stepInFrame
  split
  · exact ⟨rfl, rfl⟩
  split
  · exact ⟨rfl, rfl⟩
  split
  · simp only [hrepair', hstats', hframe, hstats]
    exact complete_shift offset events base
      { r with stats := (frame.closeLine r.repair r.stats).2.1 }
      (frame.closeLine r.repair r.stats).1 (place + 1)
  split
  · simp only [hrepair', hstats', hframe, hstats]
    exact ⟨rfl, rfl⟩
  · have hpush := PendingLine.push_shift offset place frame.line b
    have hline : (frame.shift offset).line = frame.line.shift offset := rfl
    rw [hline, hpush]
    exact ⟨rfl, rfl⟩

/-- Receivers do not look at offsets, numbers of events and counters. -/
theorem step_shift (r : Receiver) (b : UInt8) :
    ((r.shift offset events base).step b).next = (r.step b).next.shift offset events base ∧
      ((r.shift offset events base).step b).event =
        (r.step b).event.map (Event.shift offset events) := by
  have between (hphase : r.IsBetween) :
      ((r.shift offset events base).step b).next = (r.step b).next.shift offset events base ∧
        ((r.shift offset events base).step b).event =
          (r.step b).event.map (Event.shift offset events) := by
    have hphase' : (r.shift offset events base).IsBetween := by
      rcases hphase with h | h <;> simp [IsBetween, shift, h, Phase.shift]
    by_cases hb : b = Wire.stx
    · subst hb
      rcases step_between_stx hphase with ⟨hevent, hnext⟩
      rcases step_between_stx hphase' with ⟨hevent', hnext'⟩
      rw [hevent, hevent', hnext, hnext']
      exact ⟨rfl, rfl⟩
    · rcases step_between_noise hphase hb with ⟨hevent, hnext⟩
      rcases step_between_noise hphase' hb with ⟨hevent', hnext'⟩
      rw [hevent, hevent', hnext, hnext']
      exact ⟨rfl, rfl⟩
  cases hphase : r.phase with
  | seeking => exact between (.inl hphase)
  | complete => exact between (.inr hphase)
  | faulted =>
    simp [step, shift, hphase, Phase.shift]
  | reading frame =>
    have key := stepInFrame_shift offset events base r.counted frame r.position b
    simp only [step, shift, hphase, Phase.shift]
    exact key

theorem after_shift (r : Receiver) (bytes : List UInt8) :
    (r.shift offset events base).after bytes = (r.after bytes).shift offset events base := by
  induction bytes generalizing r with
  | nil => rfl
  | cons b rest ih => rw [after_cons, after_cons, (step_shift offset events base r b).1, ih]

theorem emits_shift (r : Receiver) (bytes : List UInt8) :
    (r.shift offset events base).emits bytes =
      (r.emits bytes).map (Event.shift offset events) := by
  induction bytes generalizing r with
  | nil => rfl
  | cons b rest ih =>
    rcases step_shift offset events base r b with ⟨hnext, hevent⟩
    rw [emits_cons, emits_cons, hnext, hevent, ih, List.map_append]
    cases (r.step b).event <;> rfl

/-- An open frame is dropped at the end of the source, wherever it began. -/
theorem stats_sourceEnded_shift (r : Receiver) :
    (r.shift offset events base).sourceEnded.1.stats = base + r.sourceEnded.1.stats := by
  cases hphase : r.phase <;>
    simp [sourceEnded, shift, hphase, Phase.shift, Stats.add_def, Stats.add, Nat.add_assoc]

end Shift

theorem stats_sourceEnded (r : Receiver) :
    r.sourceEnded.1.stats =
      r.stats + { framesTruncated := if r.openStart?.isSome then 1 else 0 } := by
  cases hphase : r.phase <;> simp [sourceEnded, openStart?, hphase, Stats.add_def, Stats.add]

/-! ## From the first byte of a frame on -/

section Opening

variable {r : Receiver} (bytes : List UInt8)

/-- Between frames, an `stx` makes every receiver a fresh one at a later place. -/
theorem run_stx_of_isBetween (h : r.IsBetween) :
    r.after (Wire.stx :: bytes) =
        ((fresh r.repair).after (Wire.stx :: bytes)).shift r.position r.sequence r.stats ∧
      r.emits (Wire.stx :: bytes) =
        ((fresh r.repair).emits (Wire.stx :: bytes)).map
          (Event.shift r.position r.sequence) := by
  rcases step_between_stx h with ⟨hevent, hnext⟩
  rcases step_between_stx (r := fresh r.repair) (.inl rfl) with ⟨hevent', hnext'⟩
  have hshift : (r.step Wire.stx).next =
      ((fresh r.repair).step Wire.stx).next.shift r.position r.sequence r.stats := by
    rw [hnext, hnext']
    rfl
  constructor
  · rw [after_cons, after_cons, hshift, after_shift]
  · rw [emits_cons, emits_cons, hevent, hevent', hshift, emits_shift]
    rfl

/-- Inside a frame, it breaks the frame off besides. -/
theorem run_stx_of_reading {frame : OpenFrame} (h : r.phase = .reading frame) :
    r.after (Wire.stx :: bytes) =
        ((fresh r.repair).after (Wire.stx :: bytes)).shift r.position (r.sequence + 1)
          (r.stats + { framesInterrupted := 1 }) ∧
      r.emits (Wire.stx :: bytes) =
        .rejected (.interrupted r.sequence ⟨frame.start, r.position⟩) ::
          ((fresh r.repair).emits (Wire.stx :: bytes)).map
            (Event.shift r.position (r.sequence + 1)) := by
  have hevent : (r.step Wire.stx).event =
      some (.rejected (.interrupted r.sequence ⟨frame.start, r.position⟩)) := by
    simp [step, h, stepInFrame, interrupt]
  rcases step_between_stx (r := fresh r.repair) (.inl rfl) with ⟨hevent', hnext'⟩
  -- after the byte nothing is left of the frame that was open but its event and its count
  have hshift : (r.step Wire.stx).next =
      ((fresh r.repair).step Wire.stx).next.shift r.position (r.sequence + 1)
        (r.stats + { framesInterrupted := 1 }) := by
    rw [hnext']
    simp [step, h, stepInFrame, interrupt, openFrame, shift, fresh, Phase.shift, OpenFrame.shift,
      PendingLine.shift, PendingLine.empty, Stats.add_def, Stats.add]
  constructor
  · rw [after_cons, after_cons, hshift, after_shift]
  · rw [emits_cons, emits_cons, hevent, hevent', hshift, emits_shift]
    rfl

/-- The event that a receiver has left for the next `stx`: it breaks off the frame that is open. -/
def interruption (r : Receiver) : List Event :=
  match r.openStart? with
  | some start => [.rejected (.interrupted r.sequence ⟨start, r.position⟩)]
  | none => []

/-- From an `stx` on, a receiver that has not failed is a fresh one at its place, after it has
reported the frame that it was inside of. -/
theorem run_stx (h : r.phase ≠ .faulted) :
    r.emits (Wire.stx :: bytes) =
        r.interruption ++
          ((fresh r.repair).emits (Wire.stx :: bytes)).map
            (Event.shift r.position (r.sequence + r.interruption.length)) ∧
      (r.after (Wire.stx :: bytes)).sourceEnded.1.stats +
          { framesTruncated := r.interruption.length } =
        r.sourceEnded.1.stats + ((fresh r.repair).after (Wire.stx :: bytes)).sourceEnded.1.stats +
          { framesInterrupted := r.interruption.length } := by
  have between (hphase : r.IsBetween) : r.openStart? = none := by
    rcases hphase with hphase | hphase <;> simp [openStart?, hphase]
  have closed (hphase : r.IsBetween) :
      r.emits (Wire.stx :: bytes) =
          ((fresh r.repair).emits (Wire.stx :: bytes)).map (Event.shift r.position r.sequence) ∧
        (r.after (Wire.stx :: bytes)).sourceEnded.1.stats =
          r.sourceEnded.1.stats +
            ((fresh r.repair).after (Wire.stx :: bytes)).sourceEnded.1.stats := by
    rcases run_stx_of_isBetween bytes hphase with ⟨hafter, hemits⟩
    refine ⟨hemits, ?_⟩
    rw [hafter, stats_sourceEnded_shift, stats_sourceEnded r, between hphase]
    rfl
  cases hphase : r.phase with
  | faulted => exact absurd hphase h
  | seeking =>
    simpa [interruption, between (.inl hphase), ← Stats.zero_def] using closed (.inl hphase)
  | complete =>
    simpa [interruption, between (.inr hphase), ← Stats.zero_def] using closed (.inr hphase)
  | reading frame =>
    have hopen : r.openStart? = some frame.start := by simp [openStart?, hphase]
    rcases run_stx_of_reading bytes hphase with ⟨hafter, hemits⟩
    constructor
    · simp [interruption, hopen, hemits]
    · rw [hafter, stats_sourceEnded_shift, stats_sourceEnded r, hopen]
      simp only [interruption, hopen, List.length_singleton, Option.isSome_some, if_true]
      -- what was cut off would have been counted as truncated, and is counted as interrupted
      ac_rfl

end Opening

end Receiver

/-! ## Recordings one after the other -/

/-- The event that a recording leaves to the next `stx`: it breaks off the transmission that the
recording has cut off. -/
def Transmission.interruption (sequence : Nat) (bytes : List UInt8) : List Event :=
  match openStart? bytes with
  | some start => [.rejected (.interrupted sequence ⟨start, bytes.length⟩)]
  | none => []

namespace Session

/-- A recording that begins with a frame is decoded the same after any other recording. Only the
transmission that the first recording cuts off is counted as interrupted instead of truncated. -/
theorem drain_append_onBytes (repair : AdpsRepair) (as bs : List UInt8) :
    let a := (onBytes repair as).drain
    let b := (onBytes repair (Wire.stx :: bs)).drain
    let ab := (onBytes repair (as ++ Wire.stx :: bs)).drain
    let interruption := Transmission.interruption a.events.length as
    ab.events.map Prod.fst =
        a.events.map Prod.fst ++ interruption ++
          (b.events.map Prod.fst).map
            (Event.shift as.length (a.events.length + interruption.length)) ∧
      ab.session.receiver.stats + { framesTruncated := interruption.length } =
        a.session.receiver.stats + b.session.receiver.stats +
          { framesInterrupted := interruption.length } := by
  intro a b ab interruption
  rcases drain_onBytes repair as with ⟨haEvents, -, haReceiver⟩
  rcases drain_onBytes repair (Wire.stx :: bs) with ⟨hbEvents, -, hbReceiver⟩
  rcases drain_onBytes repair (as ++ Wire.stx :: bs) with ⟨habEvents, -, habReceiver⟩
  have hposition := Receiver.position_after_fresh repair as
  have hsequence : ((Receiver.fresh repair).after as).sequence = a.events.length := by
    have hlength := congrArg List.length haEvents
    rw [List.length_map] at hlength
    rw [Receiver.sequence_after, ← hlength]
    exact Nat.zero_add _
  -- the frame that the first recording leaves open is read off its bytes
  have hinterruption : ((Receiver.fresh repair).after as).interruption = interruption := by
    rw [Receiver.interruption, Receiver.openStart?_after, hposition, hsequence]
    rfl
  have hrepair : ((Receiver.fresh repair).after as).repair = repair := Receiver.repair_after _ as
  rcases Receiver.run_stx bs (Receiver.phase_after_fresh_ne_faulted repair as) with
    ⟨hemits, hstats⟩
  rw [hinterruption, hrepair, hposition, hsequence] at hemits
  rw [hinterruption, hrepair] at hstats
  constructor
  · rw [habEvents, haEvents, hbEvents, Receiver.emits_append, hemits, List.append_assoc]
  · rw [habReceiver, haReceiver, hbReceiver, Receiver.after_append]
    exact hstats

end Session
end TicMeter
