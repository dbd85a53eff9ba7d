import TicMeter.Proofs.Line

/-!
# Step — what one byte can do to a receiver

`Receiver.Steps` lists the transitions, each with the bytes that cause it, the receiver that it
leads to and the event that comes out.

* `Receiver.steps_step`: every step is one of these transitions. What holds of every step is proved
  from this list, one case for each transition.
* `Receiver.complete_eq`: a frame that is closed in order leads to `Event.ofFields`.
-/

namespace TicMeter

/-! ## Closing a frame in order -/

/-- The event for fields whose frame was closed in order. -/
def Event.ofFields (fields : FieldMap) (span : Span) (sequence : Nat) : Event :=
  match FrameKind.classify fields.contains with
  | some kind =>
      .frame
        { kind
          fields := fields.restrict kind.accepts
          span
          sequence
          discarded := fields.labels.filter fun label => !kind.accepts label }
  | none => .rejected (.unclassifiable sequence span fields.labels)

def Stats.ofFields (fields : FieldMap) : Stats :=
  match FrameKind.classify fields.contains with
  | some _ => { framesDecoded := 1 }
  | none => { framesRejected := 1 }

/-- One frame is counted, and nothing else. -/
theorem Stats.ofFields_eq (fields : FieldMap) :
    ∃ decoded rejected : Nat,
      ofFields fields = { framesDecoded := decoded, framesRejected := rejected } ∧
        decoded + rejected = 1 := by
  unfold ofFields
  cases FrameKind.classify fields.contains with
  | some kind => exact ⟨1, 0, rfl, rfl⟩
  | none => exact ⟨0, 1, rfl, rfl⟩

namespace OpenFrame

theorem start_closeLine (frame : OpenFrame) (repair : AdpsRepair) (stats : Stats) :
    (frame.closeLine repair stats).1.start = frame.start := by
  unfold closeLine
  split <;> rfl

end OpenFrame

namespace Receiver

theorem complete_eq (r : Receiver) (frame : OpenFrame) (stop : Nat) :
    (r.complete frame stop).event =
        some (.ofFields frame.fields ⟨frame.start, stop⟩ r.sequence) ∧
      (r.complete frame stop).next =
        { r with
          phase := .complete
          sequence := r.sequence + 1
          stats := r.stats + .ofFields frame.fields } := by
  unfold complete Frame.assemble Event.ofFields Stats.ofFields
  cases FrameKind.classify frame.fields.contains <;> exact ⟨rfl, rfl⟩

/-! ## Transitions -/

def IsBetween (r : Receiver) : Prop :=
  r.phase = .seeking ∨ r.phase = .complete

theorem step_between_stx {r : Receiver} (h : r.IsBetween) :
    (r.step Wire.stx).event = none ∧
      (r.step Wire.stx).next =
        Receiver.openFrame
          { r with position := r.position + 1, stats := r.stats + { bytesRead := 1 } }
          r.position := by
  rcases h with h | h <;> simp [step, h, openFrame, Stats.add_def, Stats.add]

/-- Any other byte between frames is noise. -/
theorem step_between_noise {r : Receiver} (h : r.IsBetween) {b : UInt8} (hb : b ≠ Wire.stx) :
    (r.step b).event = none ∧
      (r.step b).next =
        { r with
          phase := .seeking
          position := r.position + 1
          stats := r.stats + { bytesRead := 1, noiseBytes := 1 } } := by
  rcases h with h | h <;> simp [step, h, hb, Stats.add_def, Stats.add]

/-- The receiver once a byte is counted, before it has any other effect. -/
def counted (r : Receiver) : Receiver :=
  { r with position := r.position + 1, stats := r.stats + { bytesRead := 1 } }

/-- The transitions that the byte `b` can cause. -/
inductive Steps (r : Receiver) (b : UInt8) : Receiver → Option Event → Prop
  /-- a receiver whose source has failed takes no bytes -/
  | faulted : r.phase = .faulted → Steps r b r none
  | opens : r.IsBetween → b = Wire.stx → Steps r b (r.counted.openFrame r.position) none
  | noise : r.IsBetween → b ≠ Wire.stx →
      Steps r b { r.counted with phase := .seeking, stats := r.counted.stats + { noiseBytes := 1 } }
        none
  /-- the byte breaks one frame off and belongs to the next -/
  | cutsIn (frame : OpenFrame) : r.phase = .reading frame → b = Wire.stx →
      Steps r b ((r.counted.interrupt frame r.position).1.openFrame r.position)
        (some (.rejected (.interrupted r.sequence ⟨frame.start, r.position⟩)))
  | givesUp (frame : OpenFrame) : r.phase = .reading frame → b = Wire.eot →
      Steps r b (r.counted.interrupt frame (r.position + 1)).1
        (some (.rejected (.interrupted r.sequence ⟨frame.start, r.position + 1⟩)))
  /-- the byte closes the frame, and with it the line that is held -/
  | closes (frame held : OpenFrame) (stats : Stats) (notices : List Notice) :
      r.phase = .reading frame → b = Wire.etx →
      frame.closeLine r.repair r.counted.stats = (held, stats, notices) →
      Steps r b
        { r.counted with
          phase := .complete
          sequence := r.sequence + 1
          stats := stats + .ofFields held.fields }
        (some (.ofFields held.fields ⟨frame.start, r.position + 1⟩ r.sequence))
  | endsLine (frame held : OpenFrame) (stats : Stats) (notices : List Notice) :
      r.phase = .reading frame → Wire.isDelimiter b →
      frame.closeLine r.repair r.counted.stats = (held, stats, notices) →
      Steps r b { r.counted with phase := .reading held, stats } none
  | growsLine (frame : OpenFrame) : r.phase = .reading frame →
      Wire.isBoundary b = false → Wire.isDelimiter b = false →
      Steps r b
        { r.counted with phase := .reading { frame with line := frame.line.push r.position b } }
        none

theorem steps_stepInFrame {r : Receiver} {frame : OpenFrame} (hphase : r.phase = .reading frame)
    (b : UInt8) :
    r.Steps b (r.counted.stepInFrame frame r.position b).next
      (r.counted.stepInFrame frame r.position b).event := by
  unfold stepInFrame
  -- the bytes are told apart in the order in which `stepInFrame` does
  by_cases hstx : b = Wire.stx
  · rw [if_pos hstx]
    exact .cutsIn frame hphase hstx
  by_cases heot : b = Wire.eot
  · rw [if_neg hstx, if_pos heot]
    exact .givesUp frame hphase heot
  by_cases hetx : b = Wire.etx
  · rw [if_neg hstx, if_neg heot, if_pos hetx]
    rcases hheld : frame.closeLine r.repair r.counted.stats with ⟨held, stats, notices⟩
    have hstart : held.start = frame.start := by
      rw [← frame.start_closeLine r.repair r.counted.stats, hheld]
    rcases complete_eq { r.counted with stats } held (r.position + 1) with ⟨hevent, hnext⟩
    -- closing the line leaves the place where the frame began
    have hcloses : r.Steps b (complete { r.counted with stats } held (r.position + 1)).next
        (complete { r.counted with stats } held (r.position + 1)).event := by
      rw [hevent, hnext, hstart]
      exact .closes frame held stats notices hphase hetx hheld
    have hrepair : r.counted.repair = r.repair := rfl
    simp only [hrepair, hheld]
    exact hcloses
  by_cases hdelimiter : b = Wire.lf ∨ b = Wire.cr
  · rw [if_neg hstx, if_neg heot, if_neg hetx, if_pos hdelimiter]
    rcases hheld : frame.closeLine r.repair r.counted.stats with ⟨held, stats, notices⟩
    have hends := Steps.endsLine frame held stats notices hphase (by simpa [Wire.isDelimiter]) hheld
    have hrepair : r.counted.repair = r.repair := rfl
    simp only [hrepair, hheld]
    exact hends
  · rw [if_neg hstx, if_neg heot, if_neg hetx, if_neg hdelimiter]
    refine .growsLine frame hphase ?_ ?_
    · simp [Wire.isBoundary, hstx, hetx, heot]
    · simpa [Wire.isDelimiter] using hdelimiter

/-- Every step is one of the transitions. -/
theorem steps_step (r : Receiver) (b : UInt8) : r.Steps b (r.step b).next (r.step b).event := by
  have between (hphase : r.IsBetween) : r.Steps b (r.step b).next (r.step b).event := by
    by_cases hb : b = Wire.stx
    · rcases step_between_stx hphase with ⟨hevent, hnext⟩
      rw [hb, hevent, hnext]
      exact .opens hphase rfl
    · rcases step_between_noise hphase hb with ⟨hevent, hnext⟩
      rw [hevent, hnext]
      exact .noise hphase hb
  cases hphase : r.phase with
  | seeking => exact between (.inl hphase)
  | complete => exact between (.inr hphase)
  | faulted =>
    have hstep : r.step b = { next := r, event := none, notices := [] } := by
      simp [step, hphase]
    rw [hstep]
    exact .faulted hphase
  | reading frame =>
    have hstep : r.step b = r.counted.stepInFrame frame r.position b := by
      simp only [step, hphase]
      rfl
    rw [hstep]
    exact steps_stepInFrame hphase b

namespace Steps

variable {r next : Receiver} {b : UInt8} {event : Option Event}

/-- Bytes do not change whether checksums are repaired. -/
theorem repair_eq (h : r.Steps b next event) : next.repair = r.repair := by
  cases h <;> rfl

/-- Events are numbered in the order in which they come out. -/
theorem sequence_eq (h : r.Steps b next event) :
    next.sequence = r.sequence + event.toList.length := by
  cases h <;> rfl

/-- A receiver that has not failed counts every byte. -/
theorem position_eq (h : r.Steps b next event) (hphase : r.phase ≠ .faulted) :
    next.position = r.position + 1 := by
  cases h with
  | faulted hfaulted => exact absurd hfaulted hphase
  | _ => rfl

/-- Bytes never make a receiver fail. -/
theorem phase_ne_faulted (h : r.Steps b next event) (hphase : r.phase ≠ .faulted) :
    next.phase ≠ .faulted := by
  cases h with
  | faulted hfaulted => exact absurd hfaulted hphase
  | _ => simp [openFrame, interrupt]

end Steps

end Receiver
end TicMeter
