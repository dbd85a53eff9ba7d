import Mathlib.Tactic.Abel
import TicMeter.Proofs.Concatenation

/-!
# Statistics — what a recording counts, told without a receiver

`TicMeter.Proofs.Transmission` reads the events of a recording off the bytes as a whole. This file
does the same for the statistics: every transmission has a tally of its own, and what was counted is
the sum of them.

* `Transmission.taken`: the lines that are taken in of a transmission. Those of a frame that breaks
  off count as far as they were finished.
* `Transmission.tally`: what one transmission adds to the counters.
* `Session.stats_drain_onBytes`: a drained session has counted the tallies of all transmissions, and
  every byte outside of them as noise.
-/

namespace TicMeter

def Stats.ofBytes (read noise : Nat) : Stats :=
  { bytesRead := read, noiseBytes := noise }

namespace Stats

variable (s lines closing : Stats) (read noise : Nat)

theorem add_one_read :
    s + { bytesRead := 1 } + ofBytes read noise = s + ofBytes (read + 1) noise := by
  have hread : ({ bytesRead := 1 } : Stats) + ofBytes read noise = ofBytes (read + 1) noise := by
    simp [ofBytes, add_def, add, Nat.add_comm]
  rw [add_assoc, hread]

theorem add_one_noise :
    s + { bytesRead := 1, noiseBytes := 1 } + ofBytes read noise =
      s + ofBytes (read + 1) (noise + 1) := by
  have hread : ({ bytesRead := 1, noiseBytes := 1 } : Stats) + ofBytes read noise =
      ofBytes (read + 1) (noise + 1) := by
    simp [ofBytes, add_def, add, Nat.add_comm]
  rw [add_assoc, hread]

/-- What the bytes of a frame count, apart from what its lines and its end count. -/
theorem add_frame (interior : Nat) :
    s + { bytesRead := interior + 1 } + lines + closing + ofBytes read noise =
      s + ofBytes (interior + (read + 1)) noise + (lines + closing) := by
  have hread : ({ bytesRead := interior + 1 } : Stats) + ofBytes read noise =
      ofBytes (interior + (read + 1)) noise := by
    simp [ofBytes, add_def, add, Nat.add_assoc, Nat.add_comm 1]
  calc s + { bytesRead := interior + 1 } + lines + closing + ofBytes read noise
      = s + ({ bytesRead := interior + 1 } + ofBytes read noise) + (lines + closing) := by abel
    _ = s + ofBytes (interior + (read + 1)) noise + (lines + closing) := by rw [hread]

theorem add_interruption (interior : Nat) :
    s + { bytesRead := interior } + lines + { bytesRead := 1, framesInterrupted := 1 } +
        ofBytes read noise =
      s + ofBytes (interior + (read + 1)) noise + (lines + { framesInterrupted := 1 }) := by
  rw [← add_frame]
  have hlast : ({ bytesRead := 1, framesInterrupted := 1 } : Stats) =
      { bytesRead := 1 } + { framesInterrupted := 1 } := rfl
  have hread : ({ bytesRead := interior + 1 } : Stats) =
      { bytesRead := interior } + { bytesRead := 1 } := rfl
  rw [hlast, hread]
  abel

end Stats

namespace Transmission

/-! ## One transmission -/

/-- The lines that are taken in of what was opened. Only the byte that closes a frame in order also
ends its last line. -/
def taken : Nat × List UInt8 → List (List UInt8)
  | (start, rest) =>
      match closed? start rest with
      | some t =>
          if t.closing = Wire.etx then Wire.lines t.interior else Wire.closedLines t.interior
      | none => Wire.closedLines rest

/-- What the end of a transmission is counted as; `fields` are those of its lines. -/
def ending (fields : FieldMap) : Nat × List UInt8 → Stats
  | (start, rest) =>
      match closed? start rest with
      | some t => if t.closing = Wire.etx then .ofFields fields else { framesInterrupted := 1 }
      | none => { framesTruncated := 1 }

/-- The end of a transmission counts one frame, and nothing else. -/
theorem ending_eq (fields : FieldMap) (frame : Nat × List UInt8) :
    ∃ decoded rejected interrupted truncated : Nat,
      ending fields frame =
          { framesDecoded := decoded
            framesRejected := rejected
            framesInterrupted := interrupted
            framesTruncated := truncated } ∧
        decoded + rejected + interrupted + truncated = 1 := by
  rcases frame with ⟨start, rest⟩
  simp only [ending]
  split
  · split
    · rcases Stats.ofFields_eq fields with ⟨decoded, rejected, hfields, hone⟩
      exact ⟨decoded, rejected, 0, 0, hfields, hone⟩
    · exact ⟨0, 0, 1, 0, rfl, rfl⟩
  · exact ⟨0, 0, 0, 1, rfl, rfl⟩

def tally (repair : AdpsRepair) (frame : Nat × List UInt8) : Stats :=
  let sum := Gathered.ofLines repair (taken frame)
  sum.stats + ending sum.fields frame

/-- The number of bytes outside transmissions; `inside` tells whether one is open. -/
def outside (inside : Bool) : List UInt8 → Nat
  | [] => 0
  | b :: rest =>
      if b = Wire.stx then outside true rest
      else if inside then outside (!Wire.isBoundary b) rest
      else outside false rest + 1

def stats (repair : AdpsRepair) (bytes : List UInt8) : Stats :=
  .ofBytes bytes.length (outside false bytes) + ((opened 0 bytes).map (tally repair)).sum

section Closing

variable {interior : List UInt8} (h : ∀ b ∈ interior, Wire.isBoundary b = false)

include h

theorem taken_of_forall (start : Nat) : taken (start, interior) = Wire.closedLines interior := by
  simp [taken, closed?_of_forall h]

theorem tally_of_forall (repair : AdpsRepair) (start : Nat) :
    tally repair (start, interior) =
      (Gathered.ofLines repair (Wire.closedLines interior)).stats + { framesTruncated := 1 } := by
  simp [tally, taken_of_forall h, ending, closed?_of_forall h]

theorem tally_append_etx (repair : AdpsRepair) (start : Nat) (rest : List UInt8) :
    tally repair (start, interior ++ Wire.etx :: rest) =
      (Gathered.ofLines repair (Wire.lines interior)).stats +
        .ofFields (Gathered.ofLines repair (Wire.lines interior)).fields := by
  simp [tally, taken, ending, closed?_append h start (b := Wire.etx) rfl rest]

/-- Of a frame that breaks off, the line that is held does not count. -/
theorem tally_append (repair : AdpsRepair) (start : Nat) {b : UInt8} (hb : Wire.isBoundary b)
    (hetx : b ≠ Wire.etx) (rest : List UInt8) :
    tally repair (start, interior ++ b :: rest) =
      (Gathered.ofLines repair (Wire.closedLines interior)).stats + { framesInterrupted := 1 } := by
  simp [tally, taken, ending, closed?_append h start hb rest, hetx]

end Closing

end Transmission

/-! ## Runs of a receiver -/

namespace Receiver

open Transmission (opened outside tally)

/-- From the statistics `base` on, the run of `r` on the bytes and the end of the source count the
transmissions `frames` that are opened before or among them. -/
def Counts (r : Receiver) (bytes : List UInt8) (base : Stats) (frames : List (Nat × List UInt8)) :
    Prop :=
  (r.after bytes).sourceEnded.1.stats = base + (frames.map (tally r.repair)).sum

theorem Counts.cons {r next : Receiver} {b : UInt8} {rest : List UInt8} {base : Stats}
    {frames : List (Nat × List UInt8)} (hnext : (r.step b).next = next)
    (hrepair : next.repair = r.repair) (h : next.Counts rest base frames) :
    r.Counts (b :: rest) base frames := by
  unfold Counts at h ⊢
  rw [after_cons, hnext, h, hrepair]

/-- A byte that ends a frame completes the tally of its transmission. -/
theorem Counts.cons_frame {r next : Receiver} {b : UInt8} {rest : List UInt8} {base base' : Stats}
    {frame : Nat × List UInt8} {frames : List (Nat × List UInt8)} (hnext : (r.step b).next = next)
    (hrepair : next.repair = r.repair) (hbase : base' = base + tally r.repair frame)
    (h : next.Counts rest base' frames) : r.Counts (b :: rest) base (frame :: frames) := by
  unfold Counts at h ⊢
  rw [after_cons, hnext, h, hrepair, hbase, List.map_cons, List.sum_cons, add_assoc]

/-- Between frames, the bytes and transmissions still to come are counted; inside a frame, also the
frame itself, with what it has taken in so far. -/
theorem carried_counts :
    Carried
      (fun r bytes => r.Counts bytes (r.stats + .ofBytes bytes.length (outside false bytes)))
      (fun r start interior bytes => (r.inFrame start interior).Counts bytes
        (r.stats + .ofBytes (interior.length + bytes.length) (outside true bytes))) where
  ended := by
    intro r hbetween
    rcases hbetween with hphase | hphase <;>
      simp [Counts, stats_sourceEnded, openStart?, hphase, outside, Stats.ofBytes, ← Stats.zero_def]
  -- bytes that end no frame only move over from those to come to those counted
  noise := by
    intro r b rest frames hbetween hb key
    have hnext := (step_between_noise hbetween hb).2
    rw [hnext, Stats.add_one_noise] at key
    simpa [outside, hb] using Counts.cons hnext rfl key
  opens := by
    intro r rest frames hbetween key
    have hcounts := Counts.cons (step_between_stx hbetween).2 rfl key
    rw [counted, Stats.add_one_read] at hcounts
    simpa [outside] using hcounts
  cutOff := by
    intro r start interior hpos hplain
    have hended : (r.inFrame start interior).sourceEnded.1.stats =
        (r.inFrame start interior).stats + { framesTruncated := 1 } := by
      simp [stats_sourceEnded, openStart?, inFrame]
    have hrepair : (r.inFrame start interior).repair = r.repair := rfl
    simp only [Counts, after_nil, hended, hrepair, List.map_singleton, List.sum_singleton,
      Transmission.tally_of_forall hplain, ← add_assoc]
    rfl
  takesIn := by
    intro r start interior b rest frames hpos hb key
    have hcounts := Counts.cons (step_inFrame r start interior hpos hb).1 rfl key
    have hstx : b ≠ Wire.stx := (Wire.ne_boundary hb).1
    simpa [outside, hstx, hb, Nat.add_assoc, Nat.add_comm 1] using hcounts
  reopens := by
    intro r start interior rest frames hpos hplain key
    have hnext := (step_inFrame_stx r start interior hpos).2
    -- only lines that a delimiter has ended count in a frame that is broken off
    have hbase := Stats.add_interruption r.stats
      (Gathered.ofLines r.repair (Wire.closedLines interior)).stats rest.length
      (outside true rest) interior.length
    have hne : Wire.stx ≠ Wire.etx := by decide
    rw [← Transmission.tally_append hplain r.repair start (b := Wire.stx) rfl hne rest] at hbase
    simp only [List.length_nil, Nat.zero_add] at key
    simpa [outside] using Counts.cons_frame hnext rfl hbase key
  completes := by
    intro r start interior rest frames hpos hplain key
    have hnext := (step_inFrame_etx r start interior hpos).2
    -- the `etx` ends the last line, too
    have hbase := Stats.add_frame r.stats
      (Gathered.ofLines r.repair (Wire.lines interior)).stats
      (.ofFields (Gathered.ofLines r.repair (Wire.lines interior)).fields)
      rest.length (outside false rest) interior.length
    rw [← Transmission.tally_append_etx hplain r.repair start rest] at hbase
    rw [hnext] at key
    exact Counts.cons_frame hnext rfl hbase key
  breaksOff := by
    intro r start interior rest frames hpos hplain key
    have hnext := (step_inFrame_eot r start interior hpos).2
    have hbase := Stats.add_interruption r.stats
      (Gathered.ofLines r.repair (Wire.closedLines interior)).stats rest.length
      (outside false rest) interior.length
    have hne : Wire.eot ≠ Wire.etx := by decide
    rw [← Transmission.tally_append hplain r.repair start (b := Wire.eot) rfl hne rest] at hbase
    rw [hnext] at key
    exact Counts.cons_frame hnext rfl hbase key

/-- Fed byte by byte, a fresh receiver counts what the recording as a whole says. -/
theorem stats_sourceEnded_after (repair : AdpsRepair) (bytes : List UInt8) :
    ((fresh repair).after bytes).sourceEnded.1.stats = Transmission.stats repair bytes := by
  have hcounts := (carried_counts.run bytes).1 (fresh repair) (.inl rfl)
  have hstats : (fresh repair).stats = 0 := rfl
  rw [hcounts, hstats, zero_add]
  rfl

end Receiver

/-- What was counted once a recording is drained. -/
theorem Session.stats_drain_onBytes (repair : AdpsRepair) (bytes : List UInt8) :
    (onBytes repair bytes).drain.session.receiver.stats = Transmission.stats repair bytes := by
  rcases drain_onBytes repair bytes with ⟨-, -, hreceiver⟩
  rw [hreceiver, Receiver.stats_sourceEnded_after]

end TicMeter
