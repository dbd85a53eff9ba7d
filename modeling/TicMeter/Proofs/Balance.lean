import Mathlib.Algebra.BigOperators.Group.List.Basic
import TicMeter.Proofs.Statistics
import TicMeter.Proofs.WellFormed

/-!
# Balance — every line is counted once

A line that is taken in is lost for one of five causes that have a counter, or says that its label
has no value, or gives a label a value. Values stay in the frame until it ends, and come out again
in its event, unless the frame breaks off or is cut off.

* `Stats.Balanced`: the lines that were taken in are those that were lost and those that are held.
* `Gathered.balanced_ofLines`, `Transmission.balanced_tally`: the balance of a list of lines, and of
  one transmission.
* `Session.drain_balanced`: the balance of a whole recording, and that no counter ever falls.
-/

namespace TicMeter

/-! ## Counters that only grow -/

structure Stats.Le (a b : Stats) : Prop where
  bytesRead : a.bytesRead ≤ b.bytesRead
  noiseBytes : a.noiseBytes ≤ b.noiseBytes
  linesTotal : a.linesTotal ≤ b.linesTotal
  linesUnreadable : a.linesUnreadable ≤ b.linesUnreadable
  checksumMismatches : a.checksumMismatches ≤ b.checksumMismatches
  adpsRepairs : a.adpsRepairs ≤ b.adpsRepairs
  unknownLabels : a.unknownLabels ≤ b.unknownLabels
  conversionFailures : a.conversionFailures ≤ b.conversionFailures
  duplicateLabels : a.duplicateLabels ≤ b.duplicateLabels
  framesDecoded : a.framesDecoded ≤ b.framesDecoded
  framesRejected : a.framesRejected ≤ b.framesRejected
  framesInterrupted : a.framesInterrupted ≤ b.framesInterrupted
  framesTruncated : a.framesTruncated ≤ b.framesTruncated

namespace Stats

instance : LE Stats := ⟨Le⟩

theorem le_add (a b : Stats) : a ≤ a + b := by
  constructor <;> exact Nat.le_add_right _ _

theorem le_refl (a : Stats) : a ≤ a := by
  constructor <;> exact Nat.le_refl _

theorem le_trans {a b c : Stats} (hab : a ≤ b) (hbc : b ≤ c) : a ≤ c := by
  cases hab
  cases hbc
  constructor <;> omega

end Stats

theorem OpenFrame.le_closeLine (frame : OpenFrame) (repair : AdpsRepair) (stats : Stats) :
    stats ≤ (frame.closeLine repair stats).2.1 := by
  unfold closeLine
  split
  · exact Stats.le_refl stats
  · have hcount := LineReading.count_add (.ofBytes repair frame.line.kept) frame.fields stats 0
    have hline : stats ≤ (LineReading.ofBytes repair frame.line.kept).count frame.fields stats := by
      rw [add_zero] at hcount
      rw [hcount]
      exact Stats.le_add stats _
    exact hline

namespace Receiver

/-- No transition lets a counter fall. -/
theorem Steps.le_stats {r next : Receiver} {b : UInt8} {event : Option Event}
    (h : r.Steps b next event) : r.stats ≤ next.stats := by
  have hcounted : r.stats ≤ r.counted.stats := Stats.le_add _ _
  cases h with
  | faulted _ => exact Stats.le_refl _
  | opens _ _ => exact hcounted
  | noise _ _ => exact Stats.le_trans hcounted (Stats.le_add _ _)
  | cutsIn frame _ _ => exact Stats.le_trans hcounted (Stats.le_add _ { framesInterrupted := 1 })
  | givesUp frame _ _ => exact Stats.le_trans hcounted (Stats.le_add _ { framesInterrupted := 1 })
  | closes frame held stats notices _ _ hheld =>
    have hclosed := frame.le_closeLine r.repair r.counted.stats
    rw [hheld] at hclosed
    exact Stats.le_trans hcounted (Stats.le_trans hclosed (Stats.le_add _ _))
  | endsLine frame held stats notices _ _ hheld =>
    have hclosed := frame.le_closeLine r.repair r.counted.stats
    rw [hheld] at hclosed
    exact Stats.le_trans hcounted hclosed
  | growsLine frame _ _ _ => exact hcounted

theorem le_stats_after (r : Receiver) (bytes : List UInt8) : r.stats ≤ (r.after bytes).stats := by
  induction bytes generalizing r with
  | nil => exact Stats.le_refl _
  | cons b rest ih => exact Stats.le_trans (r.steps_step b).le_stats (ih _)

theorem le_stats_sourceEnded (r : Receiver) : r.stats ≤ r.sourceEnded.1.stats := by
  rw [stats_sourceEnded]
  exact Stats.le_add _ _

end Receiver

/-- No request lets a counter fall, whatever the source answers. -/
theorem Session.le_stats_next {σ : Type} [ByteSource σ] (s : Session σ) :
    s.receiver.stats ≤ s.next.session.receiver.stats := by
  by_cases hphase : s.receiver.phase = .faulted
  · have hnext : s.next = ⟨.ended, [], s⟩ := by simp [next, hphase]
    rw [hnext]
    exact Stats.le_refl _
  · rcases next_run hphase with ⟨bytes, source, -, htells⟩
    have hrun := s.receiver.le_stats_after bytes
    unfold Tells at htells
    split at htells
    · rw [htells.2]
      exact hrun
    · rcases htells with ⟨-, dry, -, hsession⟩
      rw [hsession]
      exact Stats.le_trans hrun (Receiver.le_stats_sourceEnded _)
    · rcases htells with ⟨-, rest, -, hsession⟩
      rw [hsession]
      exact hrun

/-! ## The balance -/

/-- Every line that was taken in has been lost for a cause that is counted, or is one of the `held`
others; and no line that was lost for its form or its checksum was repaired. -/
structure Stats.Balanced (s : Stats) (held : Nat) : Prop where
  total : s.linesTotal =
    s.linesUnreadable + s.checksumMismatches + s.unknownLabels + s.conversionFailures +
      s.duplicateLabels + held
  repairs : s.adpsRepairs + s.linesUnreadable + s.checksumMismatches ≤ s.linesTotal

namespace Stats.Balanced

theorem zero : (0 : Stats).Balanced 0 :=
  ⟨rfl, Nat.le_refl 0⟩

theorem add {a b : Stats} {m n : Nat} (ha : a.Balanced m) (hb : b.Balanced n) :
    (a + b).Balanced (m + n) := by
  rcases ha with ⟨hatotal, harepairs⟩
  rcases hb with ⟨hbtotal, hbrepairs⟩
  constructor
  · simp only [Stats.add_def, Stats.add]
    omega
  · simp only [Stats.add_def, Stats.add]
    omega

theorem sum {α : Type} {stats : α → Stats} {held : α → Nat} (h : ∀ a, (stats a).Balanced (held a))
    (l : List α) : ((l.map stats).sum).Balanced (l.map held).sum := by
  induction l with
  | nil => exact zero
  | cons a rest ih => exact (h a).add ih

end Stats.Balanced

/-! ## Lines -/

namespace Transmission

/-- Whether a line is good and says that its label has no value. -/
def isVoid (repair : AdpsRepair) (line : List UInt8) : Bool :=
  match GroupLine.parse line with
  | .error _ => false
  | .ok parts =>
      (Checksum.verify parts.label parts.value parts.checksum repair).accepts &&
        match Label.readText parts.label parts.value with
        | .ok none => true
        | _ => false

end Transmission

namespace LineReading

def isVoid (reading : LineReading) : Bool :=
  match reading.outcome with
  | .void _ => true
  | _ => false

theorem isVoid_ofBytes (repair : AdpsRepair) (line : List UInt8) :
    (ofBytes repair line).isVoid = Transmission.isVoid repair line := by
  -- whether a good line is void hangs on its label and its value alone
  have hcontent (label value : String) (repaired : Bool) :
      isVoid ⟨ofContent label value, repaired⟩ =
        match Label.readText label value with
        | .ok none => true
        | _ => false := by
    unfold isVoid ofContent Label.readText
    cases Label.ofText? label with
    | none => rfl
    | some label =>
      rcases hread : label.read value with why | (_ | decoded) <;> simp [hread, Except.map]
  unfold ofBytes Transmission.isVoid
  cases hparse : GroupLine.parse line with
  | error why => rfl
  | ok parts =>
    cases hverify : Checksum.verify parts.label parts.value parts.checksum repair with
    | mismatch expected => simp [hverify, isVoid, Checksum.Verdict.accepts]
    | valid =>
      simpa [hverify, Checksum.Verdict.accepts] using hcontent parts.label parts.value false
    | repaired =>
      simpa [hverify, Checksum.Verdict.accepts] using hcontent parts.label parts.value true

/-- How many lines that are not lost this one adds to the count. -/
def held (reading : LineReading) (fields : FieldMap) : Nat :=
  match reading.outcome with
  | .void _ => 1
  | .field .. => if reading.repeats fields then 0 else 1
  | _ => 0

/-- What a line adds to the count is a statement of no value, or a new label among the fields. -/
theorem size_add_held (reading : LineReading) (fields : FieldMap) :
    fields.size + reading.held fields =
      (if reading.isVoid then 1 else 0) + (reading.update fields).size := by
  rcases reading with ⟨outcome, repaired⟩
  cases outcome with
  | void label => simp [held, isVoid, update, Nat.add_comm]
  | field label value =>
    cases hcontains : fields.contains label <;>
      simp [held, isVoid, update, repeats, FieldMap.size_insert, hcontains]
  | _ => simp [held, isVoid, update]

/-- Whether a repaired line got past its checksum. -/
def Coherent (reading : LineReading) : Prop :=
  match reading.outcome with
  | .unreadable _ | .mismatch .. => reading.repaired = false
  | _ => True

theorem coherent_ofBytes (repair : AdpsRepair) (line : List UInt8) :
    (ofBytes repair line).Coherent := by
  have hcontent (label value : String) (repaired : Bool) :
      Coherent ⟨ofContent label value, repaired⟩ := by
    unfold Coherent ofContent
    grind
  unfold ofBytes
  split
  · rfl
  · split
    · rfl
    · exact hcontent _ _ _
    · exact hcontent _ _ _

theorem balanced_count {reading : LineReading} (h : reading.Coherent) (fields : FieldMap) :
    (reading.count fields 0).Balanced (reading.held fields) := by
  rcases reading with ⟨outcome, repaired⟩
  cases outcome with
  | unreadable why =>
    cases (h : repaired = false)
    exact ⟨rfl, Nat.le_refl _⟩
  | mismatch label expected actual =>
    cases (h : repaired = false)
    exact ⟨rfl, Nat.le_refl _⟩
  | field label value =>
    cases hrepeats : fields.contains label <;> cases repaired <;>
      constructor <;> simp [count, held, repeats, hrepeats, Stats.zero_def]
  | _ => cases repaired <;> constructor <;> simp [count, held, Stats.zero_def]

end LineReading

namespace Gathered

open Transmission (isVoid)

theorem balanced_take {repair : AdpsRepair} {sum : Gathered} {voids : Nat}
    (h : sum.stats.Balanced (voids + sum.fields.size)) (line : List UInt8) :
    (sum.take repair line).stats.Balanced
      (voids + (if isVoid repair line then 1 else 0) + (sum.take repair line).fields.size) := by
  have hline := LineReading.balanced_count (LineReading.coherent_ofBytes repair line) sum.fields
  have hheld := LineReading.size_add_held (.ofBytes repair line) sum.fields
  rw [LineReading.isVoid_ofBytes] at hheld
  have hfields : (sum.take repair line).fields =
      (LineReading.ofBytes repair line).update sum.fields := rfl
  have hsize : voids + sum.fields.size + (LineReading.ofBytes repair line).held sum.fields =
      voids + (if isVoid repair line then 1 else 0) + (sum.take repair line).fields.size := by
    rw [Nat.add_assoc, hheld, hfields, Nat.add_assoc]
  rw [stats_take, ← hsize]
  exact h.add hline

/-- The lines that are not lost say that there is no value, or have given a label its first. -/
theorem balanced_ofLines (repair : AdpsRepair) (lines : List (List UInt8)) :
    (ofLines repair lines).stats.Balanced
      (lines.countP (isVoid repair) + (ofLines repair lines).fields.size) := by
  induction lines using List.reverseRecOn with
  | nil =>
    have hempty : (ofLines repair []).fields.size = 0 := FieldMap.size_empty
    rw [hempty]
    exact .zero
  | append_singleton front line ih =>
    have hvoids : (front ++ [line]).countP (isVoid repair) =
        front.countP (isVoid repair) + if isVoid repair line then 1 else 0 := by
      simp [List.countP_append, List.countP_cons]
    rw [ofLines_concat, hvoids]
    exact balanced_take ih line

end Gathered

/-! ## Transmissions -/

def Event.labelCount : Event → Nat
  | .frame f => f.fields.size + f.discarded.length
  | .rejected why => why.labels.length

theorem Event.labelCount_ofFields (fields : FieldMap) (span : Span) (sequence : Nat) :
    (ofFields fields span sequence).labelCount = fields.size := by
  unfold ofFields
  cases FrameKind.classify fields.contains with
  | none => rfl
  | some kind => exact fields.size_restrict kind.accepts

namespace Transmission

/-- The number of different labels to which the lines of a transmission give a value. -/
def labelCount (repair : AdpsRepair) (frame : Nat × List UInt8) : Nat :=
  (((taken frame).filterMap (field? repair)).map Prod.fst).dedup.length

def isComplete : Nat × List UInt8 → Bool
  | (start, rest) => (closed? start rest).any (·.closing = Wire.etx)

/-- The number of lines of a recording that say that their label has no value. -/
def voidLines (repair : AdpsRepair) (bytes : List UInt8) : Nat :=
  ((opened 0 bytes).flatMap taken).countP (isVoid repair)

/-- The number of labels that had a value in transmissions that broke off or were cut off. -/
def droppedLabels (repair : AdpsRepair) (bytes : List UInt8) : Nat :=
  (((opened 0 bytes).filter (!isComplete ·)).map (labelCount repair)).sum

theorem size_fields_ofLines (repair : AdpsRepair) (lines : List (List UInt8)) :
    (Gathered.ofLines repair lines).fields.size =
      ((lines.filterMap (field? repair)).map Prod.fst).dedup.length := by
  rw [Gathered.ofLines, fields_foldl_take, FieldMap.size_insertAll_empty]

theorem balanced_ending (fields : FieldMap) (frame : Nat × List UInt8) :
    (ending fields frame).Balanced 0 := by
  rcases ending_eq fields frame with ⟨_, _, _, _, hending, -⟩
  rw [hending]
  exact ⟨rfl, Nat.le_refl _⟩

theorem balanced_tally (repair : AdpsRepair) (frame : Nat × List UInt8) :
    (tally repair frame).Balanced
      ((taken frame).countP (isVoid repair) + labelCount repair frame) := by
  have hlines := Gathered.balanced_ofLines repair (taken frame)
  rw [size_fields_ofLines] at hlines
  exact hlines.add (balanced_ending _ frame)

/-- Only a transmission that is closed in order has an event with labels, and it has them all. -/
theorem labelCount_event (repair : AdpsRepair) {start : Nat} {rest : List UInt8} {t : Transmission}
    (hclosed : closed? start rest = some t) (sequence : Nat) :
    (t.event repair sequence).labelCount =
      if isComplete (start, rest) then labelCount repair (start, rest) else 0 := by
  by_cases hetx : t.closing = Wire.etx
  · have hfields : (t.event repair sequence).labelCount = (fields repair t.interior).size := by
      simp [event, hetx, Event.labelCount_ofFields]
    rw [hfields, ← fields_ofLines, size_fields_ofLines]
    simp [isComplete, labelCount, taken, hclosed, hetx]
  · simp [isComplete, hclosed, hetx, event, Event.labelCount, FrameError.labels]

/-- The labels of the transmissions are those that the events carry and those that were dropped. -/
theorem sum_labelCount (repair : AdpsRepair) (first : Nat) (frames : List (Nat × List UInt8)) :
    (frames.map (labelCount repair)).sum =
      ((numbered repair first frames).map Event.labelCount).sum +
        ((frames.filter (!isComplete ·)).map (labelCount repair)).sum := by
  induction frames generalizing first with
  | nil => rfl
  | cons frame rest ih =>
    rcases frame with ⟨start, bytes⟩
    cases hclosed : closed? start bytes with
    | none =>
      -- a transmission that nothing ends has no event, and takes no number
      have hevents :
          numbered repair first ((start, bytes) :: rest) = numbered repair first rest := by
        simp [numbered, hclosed]
      have hcomplete : isComplete (start, bytes) = false := by simp [isComplete, hclosed]
      rw [hevents, List.map_cons, List.sum_cons, ih first]
      simp [hcomplete]
      omega
    | some t =>
      have hevents : numbered repair first ((start, bytes) :: rest) =
          t.event repair first :: numbered repair (first + 1) rest := by
        simp [numbered, hclosed, List.mapIdx_cons, Nat.add_assoc, Nat.add_comm 1]
      have hcount := labelCount_event repair hclosed first
      rw [hevents, List.map_cons, List.sum_cons, List.map_cons, List.sum_cons, hcount,
        ih (first + 1)]
      cases hcomplete : isComplete (start, bytes)
      · simp [hcomplete]
        omega
      · simp [hcomplete]
        omega

/-- The balance of a recording. -/
theorem balanced_stats (repair : AdpsRepair) (bytes : List UInt8) :
    (stats repair bytes).Balanced
      (voidLines repair bytes +
        (((events repair bytes).map Event.labelCount).sum + droppedLabels repair bytes)) := by
  have hbytes : (Stats.ofBytes bytes.length (outside false bytes)).Balanced 0 :=
    ⟨rfl, Nat.le_refl _⟩
  have hframes := Stats.Balanced.sum (balanced_tally repair) (opened 0 bytes)
  have hheld :
      ((opened 0 bytes).map fun frame =>
          (taken frame).countP (isVoid repair) + labelCount repair frame).sum =
        voidLines repair bytes +
          (((events repair bytes).map Event.labelCount).sum + droppedLabels repair bytes) := by
    rw [List.sum_map_add, sum_labelCount repair 0, ← events_eq_numbered, voidLines,
      List.countP_flatMap]
    rfl
  rw [hheld] at hframes
  have hbalanced := hbytes.add hframes
  rw [Nat.zero_add] at hbalanced
  exact hbalanced

end Transmission

/-- Every line that was taken in is accounted for once: by one of five counters, by saying that its
label has no value, by a label of an event, or by a label that was dropped with its frame. Lines
that were repaired got past their form and their checksum. No counter ever falls, neither from byte
to byte nor from request to request. -/
theorem Session.drain_balanced (repair : AdpsRepair) (bytes : List UInt8) :
    let drained := (onBytes repair bytes).drain
    let stats := drained.session.receiver.stats
    stats.linesTotal =
        stats.linesUnreadable + stats.checksumMismatches + stats.unknownLabels +
          stats.conversionFailures + Transmission.voidLines repair bytes + stats.duplicateLabels +
          (drained.events.map fun (e, _) => e.labelCount).sum +
          Transmission.droppedLabels repair bytes ∧
      stats.adpsRepairs + stats.linesUnreadable + stats.checksumMismatches ≤ stats.linesTotal ∧
      (∀ front rest, front ++ rest = bytes →
        ((Receiver.fresh repair).after front).stats ≤ ((Receiver.fresh repair).after bytes).stats ∧
          ((Receiver.fresh repair).after bytes).stats ≤ stats) ∧
      ∀ s, Reachable repair (onBytes repair bytes).source s →
        s.receiver.stats ≤ s.next.session.receiver.stats := by
  intro drained stats
  rcases drain_onBytes repair bytes with ⟨hevents, -, hreceiver⟩
  have hlabels : (drained.events.map fun (e, _) => e.labelCount) =
      (Transmission.events repair bytes).map Event.labelCount := by
    rw [← Receiver.emits_eq_events, ← hevents, List.map_map]
    rfl
  have hstats : stats = Transmission.stats repair bytes := stats_drain_onBytes repair bytes
  -- the balance is one of the reading of the bytes, where no state is left to speak of
  have hbalanced := Transmission.balanced_stats repair bytes
  rw [← hstats, ← hlabels] at hbalanced
  rcases hbalanced with ⟨htotal, hrepairs⟩
  refine ⟨by omega, hrepairs, ?_, ?_⟩
  · intro front rest hsplit
    constructor
    · rw [← hsplit, Receiver.after_append]
      exact Receiver.le_stats_after _ rest
    · have hended := Receiver.le_stats_sourceEnded ((Receiver.fresh repair).after bytes)
      rw [← hreceiver] at hended
      exact hended
  · intro s _
    exact le_stats_next s

end TicMeter
