import TicMeter.Command.Decode
import TicMeter.Proofs.Accounting
import TicMeter.Proofs.Balance
import TicMeter.Proofs.Report
import TicMeter.Proofs.Utf8

/-!
# Storing — the report on a capture is read back from what is stored

* `Capture.reportOn`, `Capture.decode_file`: a file that is decoded always has a report.
* `Receiver.Steps.stats_le`: a byte adds at most one to every counter.
* `Capture.storable_reportOn`: so the report on a file whose length is a number of 64 bits has
  no greater number in it.
* `Report.Storable.parse?_render`, `Report.Storable.stamp`: so its text is read back, whatever time
  it is stamped with.
-/

namespace TicMeter

/-! ## The report on a file -/

namespace Capture

/-- The report on a capture with these bytes. -/
def reportOn (path : String) (options : Options) (bytes : List UInt8) : Report :=
  summarize path options ((Receiver.fresh options.repair).emits bytes)
    ((Receiver.fresh options.repair).after bytes).sourceEnded.1.stats

/-- Bytes that are read from a file always have a report. -/
theorem decode_file (path : String) (options : Options) (bytes : List UInt8) :
    (decode path (DecodeRequest.fileFeed bytes) options).result =
      .ok (reportOn path options bytes) := by
  rcases Session.drain_onBytes options.repair bytes with ⟨hevents, hending, hreceiver⟩
  have hdrained : (Session.start options.repair (DecodeRequest.fileFeed bytes)).drain =
      (Session.onBytes options.repair bytes).drain := rfl
  simp only [decode, hdrained, hending, hevents, hreceiver]
  rfl

end Capture

/-! ## Counters -/

namespace Stats

def ofEach (n : Nat) : Stats :=
  ⟨n, n, n, n, n, n, n, n, n, n, n, n, n⟩

def ofLine : Stats where
  linesTotal := 1
  linesUnreadable := 1
  checksumMismatches := 1
  adpsRepairs := 1
  unknownLabels := 1
  conversionFailures := 1
  duplicateLabels := 1

theorem ofEach_add (m n : Nat) : ofEach (m + n) = ofEach m + ofEach n := rfl

theorem add_le_add {a b c d : Stats} (hab : a ≤ b) (hcd : c ≤ d) : a + c ≤ b + d := by
  cases hab
  cases hcd
  constructor <;> simp only [add_def, add] <;> omega

theorem le_of_mem_named {stats : Stats} {n : Nat} (h : stats ≤ ofEach n) :
    ∀ counter ∈ stats.named, counter.2 ≤ n := by
  rcases h with ⟨h1, h2, h3, h4, h5, h6, h7, h8, h9, h10, h11, h12, h13⟩
  simp only [ofEach] at h1 h2 h3 h4 h5 h6 h7 h8 h9 h10 h11 h12 h13
  simp [named, h1, h2, h3, h4, h5, h6, h7, h8, h9, h10, h11, h12, h13]

end Stats

theorem LineReading.count_le (reading : LineReading) (fields : FieldMap) (stats : Stats) :
    reading.count fields stats ≤ stats + .ofLine := by
  have hadd := reading.count_add fields stats 0
  rw [add_zero] at hadd
  rw [hadd]
  apply Stats.add_le_add (Stats.le_refl stats)
  rcases reading with ⟨outcome, repaired⟩
  cases outcome with
  | field label value =>
    cases hrepeats : fields.contains label <;> cases repaired <;> constructor <;>
      simp [count, repeats, hrepeats, Stats.ofLine, Stats.zero_def]
  | _ => cases repaired <;> constructor <;> simp [count, Stats.ofLine, Stats.zero_def]

theorem OpenFrame.closeLine_le {frame held : OpenFrame} {repair : AdpsRepair} {stats stats' : Stats}
    {notices : List Notice} (h : frame.closeLine repair stats = (held, stats', notices)) :
    stats' ≤ stats + .ofLine := by
  unfold closeLine at h
  split at h
  · cases h
    exact Stats.le_add _ _
  · cases h
    exact LineReading.count_le _ _ _

namespace Receiver

/-- A byte adds at most one to every counter. -/
theorem Steps.stats_le {r next : Receiver} {b : UInt8} {event : Option Event}
    (h : r.Steps b next event) : next.stats ≤ r.stats + .ofEach 1 := by
  have hone {a : Stats} (ha : a ≤ .ofEach 1) : r.stats + a ≤ r.stats + .ofEach 1 :=
    Stats.add_le_add (Stats.le_refl r.stats) ha
  cases h with
  | faulted _ => exact Stats.le_add _ _
  | opens _ _ => exact hone (by constructor <;> simp [Stats.ofEach])
  | noise _ _ =>
    simp only [counted, add_assoc]
    exact hone (by constructor <;> simp [Stats.ofEach, Stats.add_def, Stats.add])
  | cutsIn frame _ _ =>
    exact hone (a := { bytesRead := 1, framesInterrupted := 1 })
      (by constructor <;> simp [Stats.ofEach])
  | givesUp frame _ _ =>
    exact hone (a := { bytesRead := 1, framesInterrupted := 1 })
      (by constructor <;> simp [Stats.ofEach])
  | closes frame held stats notices _ _ hheld =>
    have hline := OpenFrame.closeLine_le hheld
    rcases Stats.ofFields_eq held.fields with ⟨decoded, rejected, hfields, hsum⟩
    have hall := Stats.add_le_add hline (Stats.le_refl (Stats.ofFields held.fields))
    simp only [counted, add_assoc] at hall
    refine Stats.le_trans hall (hone ?_)
    -- the line and the frame add to different counters
    rw [hfields]
    constructor <;> simp [Stats.ofEach, Stats.ofLine, Stats.add_def, Stats.add] <;> omega
  | endsLine frame held stats notices _ _ hheld =>
    have hline := OpenFrame.closeLine_le hheld
    simp only [counted, add_assoc] at hline
    refine Stats.le_trans hline (hone ?_)
    constructor <;> simp [Stats.ofEach, Stats.ofLine, Stats.add_def, Stats.add]
  | growsLine frame _ _ _ => exact hone (by constructor <;> simp [Stats.ofEach])

theorem stats_after_le (r : Receiver) (bytes : List UInt8) :
    (r.after bytes).stats ≤ r.stats + .ofEach bytes.length := by
  induction bytes generalizing r with
  | nil => exact Stats.le_add _ _
  | cons b rest ih =>
    have hstep := Stats.add_le_add (r.steps_step b).stats_le (Stats.le_refl (.ofEach rest.length))
    rw [add_assoc, ← Stats.ofEach_add, Nat.add_comm 1] at hstep
    exact Stats.le_trans (ih _) hstep

/-- No counter is greater than the number of bytes. -/
theorem stats_fresh_le (repair : AdpsRepair) (bytes : List UInt8) :
    ((fresh repair).after bytes).sourceEnded.1.stats ≤ .ofEach bytes.length := by
  have hle := stats_after_le (fresh repair) bytes
  have hzero : (fresh repair).stats = 0 := rfl
  rw [hzero, zero_add] at hle
  have htruncated := (framing_after (phase_fresh_ne_faulted repair) bytes).2.1
  rw [hzero] at htruncated
  have hopened : (if ((fresh repair).after bytes).openStart?.isSome then 1 else 0) ≤
      bytes.length := by
    cases bytes with
    | nil => simp [openStart?, fresh]
    | cons b rest => split <;> simp
  rw [stats_sourceEnded]
  rcases hle with ⟨h1, h2, h3, h4, h5, h6, h7, h8, h9, h10, h11, h12, h13⟩
  constructor
  case framesTruncated =>
    simp only [Stats.add_def, Stats.add, htruncated, Stats.zero_def, Stats.ofEach, zero_add]
    exact hopened
  all_goals assumption

/-- Every event spans bytes that were read, and has a number less than how many they are. -/
theorem bounds_of_mem_emits {repair : AdpsRepair} {bytes : List UInt8} {e : Event}
    (h : e ∈ (fresh repair).emits bytes) :
    e.sequence < bytes.length ∧ e.span.start < bytes.length ∧ e.span.stop ≤ bytes.length := by
  have htiling := tiling_after repair bytes
  have hdelimits := htiling.delimits e.span (List.mem_map_of_mem h)
  -- every event has an `stx` of its own
  have hcount := htiling.stxCount
  have hstx : bytes.count Wire.stx ≤ bytes.length := List.count_le_length
  have hnumbers := map_sequence_emits (fresh repair) bytes
  have hsequence : e.sequence ∈ List.range' 0 ((fresh repair).emits bytes).length := by
    have hmem := List.mem_map_of_mem (f := Event.sequence) h
    rwa [hnumbers] at hmem
  rw [List.mem_range'_1] at hsequence
  rw [List.length_map] at hcount
  refine ⟨by omega, ?_, hdelimits.within⟩
  exact Nat.lt_of_lt_of_le hdelimits.nonempty hdelimits.within

end Receiver

/-! ## Reading back -/

namespace Report.Storable

variable {report : Report}

theorem parse?_render (h : report.Storable) (layout : Json.Layout) :
    Report.parse? (report.render layout) = some report := by
  rw [Report.parse?, Report.render, Json.parse?_render (Report.plain_toJson h), Option.bind_some,
    Report.ofJson?_toJson h]

/-- The time stamp is no number. -/
theorem stamp (h : report.Storable) (now : String) :
    Report.Storable { report with generatedAt := now } :=
  ⟨h.version, h.bytes, h.counters, h.frames, h.errors⟩

end Report.Storable

namespace Capture

variable {bytes : List UInt8}

/-- A report on a file whose length is a number of 64 bits has no greater number in it. -/
theorem storable_reportOn (path : String) (options : Options)
    (hlength : bytes.length < UInt64.size) : (reportOn path options bytes).Storable := by
  -- counters, numbers and offsets all lie below the number of bytes
  have hcounters := Stats.le_of_mem_named (Receiver.stats_fresh_le options.repair bytes)
  have hversion : Report.currentVersion < UInt32.size := by decide
  constructor
  · exact hversion
  · exact Nat.lt_of_le_of_lt (hcounters ("bytes_read", _) List.mem_cons_self) hlength
  · intro counter hcounter
    exact Nat.lt_of_le_of_lt (hcounters counter hcounter) hlength
  · intro summary hsummary
    rw [reportOn, frames_summarize] at hsummary
    rcases List.mem_map.1 hsummary with ⟨f, hf, rfl⟩
    rcases List.mem_filterMap.1 hf with ⟨e, he, hframe⟩
    cases e with
    | rejected why => cases hframe
    | frame f =>
      cases hframe
      rcases Receiver.bounds_of_mem_emits he with ⟨hsequence, hstart, hstop⟩
      refine ⟨hsequence.trans hlength, ⟨hstart.trans hlength, hstop.trans_lt hlength⟩, ?_⟩
      intro entry hentry
      rcases List.mem_map.1 ((FrameSummary.entries_ofFrame_perm f).mem_iff.1 hentry) with
        ⟨field, -, rfl⟩
      exact Value.isFieldValue_toJson _
  · intro summary hsummary
    rw [reportOn, errors_summarize] at hsummary
    rcases List.mem_map.1 hsummary with ⟨why, hwhy, rfl⟩
    rcases List.mem_filterMap.1 hwhy with ⟨e, he, hrejected⟩
    cases e with
    | frame f => cases hrejected
    | rejected why =>
      cases hrejected
      rcases Receiver.bounds_of_mem_emits he with ⟨hsequence, hstart, hstop⟩
      exact ⟨hsequence.trans hlength, hstart.trans hlength, hstop.trans_lt hlength⟩

end Capture
end TicMeter
