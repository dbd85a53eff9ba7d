import Mathlib.Algebra.GroupWithZero.Nat
import TicMeter.Proofs.Concatenation

/-!
# Tiling — events, noise and what is cut off fill the stream

* `Span.Delimits`: a span that reaches from one `stx` to the byte that ends the frame.
* `Tiling`: spans, noise and an open frame that together are all the bytes read so far. It is stated
  without a receiver; `Tiling.noise`, `Tiling.opens`, `Tiling.grows`, `Tiling.closes` and
  `Tiling.cutsIn` are the ways in which one more byte extends it.
* `Receiver.Steps.tiling`, `Receiver.tiling_after`: every transition, and so every run, is one of
  these ways.
* `Session.drain_tiles`: what was drained from a recording tiles it.
-/

namespace TicMeter

/-- From one `stx` up to the byte that ends the frame, or to before the next `stx`. -/
structure Span.Delimits (bytes : List UInt8) (span : Span) : Prop where
  nonempty : span.start < span.stop
  within : span.stop ≤ bytes.length
  opens : bytes[span.start]? = some Wire.stx
  alone : ∀ i, span.start < i → i < span.stop → bytes[i]? ≠ some Wire.stx
  closes : ∀ i, span.start ≤ i → i < span.stop →
    bytes[i]? = some Wire.etx ∨ bytes[i]? = some Wire.eot → i + 1 = span.stop

/-- A frame was opened at `start`, and none of the bytes after it has ended it. -/
structure OpensAt (read : List UInt8) (start : Nat) : Prop where
  opens : read[start]? = some Wire.stx
  inside : ∀ i b, start < i → read[i]? = some b → Wire.isBoundary b = false

theorem Span.Delimits.append {read : List UInt8} {span : Span} (h : span.Delimits read)
    (more : List UInt8) : span.Delimits (read ++ more) := by
  have hsame (i : Nat) (hi : i < span.stop) : (read ++ more)[i]? = read[i]? :=
    List.getElem?_append_left (Nat.lt_of_lt_of_le hi h.within)
  constructor
  · exact h.nonempty
  · exact Nat.le_trans h.within (by simp)
  · rw [hsame _ h.nonempty]
    exact h.opens
  · intro i hstart hstop
    rw [hsame i hstop]
    exact h.alone i hstart hstop
  · intro i hstart hstop
    rw [hsame i hstop]
    exact h.closes i hstart hstop

namespace OpensAt

variable {read : List UInt8} {start : Nat}

theorem lt_length (h : OpensAt read start) : start < read.length := by
  rcases List.getElem?_eq_some_iff.1 h.opens with ⟨hlt, -⟩
  exact hlt

theorem append (h : OpensAt read start) {b : UInt8} (hb : Wire.isBoundary b = false) :
    OpensAt (read ++ [b]) start := by
  constructor
  · rw [List.getElem?_append_left h.lt_length]
    exact h.opens
  · intro i c hstart hget
    have hcases : read[i]? = some c ∨ c = b := by grind
    rcases hcases with hfront | rfl
    · exact h.inside i c hstart hfront
    · exact hb

/-- An `stx` opens a frame at its own place. -/
theorem stx (read : List UInt8) : OpensAt (read ++ [Wire.stx]) read.length := by
  constructor
  · exact List.getElem?_concat_length
  · intro i b hstart hget
    have hnone : (read ++ [Wire.stx])[i]? = none := by
      rw [List.getElem?_eq_none_iff, List.length_append, List.length_singleton]
      exact hstart
    rw [hnone] at hget
    cases hget

/-- Inside the frame there is no byte that opens or ends one. -/
theorem ne_boundary (h : OpensAt read start) {i : Nat} (hstart : start < i) {b : UInt8}
    (hb : Wire.isBoundary b) : read[i]? ≠ some b := by
  intro hget
  rw [h.inside i b hstart hget] at hb
  cases hb

theorem not_ends (h : OpensAt read start) {i : Nat} (hstart : start ≤ i) :
    ¬ (read[i]? = some Wire.etx ∨ read[i]? = some Wire.eot) := by
  have hstx : Wire.stx ≠ Wire.etx ∧ Wire.stx ≠ Wire.eot := by decide
  rcases Nat.eq_or_lt_of_le hstart with rfl | hlater
  · simp [h.opens, hstx]
  · rintro (hetx | heot)
    · exact h.ne_boundary hlater rfl hetx
    · exact h.ne_boundary hlater rfl heot

/-- What was opened and not ended reaches to the end of what was read. -/
theorem delimits (h : OpensAt read start) : (Span.mk start read.length).Delimits read where
  nonempty := h.lt_length
  within := Nat.le_refl _
  opens := h.opens
  alone _ hstart _ := h.ne_boundary hstart rfl
  closes _ hstart _ hends := absurd hends (h.not_ends hstart)

/-- The byte that ends a frame is its last one. -/
theorem delimits_append (h : OpensAt read start) {b : UInt8} (hb : b ≠ Wire.stx) :
    (Span.mk start (read.length + 1)).Delimits (read ++ [b]) := by
  have hsame (i : Nat) (hi : i < read.length) : (read ++ [b])[i]? = read[i]? :=
    List.getElem?_append_left hi
  constructor
  · exact Nat.lt_succ_of_lt h.lt_length
  · simp
  · rw [hsame _ h.lt_length]
    exact h.opens
  · intro i hstart hstop
    rcases Nat.lt_succ_iff_lt_or_eq.1 hstop with hi | rfl
    · rw [hsame i hi]
      exact h.ne_boundary hstart rfl
    · simpa using hb
  · intro i hstart hstop hends
    rcases Nat.lt_succ_iff_lt_or_eq.1 hstop with hi | rfl
    · rw [hsame i hi] at hends
      exact absurd hends (h.not_ends hstart)
    · rfl

end OpensAt

/-! ## Tilings -/

/-- The spans and the noise fill what was read, up to the frame that is open, if one is. -/
structure Tiling (read : List UInt8) (open? : Option Nat) (noise : Nat) (spans : List Span) :
    Prop where
  delimits : ∀ span ∈ spans, span.Delimits read
  inOrder : spans.Pairwise (·.stop ≤ ·.start)
  settled : ∀ span ∈ spans, span.stop ≤ open?.getD read.length
  opened : ∀ start, open? = some start → OpensAt read start
  stxCount : read.count Wire.stx = spans.length + open?.toList.length
  fills : noise + (spans.map Span.length).sum = open?.getD read.length

namespace Tiling

variable {read : List UInt8} {start noise : Nat} {spans : List Span}

theorem nil : Tiling [] none 0 [] := by
  constructor <;> simp

theorem noise_append (h : Tiling read none noise spans) {b : UInt8} (hb : b ≠ Wire.stx) :
    Tiling (read ++ [b]) none (noise + 1) spans := by
  have hfills := h.fills
  constructor
  · intro span hspan
    exact (h.delimits span hspan).append [b]
  · exact h.inOrder
  · intro span hspan
    exact Nat.le_trans (h.settled span hspan) (by simp)
  · simp
  · simpa [hb] using h.stxCount
  · simp only [Option.getD_none, List.length_append, List.length_singleton] at hfills ⊢
    omega

theorem opens (h : Tiling read none noise spans) :
    Tiling (read ++ [Wire.stx]) (some read.length) noise spans := by
  constructor
  · intro span hspan
    exact (h.delimits span hspan).append _
  · exact h.inOrder
  · exact h.settled
  · rintro _ ⟨⟩
    exact .stx read
  · simpa using h.stxCount
  · exact h.fills

theorem grows (h : Tiling read (some start) noise spans) {b : UInt8}
    (hb : Wire.isBoundary b = false) : Tiling (read ++ [b]) (some start) noise spans := by
  have hstx : b ≠ Wire.stx := (Wire.ne_boundary hb).1
  constructor
  · intro span hspan
    exact (h.delimits span hspan).append _
  · exact h.inOrder
  · exact h.settled
  · rintro _ ⟨⟩
    exact (h.opened start rfl).append hb
  · simpa [hstx] using h.stxCount
  · exact h.fills

/-- The open frame becomes the last span. -/
theorem inOrder_append (h : Tiling read (some start) noise spans) (stop : Nat) :
    (spans ++ [Span.mk start stop]).Pairwise (·.stop ≤ ·.start) := by
  refine List.pairwise_append.2 ⟨h.inOrder, List.pairwise_singleton _ _, ?_⟩
  intro span hspan last hlast
  cases List.mem_singleton.1 hlast
  exact h.settled span hspan

theorem closes (h : Tiling read (some start) noise spans) {b : UInt8} (hb : b ≠ Wire.stx) :
    Tiling (read ++ [b]) none noise (spans ++ [⟨start, read.length + 1⟩]) := by
  have hopen := h.opened start rfl
  have hlt := hopen.lt_length
  have hfills := h.fills
  constructor
  · intro span hspan
    rcases List.mem_append.1 hspan with hspan | hspan
    · exact (h.delimits span hspan).append _
    · cases List.mem_singleton.1 hspan
      exact hopen.delimits_append hb
  · exact h.inOrder_append _
  · intro span hspan
    rcases List.mem_append.1 hspan with hspan | hspan
    · have hsettled : span.stop ≤ start := h.settled span hspan
      simp only [Option.getD_none, List.length_append, List.length_singleton]
      omega
    · cases List.mem_singleton.1 hspan
      simp
  · simp
  · simpa [hb] using h.stxCount
  · simp only [Option.getD_some, Option.getD_none, List.length_append, List.length_singleton,
      List.map_append, List.sum_append, List.map_singleton, List.sum_singleton,
      Span.length] at hfills ⊢
    omega

/-- An `stx` ends one frame before it and opens the next one. -/
theorem cutsIn (h : Tiling read (some start) noise spans) :
    Tiling (read ++ [Wire.stx]) (some read.length) noise (spans ++ [⟨start, read.length⟩]) := by
  have hopen := h.opened start rfl
  -- the frame that is cut off has a byte of its own, so spans stay in order
  have hlt := hopen.lt_length
  have hfills := h.fills
  constructor
  · intro span hspan
    rcases List.mem_append.1 hspan with hspan | hspan
    · exact (h.delimits span hspan).append _
    · cases List.mem_singleton.1 hspan
      exact hopen.delimits.append _
  · exact h.inOrder_append _
  · intro span hspan
    rcases List.mem_append.1 hspan with hspan | hspan
    · exact Nat.le_trans (h.settled span hspan) (Nat.le_of_lt hlt)
    · cases List.mem_singleton.1 hspan
      exact Nat.le_refl _
  · rintro _ ⟨⟩
    exact .stx read
  · simpa using h.stxCount
  · simp only [Option.getD_some, List.map_append, List.sum_append, List.map_singleton,
      List.sum_singleton, Span.length] at hfills ⊢
    omega

end Tiling

/-! ## Runs of a receiver -/

/-- The counters that lines do not touch. -/
def Stats.framing (s : Stats) : Stats where
  bytesRead := s.bytesRead
  noiseBytes := s.noiseBytes
  framesDecoded := s.framesDecoded
  framesRejected := s.framesRejected
  framesInterrupted := s.framesInterrupted
  framesTruncated := s.framesTruncated

theorem LineReading.framing_count (reading : LineReading) (fields : FieldMap) (stats : Stats) :
    (reading.count fields stats).framing = stats.framing := by
  rcases reading with ⟨outcome, repaired⟩
  cases outcome with
  | field label value =>
    cases hrepeats : fields.contains label <;> cases repaired <;>
      simp [count, repeats, hrepeats] <;> rfl
  | _ => cases repaired <;> rfl

theorem OpenFrame.framing_closeLine {frame held : OpenFrame} {repair : AdpsRepair}
    {stats stats' : Stats} {notices : List Notice}
    (h : frame.closeLine repair stats = (held, stats', notices)) :
    stats'.framing = stats.framing ∧ held.start = frame.start := by
  unfold closeLine at h
  split at h
  · cases h
    exact ⟨rfl, rfl⟩
  · cases h
    exact ⟨LineReading.framing_count _ _ _, rfl⟩

theorem Event.span_ofFields (fields : FieldMap) (span : Span) (sequence : Nat) :
    (ofFields fields span sequence).span = span := by
  unfold ofFields
  split <;> rfl

theorem Wire.isBoundary_of_isDelimiter {b : UInt8} (h : isDelimiter b) : isBoundary b = false := by
  have hcases : b = lf ∨ b = cr := by simpa [isDelimiter] using h
  rcases hcases with rfl | rfl <;> rfl

namespace Receiver

variable {r next : Receiver} {b : UInt8} {event : Option Event}

/-- A byte is counted once, and every event as a frame. -/
theorem Steps.framing (h : r.Steps b next event) (hphase : r.phase ≠ .faulted) :
    next.stats.bytesRead = r.stats.bytesRead + 1 ∧
      next.stats.framesTruncated = r.stats.framesTruncated ∧
      next.stats.framesDecoded + next.stats.framesRejected + next.stats.framesInterrupted =
        r.stats.framesDecoded + r.stats.framesRejected + r.stats.framesInterrupted +
          event.toList.length := by
  cases h with
  | faulted hfaulted => exact absurd hfaulted hphase
  | opens _ _ => exact ⟨rfl, rfl, rfl⟩
  | noise _ _ => exact ⟨rfl, rfl, rfl⟩
  | cutsIn frame _ _ => exact ⟨rfl, rfl, rfl⟩
  | givesUp frame _ _ => exact ⟨rfl, rfl, rfl⟩
  -- lines have counters of their own, so only the event that closes the frame counts as one
  | closes frame held stats notices _ _ hheld =>
    have hframing := (OpenFrame.framing_closeLine hheld).1
    rcases Stats.ofFields_eq held.fields with ⟨decoded, rejected, hfields, hone⟩
    simp only [Stats.framing, Stats.mk.injEq, counted, Stats.add_def, Stats.add] at hframing
    simp only [hfields, Stats.add_def, Stats.add, Option.toList_some, List.length_singleton]
    omega
  | endsLine frame held stats notices _ _ hheld =>
    have hframing := (OpenFrame.framing_closeLine hheld).1
    simp only [Stats.framing, Stats.mk.injEq, counted, Stats.add_def, Stats.add] at hframing
    simp only [Option.toList_none, List.length_nil]
    omega
  | growsLine frame _ _ _ => exact ⟨rfl, rfl, rfl⟩

theorem IsBetween.openStart?_eq (h : r.IsBetween) : r.openStart? = none := by
  rcases h with h | h <;> simp [openStart?, h]

theorem openStart?_of_reading {frame : OpenFrame} (h : r.phase = .reading frame) :
    r.openStart? = some frame.start := by
  simp [openStart?, h]

/-- Every transition is one of the ways to extend a tiling by a byte. -/
theorem Steps.tiling (h : r.Steps b next event) (hphase : r.phase ≠ .faulted) {read : List UInt8}
    {spans : List Span} (hposition : r.position = read.length)
    (ht : Tiling read r.openStart? r.stats.noiseBytes spans) :
    Tiling (read ++ [b]) next.openStart? next.stats.noiseBytes
      (spans ++ event.toList.map Event.span) := by
  have hsilent : spans ++ (none : Option Event).toList.map Event.span = spans :=
    List.append_nil spans
  cases h with
  | faulted hfaulted => exact absurd hfaulted hphase
  | opens hbetween hb =>
    rw [hbetween.openStart?_eq] at ht
    have hopens := ht.opens
    rw [← hposition, ← hb] at hopens
    rw [hsilent]
    exact hopens
  | noise hbetween hb =>
    rw [hbetween.openStart?_eq] at ht
    rw [hsilent]
    exact ht.noise_append hb
  | cutsIn frame hreading hb =>
    rw [openStart?_of_reading hreading] at ht
    have hcuts := ht.cutsIn
    rw [← hposition, ← hb] at hcuts
    exact hcuts
  | givesUp frame hreading hb =>
    rw [openStart?_of_reading hreading] at ht
    have hcloses := ht.closes (b := b) (by rw [hb]; decide)
    rw [← hposition] at hcloses
    exact hcloses
  | closes frame held stats notices hreading hb hheld =>
    rw [openStart?_of_reading hreading] at ht
    have hstx : b ≠ Wire.stx := by
      rw [hb]
      decide
    have hcloses := ht.closes hstx
    -- neither the last line nor the end of the frame counts as noise
    have hnoise : (stats + Stats.ofFields held.fields).noiseBytes = r.stats.noiseBytes := by
      rcases Stats.ofFields_eq held.fields with ⟨_, _, hfields, -⟩
      have hlines := congrArg Stats.noiseBytes (OpenFrame.framing_closeLine hheld).1
      rw [hfields]
      exact hlines
    rw [← hposition] at hcloses
    simp only [Option.toList_some, List.map_singleton, Event.span_ofFields, hnoise]
    exact hcloses
  | endsLine frame held stats notices hreading hb hheld =>
    rcases OpenFrame.framing_closeLine hheld with ⟨hframing, hstart⟩
    rw [openStart?_of_reading hreading, ← hstart] at ht
    have hnoise : stats.noiseBytes = r.stats.noiseBytes := by
      have hlines := congrArg Stats.noiseBytes hframing
      exact hlines
    rw [hsilent]
    simp only [hnoise]
    exact ht.grows (Wire.isBoundary_of_isDelimiter hb)
  | growsLine frame hreading hb _ =>
    rw [openStart?_of_reading hreading] at ht
    rw [hsilent]
    exact ht.grows hb

/-- What a run counts, whatever lines it ends. -/
theorem framing_after {r : Receiver} (h : r.phase ≠ .faulted) (bytes : List UInt8) :
    (r.after bytes).stats.bytesRead = r.stats.bytesRead + bytes.length ∧
      (r.after bytes).stats.framesTruncated = r.stats.framesTruncated ∧
      (r.after bytes).stats.framesDecoded + (r.after bytes).stats.framesRejected +
          (r.after bytes).stats.framesInterrupted =
        r.stats.framesDecoded + r.stats.framesRejected + r.stats.framesInterrupted +
          (r.emits bytes).length := by
  induction bytes generalizing r with
  | nil => exact ⟨rfl, rfl, rfl⟩
  | cons b rest ih =>
    have hstep := r.steps_step b
    have hhead := hstep.framing h
    have htail := ih (hstep.phase_ne_faulted h)
    simp only [after_cons, emits_cons, List.length_append, List.length_cons]
    omega

/-- The end of the source is no byte. -/
theorem bytesRead_sourceEnded_after_fresh (repair : AdpsRepair) (bytes : List UInt8) :
    ((fresh repair).after bytes).sourceEnded.1.stats.bytesRead = bytes.length := by
  rw [stats_sourceEnded]
  exact (framing_after (phase_fresh_ne_faulted repair) bytes).1.trans (Nat.zero_add _)

theorem position_sourceEnded (r : Receiver) : r.sourceEnded.1.position = r.position := by
  cases hphase : r.phase <;> simp [sourceEnded, hphase]

/-- What a fresh receiver has read is tiled by its events, its noise and the frame that it is inside
of. -/
theorem tiling_after (repair : AdpsRepair) (bytes : List UInt8) :
    Tiling bytes ((fresh repair).after bytes).openStart?
      ((fresh repair).after bytes).stats.noiseBytes
      (((fresh repair).emits bytes).map Event.span) := by
  induction bytes using List.reverseRecOn with
  | nil => exact .nil
  | append_singleton front b ih =>
    have hposition := position_after_fresh repair front
    have hstep := ((fresh repair).after front).steps_step b
    have htiling := hstep.tiling (phase_after_fresh_ne_faulted repair front) hposition ih
    rwa [after_concat, emits_concat, List.map_append]

end Receiver

theorem Transmission.sequence_event (repair : AdpsRepair) (sequence : Nat) (t : Transmission) :
    (t.event repair sequence).sequence = sequence := by
  unfold event Event.ofFields
  split
  · split <;> rfl
  · rfl

/-- Draining a recording accounts for each of its bytes. The events are numbered from zero; each
spans the bytes from an `stx` up to the end of its frame, before the next event begins. Every other
byte is noise, or belongs to the frame that the end of the recording cuts off. -/
theorem Session.drain_tiles (repair : AdpsRepair) (bytes : List UInt8) :
    let drained := (onBytes repair bytes).drain
    let events := drained.events.map Prod.fst
    let receiver := drained.session.receiver
    let cutOff : Nat :=
      match Transmission.openStart? bytes with
      | some start => bytes.length - start
      | none => 0
    (∀ (i : Nat) (e : Event), events[i]? = some e → e.sequence = i) ∧
      (∀ e ∈ events, e.span.Delimits bytes) ∧
      events.Pairwise (fun e later => e.span.stop ≤ later.span.start) ∧
      events.length =
        receiver.stats.framesDecoded + receiver.stats.framesRejected +
          receiver.stats.framesInterrupted ∧
      bytes.count Wire.stx = events.length + receiver.stats.framesTruncated ∧
      receiver.position = bytes.length ∧
      receiver.stats.bytesRead = bytes.length ∧
      receiver.stats.noiseBytes + (events.map fun e => e.span.length).sum + cutOff =
        bytes.length := by
  intro drained events receiver cutOff
  have hevents : events = (Receiver.fresh repair).emits bytes := (drain_onBytes repair bytes).1
  have hreceiver : receiver = ((Receiver.fresh repair).after bytes).sourceEnded.1 :=
    (drain_onBytes repair bytes).2.2
  have hstats : receiver.stats = ((Receiver.fresh repair).after bytes).stats +
      { framesTruncated := if (Transmission.openStart? bytes).isSome then 1 else 0 } := by
    rw [← Receiver.openStart?_after repair, ← Receiver.stats_sourceEnded, ← hreceiver]
  have htiling := Receiver.tiling_after repair bytes
  rw [Receiver.openStart?_after, ← hevents] at htiling
  rcases Receiver.framing_after (Receiver.phase_fresh_ne_faulted repair) bytes with
    ⟨-, htruncated, hframes⟩
  rw [← hevents] at hframes
  have hnoise : receiver.stats.noiseBytes =
      ((Receiver.fresh repair).after bytes).stats.noiseBytes := by
    rw [hstats]
    rfl
  refine ⟨?_, ?_, ?_, ?_, ?_, ?_, ?_, ?_⟩
  · intro i e hget
    have hevent : (Transmission.events repair bytes)[i]? = some e := by
      rw [← Receiver.emits_eq_events, ← hevents]
      exact hget
    rw [Transmission.events, List.getElem?_mapIdx] at hevent
    rcases Option.map_eq_some_iff.1 hevent with ⟨t, -, rfl⟩
    exact t.sequence_event repair i
  · intro e he
    exact htiling.delimits e.span (List.mem_map_of_mem he)
  · exact List.pairwise_map.1 htiling.inOrder
  · rw [hstats]
    exact (hframes.trans (Nat.zero_add _)).symm
  · have hnone : ((Receiver.fresh repair).after bytes).stats.framesTruncated = 0 := htruncated
    have hcount := htiling.stxCount
    simp only [hstats, Stats.add_def, Stats.add, hnone]
    cases hopen : Transmission.openStart? bytes <;> simpa [hopen] using hcount
  · rw [hreceiver, Receiver.position_sourceEnded, Receiver.position_after_fresh]
  · rw [hreceiver, Receiver.bytesRead_sourceEnded_after_fresh]
  · have hlengths : (events.map Event.span).map Span.length = events.map fun e => e.span.length :=
      List.map_map
    rw [← hlengths, hnoise, htiling.fills]
    cases hopen : Transmission.openStart? bytes with
    | none => simp [cutOff, hopen]
    | some start =>
      -- the frame that is cut off was opened among the bytes
      have hlt := (htiling.opened start hopen).lt_length
      simp only [cutOff, hopen, Option.getD_some]
      exact Nat.add_sub_of_le (Nat.le_of_lt hlt)

end TicMeter
