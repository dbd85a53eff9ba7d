import TicMeter.Proofs.Fields
import TicMeter.Proofs.Interior

/-!
# Transmission — what a recording says, told without a receiver

A recording is read as a whole: every `stx` opens a transmission, and the next byte of the three
that bound transmissions closes it. The bytes between are split into lines, each line is read by
itself, and for each label the last value counts.

* `Transmission.events`: the events of a recording, read in this way.
* `Receiver.Carried`: what holds at the end of the bytes and is carried back by every byte. The one
  induction over the bytes of a run is `Receiver.Carried.run`.
* `Receiver.emits_eq_events`: a fresh receiver, fed byte by byte, gives these events.
* `Receiver.openStart?_after`: it is left inside the frame that no later byte closes, if any.
-/

namespace TicMeter

/-- The bytes from one `stx` up to the byte that ends the transmission. -/
structure Transmission where
  /-- offset of the opening byte -/
  start : Nat
  interior : List UInt8
  /-- the byte that ends it: `etx`, `eot` or the `stx` of the next one -/
  closing : UInt8
  deriving DecidableEq, Repr

namespace Transmission

/-! ## Reading a recording -/

def opened (offset : Nat) : List UInt8 → List (Nat × List UInt8)
  | [] => []
  | b :: rest =>
      if b = Wire.stx then (offset, rest) :: opened (offset + 1) rest else opened (offset + 1) rest

/-- The transmission opened at `start` before the bytes `rest`, if any of them ends it. -/
def closed? (start : Nat) (rest : List UInt8) : Option Transmission :=
  (rest.find? Wire.isBoundary).map fun closing =>
    { start, interior := rest.takeWhile (!Wire.isBoundary ·), closing }

/-- The transmissions of a recording, in the order of their first bytes. -/
def all (bytes : List UInt8) : List Transmission :=
  (opened 0 bytes).filterMap fun (start, rest) => closed? start rest

/-- Where the transmission began that the end of the recording cuts off. -/
def openStart? (bytes : List UInt8) : Option Nat :=
  ((opened 0 bytes).find? fun (_, rest) => !rest.any Wire.isBoundary).map Prod.fst

/-- The field that a label and a value give: the label is known, and its value can be read and is
not void. -/
def content? (label value : String) : Option (Label × Value) :=
  match Label.readText label value with
  | .ok decoded => decoded
  | .error _ => none

/-- The field that a line gives: it can be taken apart, and its checksum is accepted. -/
def field? (repair : AdpsRepair) (line : List UInt8) : Option (Label × Value) :=
  match GroupLine.parse line with
  | .error _ => none
  | .ok parts =>
      if (Checksum.verify parts.label parts.value parts.checksum repair).accepts then
        content? parts.label parts.value
      else none

/-- The last value of every label among the lines of the interior. -/
def fields (repair : AdpsRepair) (interior : List UInt8) : FieldMap :=
  .ofFn fun label => ((Wire.lines interior).filterMap (field? repair)).reverse.lookup label

/-- From the opening byte to the closing one; an `stx` that cuts in belongs to the next one. -/
def span (t : Transmission) : Span :=
  ⟨t.start, t.start + 1 + t.interior.length + if t.closing = Wire.stx then 0 else 1⟩

/-- The event of a transmission. Only `etx` closes it in order. -/
def event (repair : AdpsRepair) (sequence : Nat) (t : Transmission) : Event :=
  if t.closing = Wire.etx then .ofFields (fields repair t.interior) t.span sequence
  else .rejected (.interrupted sequence t.span)

theorem event_stx (repair : AdpsRepair) (sequence start : Nat) (interior : List UInt8) :
    event repair sequence ⟨start, interior, Wire.stx⟩ =
      .rejected (.interrupted sequence ⟨start, start + 1 + interior.length⟩) := by
  have hne : Wire.stx ≠ Wire.etx := by decide
  simp [event, span, hne]

theorem event_eot (repair : AdpsRepair) (sequence start : Nat) (interior : List UInt8) :
    event repair sequence ⟨start, interior, Wire.eot⟩ =
      .rejected (.interrupted sequence ⟨start, start + 1 + interior.length + 1⟩) := by
  have hne : Wire.eot ≠ Wire.etx ∧ Wire.eot ≠ Wire.stx := by decide
  simp [event, span, hne]

theorem event_etx (repair : AdpsRepair) (sequence start : Nat) (interior : List UInt8) :
    event repair sequence ⟨start, interior, Wire.etx⟩ =
      .ofFields (fields repair interior) ⟨start, start + 1 + interior.length + 1⟩ sequence := by
  have hne : Wire.etx ≠ Wire.stx := by decide
  simp [event, span, hne]

def events (repair : AdpsRepair) (bytes : List UInt8) : List Event :=
  (all bytes).mapIdx (event repair)

/-! ## Lines -/

theorem content?_eq (label value : String) :
    content? label value =
      match LineReading.ofContent label value with
      | .field label value => some (label, value)
      | _ => none := by
  unfold content? Label.readText LineReading.ofContent
  cases Label.ofText? label with
  | none => rfl
  | some label => rcases hread : label.read value with why | (_ | decoded) <;> simp [hread, Except.map]

/-- The field of a line is the one that its reading comes to. -/
theorem field?_eq (repair : AdpsRepair) (line : List UInt8) :
    field? repair line =
      match (LineReading.ofBytes repair line).outcome with
      | .field label value => some (label, value)
      | _ => none := by
  unfold field? LineReading.ofBytes
  cases hparse : GroupLine.parse line with
  | error why => rfl
  | ok parts =>
    cases hverify : Checksum.verify parts.label parts.value parts.checksum repair with
    | mismatch expected => simp [hverify, Checksum.Verdict.accepts]
    | valid => simpa [hverify, Checksum.Verdict.accepts] using content?_eq _ _
    | repaired => simpa [hverify, Checksum.Verdict.accepts] using content?_eq _ _

/-- A line changes the fields by the field that it gives. -/
theorem update_ofBytes (repair : AdpsRepair) (line : List UInt8) (m : FieldMap) :
    (LineReading.ofBytes repair line).update m =
      match field? repair line with
      | some (label, value) => m.insert label value
      | none => m := by
  rw [field?_eq]
  unfold LineReading.update
  cases (LineReading.ofBytes repair line).outcome <;> rfl

/-- Gathering lines inserts the fields that they give, one after the other. -/
theorem fields_foldl_take (repair : AdpsRepair) (lines : List (List UInt8)) (sum : Gathered) :
    (lines.foldl (Gathered.take repair) sum).fields =
      sum.fields.insertAll (lines.filterMap (field? repair)) := by
  induction lines generalizing sum with
  | nil => rfl
  | cons line rest ih =>
    have hfields : (sum.take repair line).fields =
        (LineReading.ofBytes repair line).update sum.fields := rfl
    rw [List.foldl_cons, ih, hfields, update_ofBytes]
    cases hfield : field? repair line with
    | none => simp [hfield]
    | some given => simp [hfield, FieldMap.insertAll_cons]

/-- For each label the last value stays. -/
theorem fields_ofLines (repair : AdpsRepair) (interior : List UInt8) :
    (Gathered.ofLines repair (Wire.lines interior)).fields = fields repair interior := by
  refine FieldMap.ext_get? fun label => ?_
  rw [fields, FieldMap.get?_ofFn, Gathered.ofLines, fields_foldl_take, FieldMap.get?_insertAll]
  simp

/-! ## Transmissions that are under way -/

/-- The events of those of the opened transmissions that are closed, numbered from `first`. -/
def numbered (repair : AdpsRepair) (first : Nat) (frames : List (Nat × List UInt8)) : List Event :=
  (frames.filterMap fun (start, rest) => closed? start rest).mapIdx fun i t =>
    t.event repair (first + i)

/-- The first of the opened transmissions that is not closed. -/
def openAmong (frames : List (Nat × List UInt8)) : Option Nat :=
  (frames.find? fun (_, rest) => !rest.any Wire.isBoundary).map Prod.fst

theorem events_eq_numbered (repair : AdpsRepair) (bytes : List UInt8) :
    events repair bytes = numbered repair 0 (opened 0 bytes) := by
  simp [events, numbered, all]

theorem openAmong_append (start : Nat) {b : UInt8} (hb : Wire.isBoundary b)
    (interior rest : List UInt8) (frames : List (Nat × List UInt8)) :
    openAmong ((start, interior ++ b :: rest) :: frames) = openAmong frames := by
  simp [openAmong, hb]

section Closing

variable {interior : List UInt8} (h : ∀ b ∈ interior, Wire.isBoundary b = false)

include h

theorem closed?_of_forall (start : Nat) : closed? start interior = none := by
  have hfind : interior.find? Wire.isBoundary = none := by simpa using h
  simp [closed?, hfind]

theorem closed?_append (start : Nat) {b : UInt8} (hb : Wire.isBoundary b) (rest : List UInt8) :
    closed? start (interior ++ b :: rest) = some ⟨start, interior, b⟩ := by
  have hfind : interior.find? Wire.isBoundary = none := by simpa using h
  have htake : interior.takeWhile (!Wire.isBoundary ·) = interior := by
    rw [List.takeWhile_eq_self_iff]
    simpa using h
  simp [closed?, List.find?_append, hfind, hb, List.takeWhile_append, htake]

theorem numbered_append (repair : AdpsRepair) (first start : Nat) {b : UInt8}
    (hb : Wire.isBoundary b) (rest : List UInt8) (frames : List (Nat × List UInt8)) :
    numbered repair first ((start, interior ++ b :: rest) :: frames) =
      event repair first ⟨start, interior, b⟩ :: numbered repair (first + 1) frames := by
  simp [numbered, closed?_append h start hb rest, List.mapIdx_cons, Nat.add_assoc, Nat.add_comm 1]

end Closing

end Transmission

namespace Receiver

open Transmission (opened numbered openAmong)

def openStart? (r : Receiver) : Option Nat :=
  match r.phase with
  | .reading frame => some frame.start
  | _ => none

/-- The receiver once an `stx` has broken off the frame it was inside of, before that byte opens the
next one. -/
def reopening (r : Receiver) (start : Nat) (interior : List UInt8) : Receiver :=
  { r.inFrame start interior with
    position := start + 1 + interior.length + 1
    sequence := r.sequence + 1
    stats := (r.inFrame start interior).stats + { bytesRead := 1, framesInterrupted := 1 } }

/-- Two claims about the bytes still to come and the transmissions that are opened before or among
them: `between` of a receiver between frames, `inside` of one that opened a frame and took in some
bytes. Every byte carries them back from what follows it. -/
structure Carried (between : Receiver → List UInt8 → List (Nat × List UInt8) → Prop)
    (inside : Receiver → Nat → List UInt8 → List UInt8 → List (Nat × List UInt8) → Prop) :
    Prop where
  ended : ∀ r : Receiver, r.IsBetween → between r [] []
  noise : ∀ (r : Receiver) (b : UInt8) (rest : List UInt8) (frames : List (Nat × List UInt8)),
    r.IsBetween → b ≠ Wire.stx → between (r.step b).next rest frames → between r (b :: rest) frames
  opens : ∀ (r : Receiver) (rest : List UInt8) (frames : List (Nat × List UInt8)),
    r.IsBetween → inside r.counted r.position [] rest frames → between r (Wire.stx :: rest) frames
  cutOff : ∀ (r : Receiver) (start : Nat) (interior : List UInt8),
    r.position = start + 1 → (∀ b ∈ interior, Wire.isBoundary b = false) →
    inside r start interior [] [(start, interior)]
  takesIn : ∀ (r : Receiver) (start : Nat) (interior : List UInt8) (b : UInt8) (rest : List UInt8)
    (frames : List (Nat × List UInt8)), r.position = start + 1 → Wire.isBoundary b = false →
    inside r start (interior ++ [b]) rest frames → inside r start interior (b :: rest) frames
  reopens : ∀ (r : Receiver) (start : Nat) (interior rest : List UInt8)
    (frames : List (Nat × List UInt8)), r.position = start + 1 →
    (∀ b ∈ interior, Wire.isBoundary b = false) →
    inside (r.reopening start interior) (start + 1 + interior.length) [] rest frames →
    inside r start interior (Wire.stx :: rest) ((start, interior ++ Wire.stx :: rest) :: frames)
  completes : ∀ (r : Receiver) (start : Nat) (interior rest : List UInt8)
    (frames : List (Nat × List UInt8)), r.position = start + 1 →
    (∀ b ∈ interior, Wire.isBoundary b = false) →
    between ((r.inFrame start interior).step Wire.etx).next rest frames →
    inside r start interior (Wire.etx :: rest) ((start, interior ++ Wire.etx :: rest) :: frames)
  breaksOff : ∀ (r : Receiver) (start : Nat) (interior rest : List UInt8)
    (frames : List (Nat × List UInt8)), r.position = start + 1 →
    (∀ b ∈ interior, Wire.isBoundary b = false) →
    between ((r.inFrame start interior).step Wire.eot).next rest frames →
    inside r start interior (Wire.eot :: rest) ((start, interior ++ Wire.eot :: rest) :: frames)

/-- The bytes that end a frame without opening the next one lead out of it. -/
theorem between_of_closes (r : Receiver) (start : Nat) (interior : List UInt8)
    (hpos : r.position = start + 1) {b : UInt8} (hb : b = Wire.etx ∨ b = Wire.eot) :
    ((r.inFrame start interior).step b).next.IsBetween ∧
      ((r.inFrame start interior).step b).next.position = start + 1 + interior.length + 1 := by
  rcases hb with rfl | rfl
  · rw [(step_inFrame_etx r start interior hpos).2]
    exact ⟨.inr rfl, rfl⟩
  · rw [(step_inFrame_eot r start interior hpos).2]
    exact ⟨.inl rfl, rfl⟩

/-- What every byte carries back holds of every run. -/
theorem Carried.run {between : Receiver → List UInt8 → List (Nat × List UInt8) → Prop}
    {inside : Receiver → Nat → List UInt8 → List UInt8 → List (Nat × List UInt8) → Prop}
    (h : Carried between inside) (bytes : List UInt8) :
    (∀ r : Receiver, r.IsBetween → between r bytes (opened r.position bytes)) ∧
    (∀ (r : Receiver) (start : Nat) (interior : List UInt8), r.position = start + 1 →
      (∀ b ∈ interior, Wire.isBoundary b = false) →
      inside r start interior bytes
        ((start, interior ++ bytes) :: opened (start + 1 + interior.length) bytes)) := by
  -- both at once: an `stx` leads from between frames into one, `etx` and `eot` lead back out of it
  induction bytes with
  | nil =>
    constructor
    · exact h.ended
    · intro r start interior hpos hplain
      rw [List.append_nil]
      exact h.cutOff r start interior hpos hplain
  | cons b rest ih =>
    rcases ih with ⟨ihBetween, ihInside⟩
    constructor
    · intro r hbetween
      by_cases hb : b = Wire.stx
      · subst hb
        have key := ihInside r.counted r.position [] rfl (by simp)
        simpa [opened] using h.opens r rest _ hbetween key
      · have hnext := (step_between_noise hbetween hb).2
        have key := ihBetween (r.step b).next (by rw [hnext]; exact .inl rfl)
        have hposition : (r.step b).next.position = r.position + 1 := by rw [hnext]
        rw [hposition] at key
        simpa [opened, hb] using h.noise r b rest _ hbetween hb key
    · intro r start interior hpos hplain
      cases hb : Wire.isBoundary b with
      | false =>
        have hlonger : ∀ c ∈ interior ++ [b], Wire.isBoundary c = false := by
          intro c hc
          rcases List.mem_append.1 hc with hc | hc
          · exact hplain c hc
          · rwa [List.mem_singleton.1 hc]
        -- the byte goes on with the frame, whose interior it makes longer
        have key := ihInside r start (interior ++ [b]) hpos hlonger
        have hstx : b ≠ Wire.stx := (Wire.ne_boundary hb).1
        simpa [opened, hstx, Nat.add_assoc] using h.takesIn r start interior b rest _ hpos hb key
      | true =>
        have hetx : Wire.etx ≠ Wire.stx := by decide
        have heot : Wire.eot ≠ Wire.stx := by decide
        rcases Wire.boundary_cases hb with rfl | rfl | rfl
        · -- the `stx` ends one frame and opens the next
          have key := ihInside (r.reopening start interior) (start + 1 + interior.length) [] rfl
            (by simp)
          simpa [opened] using h.reopens r start interior rest _ hpos hplain key
        · rcases between_of_closes r start interior hpos (.inl rfl) with ⟨hnext, hposition⟩
          have key := ihBetween _ hnext
          rw [hposition] at key
          simpa [opened, hetx] using h.completes r start interior rest _ hpos hplain key
        · rcases between_of_closes r start interior hpos (.inr rfl) with ⟨hnext, hposition⟩
          have key := ihBetween _ hnext
          rw [hposition] at key
          simpa [opened, heot] using h.breaksOff r start interior rest _ hpos hplain key

/-- The run of `r` on the bytes is told by the transmissions `frames` that are opened before or
among them. -/
def Reads (r : Receiver) (bytes : List UInt8) (frames : List (Nat × List UInt8)) : Prop :=
  r.emits bytes = numbered r.repair r.sequence frames ∧
    (r.after bytes).openStart? = openAmong frames

theorem Reads.cons_none {r next : Receiver} {b : UInt8} {rest : List UInt8}
    {frames : List (Nat × List UInt8)} (hevent : (r.step b).event = none)
    (hnext : (r.step b).next = next) (hrepair : next.repair = r.repair)
    (hsequence : next.sequence = r.sequence) (h : next.Reads rest frames) :
    r.Reads (b :: rest) frames := by
  rcases h with ⟨hemits, hopen⟩
  refine ⟨?_, by rw [after_cons, hnext, hopen]⟩
  rw [emits_cons, hevent, hnext, hemits, hrepair, hsequence]
  rfl

/-- A byte that ends a frame gives the event of its transmission. -/
theorem Reads.cons_some {r next : Receiver} {start : Nat} {interior rest : List UInt8} {b : UInt8}
    {frames : List (Nat × List UInt8)} (hb : Wire.isBoundary b)
    (hinterior : ∀ c ∈ interior, Wire.isBoundary c = false)
    (hevent : (r.step b).event =
      some (Transmission.event r.repair r.sequence ⟨start, interior, b⟩))
    (hnext : (r.step b).next = next) (hrepair : next.repair = r.repair)
    (hsequence : next.sequence = r.sequence + 1) (h : next.Reads rest frames) :
    r.Reads (b :: rest) ((start, interior ++ b :: rest) :: frames) := by
  rcases h with ⟨hemits, hopen⟩
  constructor
  · rw [emits_cons, hevent, hnext, hemits, hrepair, hsequence,
      Transmission.numbered_append hinterior _ _ _ hb]
    rfl
  · rw [after_cons, hnext, hopen, Transmission.openAmong_append start hb]

/-- Between frames, only what is still to come is told; inside a frame, also the frame itself, with
what it has taken in so far. -/
theorem carried_reads :
    Carried Reads fun r start interior => (r.inFrame start interior).Reads where
  ended := by
    intro r hbetween
    rcases hbetween with hphase | hphase <;> simp [Reads, openStart?, hphase, numbered, openAmong]
  noise := by
    intro r b rest frames hbetween hb key
    rcases step_between_noise hbetween hb with ⟨hevent, hnext⟩
    rw [hnext] at key
    exact .cons_none hevent hnext rfl rfl key
  opens := by
    intro r rest frames hbetween key
    rcases step_between_stx hbetween with ⟨hevent, hnext⟩
    exact .cons_none hevent hnext rfl rfl key
  cutOff := by
    intro r start interior hpos hplain
    have hany : interior.any Wire.isBoundary = false := by simpa using hplain
    simp [Reads, openStart?, inFrame, OpenFrame.ofInterior, numbered, openAmong,
      Transmission.closed?_of_forall hplain, hany]
  takesIn := by
    intro r start interior b rest frames hpos hb key
    rcases step_inFrame r start interior hpos hb with ⟨hnext, hevent⟩
    exact .cons_none hevent hnext rfl rfl key
  reopens := by
    intro r start interior rest frames hpos hplain key
    rcases step_inFrame_stx r start interior hpos with ⟨hevent, hnext⟩
    rw [← Transmission.event_stx r.repair] at hevent
    exact .cons_some rfl hplain hevent hnext rfl rfl key
  completes := by
    intro r start interior rest frames hpos hplain key
    rcases step_inFrame_etx r start interior hpos with ⟨hevent, hnext⟩
    -- the only place where the fields are looked at
    rw [Transmission.fields_ofLines, ← Transmission.event_etx] at hevent
    rw [hnext] at key
    exact .cons_some rfl hplain hevent hnext rfl rfl key
  breaksOff := by
    intro r start interior rest frames hpos hplain key
    rcases step_inFrame_eot r start interior hpos with ⟨hevent, hnext⟩
    rw [← Transmission.event_eot r.repair] at hevent
    rw [hnext] at key
    exact .cons_some rfl hplain hevent hnext rfl rfl key

/-- Fed byte by byte, a fresh receiver gives the events of the recording as a whole. -/
theorem emits_eq_events (repair : AdpsRepair) (bytes : List UInt8) :
    (fresh repair).emits bytes = Transmission.events repair bytes := by
  rw [Transmission.events_eq_numbered]
  exact ((carried_reads.run bytes).1 (fresh repair) (.inl rfl)).1

theorem openStart?_after (repair : AdpsRepair) (bytes : List UInt8) :
    ((fresh repair).after bytes).openStart? = Transmission.openStart? bytes :=
  ((carried_reads.run bytes).1 (fresh repair) (.inl rfl)).2

end Receiver

/-- Draining a fresh session gives the events that the recording as a whole says, and no failure. -/
theorem Session.drain_events_onBytes (repair : AdpsRepair) (bytes : List UInt8) :
    (Session.onBytes repair bytes).drain.events.map Prod.fst = Transmission.events repair bytes ∧
      (Session.onBytes repair bytes).drain.ending = .ended := by
  rcases Session.drain_onBytes repair bytes with ⟨hevents, hending, -⟩
  exact ⟨hevents.trans (Receiver.emits_eq_events repair bytes), hending⟩

end TicMeter
