import TicMeter.Proofs.Tiling

/-!
# LineEnding — how lines are delimited does not matter

Lines stand between delimiters, and an empty line is none. So it is the same which of the two
delimiters stands at a place, and how many of them stand one behind the other, at the beginning of a
frame or at its end.

* `Wire.exchange`: the bytes of a recording with some delimiters exchanged for the other one.
* `Edit`: the bytes of two recordings side by side, of which one has delimiters that the other has
  not. `Edit.IsRespacing` says where such delimiters may stand.
* `Receiver.settle`: the receiver once its line is closed. Two receivers that differ in a line that
  one of them has closed before the other match as soon as both have closed it.
* `Receiver.Together`: what the receivers of the two recordings have in common, with one lemma for
  each kind of edit; `Edit.IsRespacing.run` carries it through all edits.
* `Session.drain_respaced`: nothing that is drained depends on how lines are delimited, but for the
  offsets of the frames.
-/

namespace TicMeter

/-! ## Exchanged delimiters -/

namespace Wire

/-- The delimiter that may stand in the place of this one. Other bytes stay. -/
def otherDelimiter (b : UInt8) : UInt8 :=
  if b = lf then cr else if b = cr then lf else b

/-- The bytes with the delimiters at the chosen offsets exchanged. -/
def exchange (chosen : Nat → Bool) (bytes : List UInt8) : List UInt8 :=
  bytes.mapIdx fun i b => if chosen i then otherDelimiter b else b

theorem otherDelimiter_cases (b : UInt8) :
    otherDelimiter b = b ∨ isDelimiter (otherDelimiter b) ∧ isDelimiter b := by
  unfold otherDelimiter
  split
  · next hlf =>
    subst hlf
    exact .inr (by decide)
  · split
    · next hcr =>
      subst hcr
      exact .inr (by decide)
    · exact .inl rfl

theorem exchange_cons (chosen : Nat → Bool) (b : UInt8) (rest : List UInt8) :
    exchange chosen (b :: rest) =
      (if chosen 0 then otherDelimiter b else b) :: exchange (fun i => chosen (i + 1)) rest := by
  simp [exchange, List.mapIdx_cons]

end Wire

namespace Receiver

/-- A receiver does not tell the delimiters apart. -/
theorem step_congr_isDelimiter (r : Receiver) {b c : UInt8} (hb : Wire.isDelimiter b)
    (hc : Wire.isDelimiter c) : r.step b = r.step c := by
  have hbcases : b = Wire.lf ∨ b = Wire.cr := by simpa [Wire.isDelimiter] using hb
  have hccases : c = Wire.lf ∨ c = Wire.cr := by simpa [Wire.isDelimiter] using hc
  have hswap : r.step Wire.lf = r.step Wire.cr := by
    have hplain : Wire.lf ≠ Wire.stx ∧ Wire.lf ≠ Wire.eot ∧ Wire.lf ≠ Wire.etx ∧
        Wire.cr ≠ Wire.stx ∧ Wire.cr ≠ Wire.eot ∧ Wire.cr ≠ Wire.etx := by decide
    cases hphase : r.phase <;> simp [step, hphase, stepInFrame, hplain]
  rcases hbcases with rfl | rfl <;> rcases hccases with rfl | rfl <;> simp [hswap]

theorem run_exchange (r : Receiver) (chosen : Nat → Bool) (bytes : List UInt8) :
    r.after (Wire.exchange chosen bytes) = r.after bytes ∧
      r.emits (Wire.exchange chosen bytes) = r.emits bytes := by
  induction bytes generalizing r chosen with
  | nil => exact ⟨rfl, rfl⟩
  | cons b rest ih =>
    have hstep : r.step (if chosen 0 then Wire.otherDelimiter b else b) = r.step b := by
      split
      · rcases Wire.otherDelimiter_cases b with hsame | ⟨hother, hb⟩
        · rw [hsame]
        · exact r.step_congr_isDelimiter hother hb
      · rfl
    rcases ih (r.step b).next (fun i => chosen (i + 1)) with ⟨hafter, hemits⟩
    rw [Wire.exchange_cons, after_cons, emits_cons, hstep, hafter, hemits]
    exact ⟨rfl, rfl⟩

end Receiver

/-! ## Added and removed delimiters -/

/-- What becomes of one byte when delimiters are added and removed. -/
inductive Edit
  | kept (b : UInt8)
  | added (b : UInt8)
  | removed (b : UInt8)
  deriving DecidableEq, Repr

/-- A byte behind which a line begins inside a frame. -/
def Wire.opensLine (b : UInt8) : Bool :=
  b == stx || isDelimiter b

/-- A byte that closes a line in order. -/
def Wire.closesLine (b : UInt8) : Bool :=
  b == etx || isDelimiter b

namespace Edit

def old? : Edit → Option UInt8
  | .kept b | .removed b => some b
  | .added _ => none

def new? : Edit → Option UInt8
  | .kept b | .added b => some b
  | .removed _ => none

def kept? : Edit → Option UInt8
  | .kept b => some b
  | .added _ | .removed _ => none

def isAdded : Edit → Bool
  | .added _ => true
  | _ => false

def isRemoved : Edit → Bool
  | .removed _ => true
  | _ => false

def old (edits : List Edit) : List UInt8 :=
  edits.filterMap old?

def new (edits : List Edit) : List UInt8 :=
  edits.filterMap new?

section Bytes

variable (b : UInt8) (edits rest : List Edit)

@[simp] theorem old_nil : old [] = [] := rfl

@[simp] theorem new_nil : new [] = [] := rfl

@[simp] theorem old_kept : old (.kept b :: rest) = b :: old rest := rfl

@[simp] theorem old_added : old (.added b :: rest) = old rest := rfl

@[simp] theorem old_removed : old (.removed b :: rest) = b :: old rest := rfl

@[simp] theorem old_append : old (edits ++ rest) = old edits ++ old rest :=
  List.filterMap_append

@[simp] theorem new_kept : new (.kept b :: rest) = b :: new rest := rfl

@[simp] theorem new_added : new (.added b :: rest) = b :: new rest := rfl

@[simp] theorem new_removed : new (.removed b :: rest) = new rest := rfl

@[simp] theorem new_append : new (edits ++ rest) = new edits ++ new rest :=
  List.filterMap_append

end Bytes

/-- Whether the byte that is kept last opens a line. -/
def opened (edits : List Edit) : Bool :=
  (edits.filterMap kept?).getLast?.any Wire.opensLine

/-- Whether the byte that is kept first closes a line. -/
def closing (edits : List Edit) : Bool :=
  (edits.filterMap kept?).head?.any Wire.closesLine

/-- Whether the edit, between others, leaves the lines as they are: it adds or removes a delimiter
inside a frame, next to a delimiter that is kept, behind the `stx` of the frame or before its `etx`.
-/
def fits (front back : List Edit) : Edit → Bool
  | .kept _ => true
  | .added b | .removed b =>
      Wire.isDelimiter b && (Transmission.openStart? (old front)).isSome &&
        (opened front || closing back)

def IsRespacing (edits : List Edit) : Prop :=
  ∀ i : Fin edits.length, edits[i].fits (edits.take i) (edits.drop (i + 1))

instance (edits : List Edit) : Decidable (IsRespacing edits) :=
  inferInstanceAs (Decidable (∀ _ : Fin _, _ = true))

/-- The edits in front of the byte at an offset of the old bytes. -/
def upTo : Nat → List Edit → List Edit
  | _, [] => []
  | offset, .added b :: rest => .added b :: upTo offset rest
  | 0, _ :: _ => []
  | offset + 1, edit :: rest => edit :: upTo offset rest

/-- Where an offset of the old bytes is after the edits: later by the number of bytes that are added
in front of it, and earlier by the number of those that are removed. -/
def moved (edits : List Edit) (offset : Nat) : Nat :=
  offset + (upTo offset edits).countP isAdded - (upTo offset edits).countP isRemoved

theorem IsRespacing.fits {front back : List Edit} {edit : Edit}
    (h : IsRespacing (front ++ edit :: back)) : edit.fits front back := by
  have hlt : front.length < (front ++ edit :: back).length := by simp
  simpa using h ⟨front.length, hlt⟩

/-! ### Offsets -/

theorem length_old_add (edits : List Edit) :
    (old edits).length + edits.countP isAdded = (new edits).length + edits.countP isRemoved := by
  induction edits with
  | nil => rfl
  | cons edit rest ih =>
    cases edit <;> simp [List.countP_cons, isAdded, isRemoved] <;> omega

theorem upTo_append (front back : List Edit) :
    upTo (old front).length (front ++ back) = front ++ upTo 0 back := by
  induction front with
  | nil => rfl
  | cons edit rest ih =>
    cases edit <;> simp [upTo, ih]

/-- An offset in front of which nothing more is added. -/
theorem moved_append (front : List Edit) {back : List Edit} (h : upTo 0 back = []) :
    moved (front ++ back) (old front).length = (new front).length := by
  have hlength := length_old_add front
  rw [moved, upTo_append, h, List.append_nil]
  omega

end Edit

/-! ## Events and receivers at other offsets -/

def Span.relocate (move : Nat → Nat) (span : Span) : Span :=
  ⟨move span.start, move span.stop⟩

def Event.relocate (move : Nat → Nat) : Event → Event
  | .frame f => .frame { f with span := f.span.relocate move }
  | .rejected (.unclassifiable sequence span labels) =>
      .rejected (.unclassifiable sequence (span.relocate move) labels)
  | .rejected (.interrupted sequence span) =>
      .rejected (.interrupted sequence (span.relocate move))

theorem Event.relocate_ofFields (move : Nat → Nat) (fields : FieldMap) (span : Span)
    (sequence : Nat) :
    (ofFields fields span sequence).relocate move =
      .ofFields fields (span.relocate move) sequence := by
  unfold ofFields
  cases FrameKind.classify fields.contains <;> rfl

def Stats.withRead (stats : Stats) (read : Nat) : Stats :=
  { stats with bytesRead := read }

theorem LineReading.count_withRead (reading : LineReading) (fields : FieldMap) (stats : Stats)
    (read : Nat) :
    reading.count fields (stats.withRead read) = (reading.count fields stats).withRead read := by
  rcases reading with ⟨outcome, repaired⟩
  cases outcome with
  | field label value =>
    cases hrepeats : fields.contains label <;> cases repaired <;>
      simp [count, repeats, hrepeats] <;> rfl
  | _ => cases repaired <;> rfl

/-- Open frames that hold the same bytes of a line and the same fields, and that began at the same
byte. Where the line began does not show in any event. -/
structure OpenFrame.Matches (move : Nat → Nat) (frame frame' : OpenFrame) : Prop where
  start : frame'.start = move frame.start
  kept : frame'.line.kept = frame.line.kept
  fields : frame'.fields = frame.fields

inductive Phase.Matches (move : Nat → Nat) : Phase → Phase → Prop
  | seeking : Matches move .seeking .seeking
  | complete : Matches move .complete .complete
  | reading {frame frame' : OpenFrame} (h : frame.Matches move frame') :
      Matches move (.reading frame) (.reading frame')

structure Receiver.Matches (move : Nat → Nat) (r r' : Receiver) : Prop where
  repair : r'.repair = r.repair
  sequence : r'.sequence = r.sequence
  stats : ∃ read, r'.stats = r.stats.withRead read
  phase : r.phase.Matches move r'.phase

namespace OpenFrame.Matches

variable {move : Nat → Nat} {frame frame' : OpenFrame}

theorem closeLine (h : frame.Matches move frame') (repair : AdpsRepair) (stats : Stats)
    (read : Nat) :
    (frame.closeLine repair stats).1.Matches move
        (frame'.closeLine repair (stats.withRead read)).1 ∧
      (frame'.closeLine repair (stats.withRead read)).2.1 =
        (frame.closeLine repair stats).2.1.withRead read := by
  unfold OpenFrame.closeLine
  rw [h.kept, h.fields]
  split
  · exact ⟨h, rfl⟩
  · exact ⟨⟨h.start, rfl, rfl⟩, LineReading.count_withRead _ _ _ _⟩

theorem push (h : frame.Matches move frame') (offset offset' : Nat) (b : UInt8) :
    OpenFrame.Matches move { frame with line := frame.line.push offset b }
      { frame' with line := frame'.line.push offset' b } := by
  refine ⟨h.start, ?_, h.fields⟩
  simp [PendingLine.push, h.kept]

end OpenFrame.Matches

namespace Receiver

variable {move : Nat → Nat} {r r' : Receiver}

theorem step_of_reading {frame : OpenFrame} (h : r.phase = .reading frame) (b : UInt8) :
    r.step b = r.counted.stepInFrame frame r.position b := by
  simp only [step, h]
  rfl

namespace Matches

theorem counted (h : r.Matches move r') : r.counted.Matches move r'.counted := by
  rcases h with ⟨hrepair, hsequence, ⟨read, hstats⟩, hphase⟩
  refine ⟨hrepair, hsequence, ⟨read + 1, ?_⟩, hphase⟩
  rw [Receiver.counted, hstats]
  rfl

theorem complete (h : r.Matches move r') {frame frame' : OpenFrame}
    (hframe : frame.Matches move frame') {stop stop' : Nat} (hstop : move stop = stop') :
    (r.complete frame stop).next.Matches move (r'.complete frame' stop').next ∧
      (r'.complete frame' stop').event =
        (r.complete frame stop).event.map (Event.relocate move) := by
  rcases h with ⟨hrepair, hsequence, ⟨read, hstats⟩, -⟩
  rcases complete_eq r frame stop with ⟨hevent, hnext⟩
  rcases complete_eq r' frame' stop' with ⟨hevent', hnext'⟩
  rw [hevent, hnext, hevent', hnext', hframe.fields, hframe.start, hsequence, hstats, ← hstop]
  refine ⟨⟨hrepair, rfl, ⟨_, rfl⟩, .complete⟩, ?_⟩
  simp [Event.relocate_ofFields, Span.relocate]

theorem stepInFrame (h : r.Matches move r') {frame frame' : OpenFrame}
    (hframe : frame.Matches move frame') {place place' : Nat} (hplace : move place = place')
    {b : UInt8} (hstop : b = Wire.etx ∨ b = Wire.eot → move (place + 1) = place' + 1) :
    (r.stepInFrame frame place b).next.Matches move (r'.stepInFrame frame' place' b).next ∧
      (r'.stepInFrame frame' place' b).event =
        (r.stepInFrame frame place b).event.map (Event.relocate move) := by
  rcases r' with ⟨_, phase', position', _, _⟩
  rcases h with ⟨rfl, rfl, ⟨read, rfl⟩, hphase⟩
  rcases hframe.closeLine r.repair r.stats read with ⟨hheld, hcounted⟩
  unfold Receiver.stepInFrame
  split
  · -- the byte belongs to the frame that it opens
    refine ⟨⟨rfl, rfl, ⟨read, rfl⟩, .reading ⟨hplace.symm, rfl, rfl⟩⟩, ?_⟩
    simp [interrupt, Event.relocate, Span.relocate, hframe.start, hplace]
  split
  · next hb =>
    refine ⟨⟨rfl, rfl, ⟨read, rfl⟩, .seeking⟩, ?_⟩
    simp [interrupt, Event.relocate, Span.relocate, hframe.start, hstop (.inr hb)]
  split
  · next hb =>
    have hclosed : Receiver.Matches move { r with stats := (frame.closeLine r.repair r.stats).2.1 }
        ⟨r.repair, phase', position', r.sequence,
          (frame'.closeLine r.repair (r.stats.withRead read)).2.1⟩ :=
      ⟨rfl, rfl, ⟨read, hcounted⟩, hphase⟩
    exact hclosed.complete hheld (hstop (.inl hb))
  split
  · exact ⟨⟨rfl, rfl, ⟨read, hcounted⟩, .reading hheld⟩, rfl⟩
  · exact ⟨⟨rfl, rfl, ⟨read, rfl⟩, .reading (hframe.push place place' b)⟩, rfl⟩

/-- Receivers that match still do after the same byte, and what comes out is the same event. If the
byte can end a frame, the offset behind it must have moved with it. -/
theorem step (h : r.Matches move r') (hplace : move r.position = r'.position) {b : UInt8}
    (hstop : b = Wire.etx ∨ b = Wire.eot → move (r.position + 1) = r'.position + 1) :
    (r.step b).next.Matches move (r'.step b).next ∧
      (r'.step b).event = (r.step b).event.map (Event.relocate move) := by
  -- outside of frames, a byte opens one or is noise to both
  have between (hr : r.IsBetween) (hr' : r'.IsBetween) :
      (r.step b).next.Matches move (r'.step b).next ∧
        (r'.step b).event = (r.step b).event.map (Event.relocate move) := by
    rcases h with ⟨hrepair, hsequence, ⟨read, hstats⟩, -⟩
    by_cases hb : b = Wire.stx
    · subst hb
      rcases step_between_stx hr with ⟨hevent, hnext⟩
      rcases step_between_stx hr' with ⟨hevent', hnext'⟩
      rw [hevent, hevent', hnext, hnext', hstats]
      exact ⟨⟨hrepair, hsequence, ⟨_, rfl⟩, .reading ⟨hplace.symm, rfl, rfl⟩⟩, rfl⟩
    · rcases step_between_noise hr hb with ⟨hevent, hnext⟩
      rcases step_between_noise hr' hb with ⟨hevent', hnext'⟩
      rw [hevent, hevent', hnext, hnext', hstats]
      exact ⟨⟨hrepair, hsequence, ⟨_, rfl⟩, .seeking⟩, rfl⟩
  generalize hphase : r.phase = phase, hphase' : r'.phase = phase'
  have hphases := h.phase
  rw [hphase, hphase'] at hphases
  cases hphases with
  | seeking => exact between (.inl hphase) (.inl hphase')
  | complete => exact between (.inr hphase) (.inr hphase')
  | reading hframe =>
    rw [step_of_reading hphase, step_of_reading hphase']
    exact h.counted.stepInFrame hframe hplace hstop

/-- Bytes that are read besides make no difference. -/
theorem counted_left (h : r.Matches move r') : r.counted.Matches move r' := by
  rcases r' with ⟨_, phase', position', _, _⟩
  rcases h with ⟨rfl, rfl, ⟨read, rfl⟩, hphase⟩
  exact ⟨rfl, rfl, ⟨read, rfl⟩, hphase⟩

theorem counted_right (h : r.Matches move r') : r.Matches move r'.counted := by
  rcases r' with ⟨_, phase', position', _, _⟩
  rcases h with ⟨rfl, rfl, ⟨read, rfl⟩, hphase⟩
  exact ⟨rfl, rfl, ⟨read + 1, rfl⟩, hphase⟩

theorem isSome_openStart?_iff (h : r.Matches move r') :
    r'.openStart?.isSome ↔ r.openStart?.isSome := by
  rcases h with ⟨-, -, -, hphase⟩
  generalize hr : r.phase = phase, hr' : r'.phase = phase' at hphase
  cases hphase <;> simp [openStart?, hr, hr']

theorem sourceEnded (h : r.Matches move r') :
    r.sourceEnded.1.Matches move r'.sourceEnded.1 := by
  rcases r' with ⟨_, phase', position', _, _⟩
  rcases h with ⟨rfl, rfl, ⟨read, rfl⟩, hphase⟩
  generalize hr : r.phase = phase at hphase
  cases hphase <;> simp only [Receiver.sourceEnded, hr]
  all_goals exact ⟨rfl, rfl, ⟨read, rfl⟩, .seeking⟩

end Matches

/-! ## Closing the line early -/

/-- The receiver once the line that it holds is closed. -/
def settle (r : Receiver) : Receiver :=
  match r.phase with
  | .reading frame =>
      { r with
        phase := .reading (frame.closeLine r.repair r.stats).1
        stats := (frame.closeLine r.repair r.stats).2.1 }
  | _ => r

def IsSettled (r : Receiver) : Prop :=
  ∀ frame, r.phase = .reading frame → frame.line.kept = []

theorem settle_of_reading {frame : OpenFrame} (h : r.phase = .reading frame) :
    r.settle =
      { r with
        phase := .reading (frame.closeLine r.repair r.stats).1
        stats := (frame.closeLine r.repair r.stats).2.1 } := by
  simp [settle, h]

theorem position_settle (r : Receiver) : r.settle.position = r.position := by
  unfold settle
  split <;> rfl

theorem isSome_openStart?_settle (r : Receiver) :
    r.settle.openStart?.isSome ↔ r.openStart?.isSome := by
  cases hphase : r.phase <;> simp [settle, openStart?, hphase]

end Receiver

namespace OpenFrame

variable (frame : OpenFrame) (repair : AdpsRepair) (stats : Stats)

theorem kept_closeLine : (frame.closeLine repair stats).1.line.kept = [] := by
  unfold closeLine
  split
  · next hempty => simpa using hempty
  · rfl

theorem closeLine_of_kept {frame : OpenFrame} (h : frame.line.kept = []) :
    frame.closeLine repair stats = (frame, stats, []) := by
  simp [closeLine, h]

theorem closeLine_add (more : Stats) :
    frame.closeLine repair (stats + more) =
      ((frame.closeLine repair stats).1, (frame.closeLine repair stats).2.1 + more,
        (frame.closeLine repair stats).2.2) := by
  unfold closeLine
  split
  · rfl
  · rw [add_comm stats more, add_comm _ more]
    simp only [LineReading.count_add]

end OpenFrame

namespace Receiver

variable {move : Nat → Nat} {r r' : Receiver}

theorem isSettled_settle (r : Receiver) : r.settle.IsSettled := by
  intro held hheld
  cases hphase : r.phase with
  | reading frame =>
    rw [settle_of_reading hphase] at hheld
    cases hheld
    exact frame.kept_closeLine r.repair r.stats
  | _ => simp [settle, hphase] at hheld

theorem IsSettled.settle_eq (h : r.IsSettled) : r.settle = r := by
  cases hphase : r.phase with
  | reading frame =>
    rw [settle_of_reading hphase, OpenFrame.closeLine_of_kept _ _ (h frame hphase), ← hphase]
  | _ => simp [settle, hphase]

theorem IsSettled.counted (h : r.IsSettled) : r.counted.IsSettled := h

theorem Matches.settle (h : r.Matches move r') : r.settle.Matches move r'.settle := by
  rcases r' with ⟨_, phase', position', _, _⟩
  rcases h with ⟨rfl, rfl, ⟨read, rfl⟩, hphase⟩
  generalize hr : r.phase = phase at hphase
  cases hphase with
  | reading hframe =>
    rcases hframe.closeLine r.repair r.stats read with ⟨hheld, hcounted⟩
    rw [settle_of_reading hr, settle_of_reading rfl]
    exact ⟨rfl, rfl, ⟨read, hcounted⟩, .reading hheld⟩
  | _ =>
    simp only [Receiver.settle, hr]
    exact ⟨rfl, rfl, ⟨read, rfl⟩, by simp only [hr]; constructor⟩

/-- Inside a frame, a delimiter closes the line and does nothing else. -/
theorem step_isDelimiter {d : UInt8} (hd : Wire.isDelimiter d) (h : r.openStart?.isSome) :
    (r.step d).next = r.settle.counted ∧ (r.step d).event = none := by
  cases hphase : r.phase with
  | reading frame =>
    have hdelimiter : d = Wire.lf ∨ d = Wire.cr := by simpa [Wire.isDelimiter] using hd
    rcases Wire.ne_boundary (Wire.isBoundary_of_isDelimiter hd) with ⟨hstx, hetx, heot⟩
    have hadd := frame.closeLine_add r.repair r.stats { bytesRead := 1 }
    rw [step_of_reading hphase, settle_of_reading hphase, stepInFrame, if_neg hstx, if_neg heot,
      if_neg hetx, if_pos hdelimiter]
    simp only [Receiver.counted, hadd]
    exact ⟨trivial, trivial⟩
  | _ => simp [openStart?, hphase] at h

/-- The `etx` first closes the line, and then the frame. -/
theorem step_etx_of_reading {frame : OpenFrame} (h : r.phase = .reading frame) :
    (r.step Wire.etx).event =
        some (.ofFields (frame.closeLine r.repair r.stats).1.fields
          ⟨frame.start, r.position + 1⟩ r.sequence) ∧
      (r.step Wire.etx).next =
        { r.counted with
          phase := .complete
          sequence := r.sequence + 1
          stats := (frame.closeLine r.repair r.stats).2.1 + { bytesRead := 1 } +
            .ofFields (frame.closeLine r.repair r.stats).1.fields } := by
  have hne : Wire.etx ≠ Wire.stx ∧ Wire.etx ≠ Wire.eot := by decide
  have hadd := frame.closeLine_add r.repair r.stats { bytesRead := 1 }
  have hstart := frame.start_closeLine r.repair r.stats
  rcases complete_eq
    { r.counted with stats := (frame.closeLine r.repair r.stats).2.1 + { bytesRead := 1 } }
    (frame.closeLine r.repair r.stats).1 (r.position + 1) with ⟨hevent, hnext⟩
  rw [step_of_reading h, stepInFrame, if_neg hne.1, if_neg hne.2, if_pos rfl]
  simp only [counted, hadd]
  rw [← hstart]
  exact ⟨hevent, hnext⟩

/-- What closes the line that is held does the same when the line has been closed before. -/
theorem step_settle {b : UInt8} (hb : Wire.closesLine b) (r : Receiver) :
    (r.settle.step b).next = (r.step b).next ∧ (r.settle.step b).event = (r.step b).event := by
  cases hphase : r.phase with
  | reading frame =>
    have hopen : r.openStart?.isSome := by simp [openStart?, hphase]
    have hcases : b = Wire.etx ∨ Wire.isDelimiter b := by simpa [Wire.closesLine] using hb
    rcases hcases with rfl | hdelimiter
    · -- closing the line leaves none to be closed again
      have hheld : r.settle.phase = .reading (frame.closeLine r.repair r.stats).1 := by
        rw [settle_of_reading hphase]
      have hclosed := OpenFrame.closeLine_of_kept r.settle.repair r.settle.stats
        (frame.kept_closeLine r.repair r.stats)
      rcases step_etx_of_reading hphase with ⟨hevent, hnext⟩
      rcases step_etx_of_reading hheld with ⟨hevent', hnext'⟩
      rw [hevent, hnext, hevent', hnext', hclosed, settle_of_reading hphase,
        frame.start_closeLine]
      exact ⟨rfl, rfl⟩
    · rcases step_isDelimiter hdelimiter hopen with ⟨hnext, hevent⟩
      rcases step_isDelimiter hdelimiter (r.isSome_openStart?_settle.2 hopen) with
        ⟨hnext', hevent'⟩
      rw [hnext, hevent, hnext', hevent', r.isSettled_settle.settle_eq]
      exact ⟨rfl, rfl⟩
  | _ => simp [settle, hphase]

/-- Behind a byte that opens a line, none is held. -/
theorem isSettled_step {b : UInt8} (hb : Wire.opensLine b) (h : r.phase ≠ .faulted) :
    (r.step b).next.IsSettled := by
  have hsteps := r.steps_step b
  generalize (r.step b).next = next, (r.step b).event = event at hsteps
  intro held hheld
  cases hsteps with
  | faulted hfaulted => exact absurd hfaulted h
  | opens _ _ =>
    cases hheld
    rfl
  | cutsIn _ _ _ =>
    cases hheld
    rfl
  | endsLine frame held' stats notices _ _ hline =>
    cases hheld
    have hkept := frame.kept_closeLine r.repair r.counted.stats
    rwa [hline] at hkept
  | growsLine _ _ hboundary hdelimiter =>
    -- the byte is neither `stx` nor a delimiter
    have hplain := (Wire.ne_boundary hboundary).1
    simp [Wire.opensLine, hplain, hdelimiter] at hb
  | noise _ _ => cases hheld
  | givesUp _ _ _ => cases hheld
  | closes _ _ _ _ _ _ _ => cases hheld

/-! ## Two receivers side by side -/

/-- The receiver `r` of a recording and the receiver `r'` of one with other delimiters match as soon
as both have closed their line. They match as they are unless the next byte that both take closes it
(`closing`), and hold no line after a byte that opens one (`opened`). -/
structure Together (move : Nat → Nat) (opened closing : Bool) (r r' : Receiver) : Prop where
  settle : r.settle.Matches move r'.settle
  matches_of_closing : closing = false → r.Matches move r'
  isSettled_of_opened : opened → r.IsSettled ∧ r'.IsSettled

namespace Together

variable {opened closing : Bool} {b : UInt8}

theorem fresh (repair : AdpsRepair) (move : Nat → Nat) (closing : Bool) :
    (fresh repair).Together move false closing (Receiver.fresh repair) := by
  have hsame : (Receiver.fresh repair).Matches move (Receiver.fresh repair) :=
    ⟨rfl, rfl, ⟨_, rfl⟩, .seeking⟩
  exact ⟨hsame.settle, fun _ => hsame, nofun⟩

theorem isSome_openStart?_iff (h : r.Together move opened closing r') :
    r'.openStart?.isSome ↔ r.openStart?.isSome := by
  have hsettle := h.settle.isSome_openStart?_iff
  rwa [isSome_openStart?_settle, isSome_openStart?_settle] at hsettle

/-- Without a line that is held, and without a byte to come that closes it, closing it early makes
no difference. -/
theorem matches_settle (h : r.Together move opened closing r') (hnear : opened || closing)
    (hclosing : closing = false) : r.settle.Matches move r' ∧ r.Matches move r'.settle := by
  have hopened : opened := by simpa [hclosing] using hnear
  rcases h.isSettled_of_opened hopened with ⟨hr, hr'⟩
  have hsettle := h.settle
  rw [hr.settle_eq, hr'.settle_eq] at hsettle ⊢
  exact ⟨hsettle, hsettle⟩

section Delimiter

variable (hb : Wire.isDelimiter b) (hinside : r.openStart?.isSome) (hnear : opened || closing)

include hb hinside hnear

/-- Only the one receiver takes in a delimiter. -/
theorem added (h : r.Together move opened closing r') :
    r.Together move opened closing (r'.step b).next ∧ (r'.step b).event = none := by
  rcases step_isDelimiter hb (h.isSome_openStart?_iff.2 hinside) with ⟨hnext, hevent⟩
  rw [hnext]
  refine ⟨⟨?_, ?_, ?_⟩, hevent⟩
  · rw [r'.isSettled_settle.counted.settle_eq]
    exact h.settle.counted_right
  · intro hclosing
    exact (h.matches_settle hnear hclosing).2.counted_right
  · intro hopened
    exact ⟨(h.isSettled_of_opened hopened).1, r'.isSettled_settle⟩

theorem removed (h : r.Together move opened closing r') :
    (r.step b).next.Together move opened closing r' ∧ (r.step b).event = none := by
  rcases step_isDelimiter hb hinside with ⟨hnext, hevent⟩
  rw [hnext]
  refine ⟨⟨?_, ?_, ?_⟩, hevent⟩
  · rw [r.isSettled_settle.counted.settle_eq]
    exact h.settle.counted_left
  · intro hclosing
    exact (h.matches_settle hnear hclosing).1.counted_left
  · intro hopened
    exact ⟨r.isSettled_settle, (h.isSettled_of_opened hopened).2⟩

end Delimiter

/-- Both receivers take in a byte. If it closes the line, it does not matter that one of them may
have closed the line before. -/
theorem kept (h : r.Together move opened (Wire.closesLine b) r') (closing : Bool)
    (hphase : r.phase ≠ .faulted) (hphase' : r'.phase ≠ .faulted)
    (hplace : move r.position = r'.position)
    (hstop : b = Wire.etx ∨ b = Wire.eot → move (r.position + 1) = r'.position + 1) :
    (r.step b).next.Together move (Wire.opensLine b) closing (r'.step b).next ∧
      (r'.step b).event = (r.step b).event.map (Event.relocate move) := by
  have hstep : (r.step b).next.Matches move (r'.step b).next ∧
      (r'.step b).event = (r.step b).event.map (Event.relocate move) := by
    cases hb : Wire.closesLine b with
    | false => exact (h.matches_of_closing hb).step hplace hstop
    | true =>
      rw [← r.position_settle, ← r'.position_settle] at hplace hstop
      have hsettled := h.settle.step hplace hstop
      rcases step_settle hb r with ⟨hnext, hevent⟩
      rcases step_settle hb r' with ⟨hnext', hevent'⟩
      rwa [hnext, hevent, hnext', hevent'] at hsettled
  rcases hstep with ⟨hnext, hevent⟩
  refine ⟨⟨hnext.settle, fun _ => hnext, ?_⟩, hevent⟩
  intro hopened
  exact ⟨isSettled_step hopened hphase, isSettled_step hopened hphase'⟩

end Together

/-- Both bytes that end a frame lead out of it, or come where none is open. -/
theorem openStart?_step {b : UInt8} (hb : b = Wire.etx ∨ b = Wire.eot) (h : r.phase ≠ .faulted) :
    (r.step b).next.openStart? = none := by
  have hsteps := r.steps_step b
  have hplain : b ≠ Wire.stx ∧ Wire.isBoundary b ∧ Wire.isDelimiter b = false := by
    rcases hb with rfl | rfl <;> decide
  generalize (r.step b).next = next, (r.step b).event = event at hsteps
  cases hsteps with
  | faulted hfaulted => exact absurd hfaulted h
  | opens _ hstx => exact absurd hstx hplain.1
  | cutsIn _ _ hstx => exact absurd hstx hplain.1
  | endsLine _ _ _ _ _ hdelimiter _ => simp [hplain.2.2] at hdelimiter
  | growsLine _ _ hboundary _ => simp [hplain.2.1] at hboundary
  | noise _ _ => rfl
  | givesUp _ _ _ => rfl
  | closes _ _ _ _ _ _ _ => rfl

end Receiver

namespace Edit

section Kept

variable (b : UInt8) (front back : List Edit)

theorem opened_kept : opened (front ++ [.kept b]) = Wire.opensLine b := by
  simp [opened, kept?]

theorem opened_added : opened (front ++ [.added b]) = opened front := by
  simp [opened, kept?]

theorem opened_removed : opened (front ++ [.removed b]) = opened front := by
  simp [opened, kept?]

theorem closing_kept : closing (.kept b :: back) = Wire.closesLine b := by
  simp [closing, kept?]

end Kept

/-- Behind the end of a frame nothing is added. -/
theorem IsRespacing.upTo_eq_nil {front back : List Edit} {b : UInt8}
    (h : IsRespacing (front ++ .kept b :: back)) (hb : b = Wire.etx ∨ b = Wire.eot) :
    upTo 0 back = [] := by
  cases back with
  | nil => rfl
  | cons edit rest =>
    cases edit with
    | kept c => rfl
    | removed c => rfl
    | added c =>
      -- a byte may be added inside of frames only
      have hfits : (Edit.added c).fits (front ++ [.kept b]) rest :=
        IsRespacing.fits (by simpa using h)
      have hinside : (Transmission.openStart? (old front ++ [b])).isSome := by
        simp only [Edit.fits, old_append, Bool.and_eq_true] at hfits
        exact hfits.1.2
      have hphase := Receiver.phase_after_fresh_ne_faulted .disabled (old front)
      rw [← Receiver.openStart?_after .disabled, Receiver.after_concat,
        Receiver.openStart?_step hb hphase] at hinside
      cases hinside

/-- Run side by side, the receivers of the old bytes and of the new bytes stay together and give the
same events. -/
theorem IsRespacing.run (repair : AdpsRepair) {edits : List Edit} (h : IsRespacing edits)
    {front back : List Edit} (hsplit : front ++ back = edits) :
    ((Receiver.fresh repair).after (old front)).Together (moved edits) (opened front)
        (closing back) ((Receiver.fresh repair).after (new front)) ∧
      (Receiver.fresh repair).emits (new front) =
        ((Receiver.fresh repair).emits (old front)).map (Event.relocate (moved edits)) := by
  -- one edit after the other, from the front
  induction front using List.reverseRecOn generalizing back with
  | nil => exact ⟨.fresh repair _ _, rfl⟩
  | append_singleton front edit ih =>
    have hedits : front ++ edit :: back = edits := by simpa using hsplit
    have hfits : edit.fits front back := IsRespacing.fits (by rwa [hedits])
    have hphase := Receiver.phase_after_fresh_ne_faulted repair (old front)
    have hphase' := Receiver.phase_after_fresh_ne_faulted repair (new front)
    have hposition := Receiver.position_after_fresh repair (old front)
    have hposition' := Receiver.position_after_fresh repair (new front)
    rcases ih hedits with ⟨htogether, hevents⟩
    have delimiter {b : UInt8} (hinner : (edit = .added b ∨ edit = .removed b)) :
        Wire.isDelimiter b ∧ ((Receiver.fresh repair).after (old front)).openStart?.isSome ∧
          (opened front || closing back) := by
      rw [Receiver.openStart?_after]
      rcases hinner with rfl | rfl <;> simpa [Edit.fits, and_assoc] using hfits
    cases edit with
    | kept b =>
      have hplace : moved edits ((Receiver.fresh repair).after (old front)).position =
          ((Receiver.fresh repair).after (new front)).position := by
        rw [hposition, hposition', ← hedits]
        exact moved_append front rfl
      -- spans end behind such a byte, so the offset there must have moved along
      have hstop : b = Wire.etx ∨ b = Wire.eot →
          moved edits (((Receiver.fresh repair).after (old front)).position + 1) =
            ((Receiver.fresh repair).after (new front)).position + 1 := by
        intro hb
        have hnil : upTo 0 back = [] := IsRespacing.upTo_eq_nil (by rwa [hedits]) hb
        have hbehind := moved_append (front ++ [.kept b]) hnil
        rw [hsplit] at hbehind
        simpa [hposition, hposition'] using hbehind
      rw [closing_kept] at htogether
      rcases htogether.kept (closing back) hphase hphase' hplace hstop with ⟨hnext, hevent⟩
      simp only [opened_kept, old_append, new_append, old_kept, new_kept, old_nil, new_nil,
        Receiver.after_concat, Receiver.emits_concat]
      refine ⟨hnext, ?_⟩
      rw [hevents, hevent, List.map_append, Option.toList_map]
    | added b =>
      rcases delimiter (.inl rfl) with ⟨hb, hinside, hnear⟩
      rcases htogether.added hb hinside hnear with ⟨hnext, hevent⟩
      simp only [opened_added, old_append, new_append, old_added, new_added, old_nil, new_nil,
        List.append_nil, Receiver.after_concat, Receiver.emits_concat, hevent]
      exact ⟨hnext, by simpa using hevents⟩
    | removed b =>
      rcases delimiter (.inr rfl) with ⟨hb, hinside, hnear⟩
      rcases htogether.removed hb hinside hnear with ⟨hnext, hevent⟩
      simp only [opened_removed, old_append, new_append, old_removed, new_removed, old_nil,
        new_nil, List.append_nil, Receiver.after_concat, Receiver.emits_concat, hevent]
      exact ⟨hnext, by simpa using hevents⟩

end Edit

namespace Session

/-- How lines are delimited does not matter. Which delimiter stands at a place makes no difference
at all, and delimiters that are added or removed next to others, behind an `stx` or before an `etx`,
move the frames and change nothing else but the number of bytes. -/
theorem drain_respaced (repair : AdpsRepair) :
    (∀ (chosen : Nat → Bool) (bytes : List UInt8),
      let drained := (onBytes repair bytes).drain
      let exchanged := (onBytes repair (Wire.exchange chosen bytes)).drain
      exchanged.events.map Prod.fst = drained.events.map Prod.fst ∧
        exchanged.ending = drained.ending ∧
        exchanged.session.receiver = drained.session.receiver) ∧
    ∀ edits : List Edit, Edit.IsRespacing edits →
      let drained := (onBytes repair (Edit.old edits)).drain
      let respaced := (onBytes repair (Edit.new edits)).drain
      respaced.events.map Prod.fst =
          (drained.events.map Prod.fst).map (Event.relocate (Edit.moved edits)) ∧
        respaced.ending = drained.ending ∧
        respaced.session.receiver.stats =
          drained.session.receiver.stats.withRead (Edit.new edits).length := by
  constructor
  · intro chosen bytes drained exchanged
    rcases drain_onBytes repair bytes with ⟨hevents, hending, hreceiver⟩
    rcases drain_onBytes repair (Wire.exchange chosen bytes) with ⟨hevents', hending', hreceiver'⟩
    rcases (Receiver.fresh repair).run_exchange chosen bytes with ⟨hafter, hemits⟩
    exact ⟨by rw [hevents', hevents, hemits], by rw [hending', hending],
      by rw [hreceiver', hreceiver, hafter]⟩
  · intro edits hrespacing drained respaced
    rcases drain_onBytes repair (Edit.old edits) with ⟨hevents, hending, hreceiver⟩
    rcases drain_onBytes repair (Edit.new edits) with ⟨hevents', hending', hreceiver'⟩
    rcases hrespacing.run repair (List.append_nil edits) with ⟨htogether, hemits⟩
    -- at the end no line is waiting to be closed, so the receivers match as they are
    have hmatches := (htogether.matches_of_closing rfl).sourceEnded
    rw [← hreceiver, ← hreceiver'] at hmatches
    rcases hmatches.stats with ⟨read, hstats⟩
    have hread := Receiver.bytesRead_sourceEnded_after_fresh repair (Edit.new edits)
    rw [← hreceiver'] at hread
    rw [hstats] at hread
    refine ⟨by rw [hevents', hevents, hemits], by rw [hending', hending], ?_⟩
    rw [hstats, ← hread]
    rfl

/-- A delimiter is added behind the `stx`, and one is removed before the `etx`. -/
theorem drain_respaced_one_line :
    let edits : List Edit :=
      [.kept Wire.stx, .added Wire.cr, .kept Wire.lf, .kept 0x50, .kept Wire.sp, .kept 0x30,
        .kept Wire.cr, .added Wire.lf, .removed Wire.lf, .kept Wire.etx, .kept Wire.lf]
    Edit.IsRespacing edits ∧
      (onBytes .disabled (Edit.new edits)).drain.events.map Prod.fst =
        ((onBytes .disabled (Edit.old edits)).drain.events.map Prod.fst).map
          (Event.relocate (Edit.moved edits)) := by
  intro edits
  have hrespacing : Edit.IsRespacing edits := by decide +kernel
  exact ⟨hrespacing, ((drain_respaced .disabled).2 edits hrespacing).1⟩

end Session
end TicMeter
