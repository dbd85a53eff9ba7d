import TicMeter.Proofs.Run

/-!
# Interior — the state of a receiver inside a frame, read off the bytes of the frame

`Receiver.inFrame r start p` is the receiver that opened a frame at `start` and has since taken in
the bytes `p`. It is computed from `p` itself, by splitting and gathering, and not by running the
receiver; the step lemmas show that running comes to the same, one byte at a time
(`Receiver.step_inFrame`), and what each byte that ends a frame makes of that state.
-/

namespace TicMeter

/-- A line that is cut off past the limit is cut off in the same way when it grows. -/
theorem PendingLine.push_cut (start offset : Nat) (line : List UInt8) (b : UInt8) :
    PendingLine.push ⟨start, line.take (Wire.maxLineLength + 1)⟩ offset b =
      ⟨if line.isEmpty then offset else start, (line ++ [b]).take (Wire.maxLineLength + 1)⟩ := by
  unfold push
  congr 1
  · simp [List.take_eq_nil_iff]
  · by_cases hfull : line.length ≤ Wire.maxLineLength
    · have hkept : line.take (Wire.maxLineLength + 1) = line := List.take_of_length_le (by omega)
      simp only [hkept, hfull, if_true]
      rw [List.take_of_length_le (by simp; omega)]
    · -- past the limit the byte is dropped here, and cut off there
      have hcut : ¬ (line.take (Wire.maxLineLength + 1)).length ≤ Wire.maxLineLength := by
        rw [List.length_take]
        omega
      rw [if_neg hcut, List.take_append_of_le_length (by omega)]

namespace OpenFrame

/-- The frame opened at `start` that has taken in the bytes `interior`. -/
def ofInterior (repair : AdpsRepair) (start : Nat) (interior : List UInt8) : OpenFrame where
  start := start
  line :=
    { start :=
        if (Wire.openLine interior).isEmpty then 0
        else start + 1 + (interior.length - (Wire.openLine interior).length)
      kept := (Wire.openLine interior).take (Wire.maxLineLength + 1) }
  fields := (Gathered.ofLines repair (Wire.closedLines interior)).fields

variable (repair : AdpsRepair) (start : Nat) (interior : List UInt8)

/-- Closing the line that is held gathers all lines of the interior. -/
theorem closeLine_ofInterior (base : Stats) :
    ((ofInterior repair start interior).closeLine repair
        (base + (Gathered.ofLines repair (Wire.closedLines interior)).stats)).1 =
        ⟨start, .empty, (Gathered.ofLines repair (Wire.lines interior)).fields⟩ ∧
      ((ofInterior repair start interior).closeLine repair
        (base + (Gathered.ofLines repair (Wire.closedLines interior)).stats)).2.1 =
        base + (Gathered.ofLines repair (Wire.lines interior)).stats := by
  rw [Wire.lines_eq_closedLines_append interior]
  by_cases hopen : Wire.openLine interior = []
  · -- no line is held, and those before the last delimiter are all there are
    simp [closeLine, ofInterior, hopen, PendingLine.empty]
  · have hkept : (Wire.openLine interior).take (Wire.maxLineLength + 1) ≠ [] := by
      simpa [List.take_eq_nil_iff] using hopen
    have hcut := Gathered.take_cut repair
      (Gathered.ofLines repair (Wire.closedLines interior)) (Wire.openLine interior)
    simp only [List.isEmpty_iff, hopen, if_false, Gathered.ofLines_concat]
    rw [← hcut]
    constructor
    · simp [closeLine, ofInterior, hkept, hopen, Gathered.take]
    · simp [closeLine, ofInterior, hkept, Gathered.take, LineReading.count_add]

theorem ofInterior_concat_delimiter {d : UInt8} (hd : Wire.isDelimiter d) :
    ofInterior repair start (interior ++ [d]) =
      ⟨start, .empty, (Gathered.ofLines repair (Wire.lines interior)).fields⟩ := by
  simp [ofInterior, Wire.openLine_concat_delimiter hd, Wire.closedLines_concat_delimiter hd,
    PendingLine.empty]

/-- A byte that ends no line joins the line that is held. -/
theorem push_ofInterior {b : UInt8} (hb : Wire.isDelimiter b = false) :
    { ofInterior repair start interior with
        line := (ofInterior repair start interior).line.push (start + 1 + interior.length) b } =
      ofInterior repair start (interior ++ [b]) := by
  have hline : (Wire.openLine interior).length ≤ interior.length :=
    (List.rtakeWhile_suffix _ _).length_le
  simp only [ofInterior, PendingLine.push_cut, Wire.openLine_concat hb, Wire.closedLines_concat hb]
  congr 2
  by_cases hopen : Wire.openLine interior = []
  · simp [hopen]
  · simp [hopen]

end OpenFrame

namespace Receiver

/-- The receiver `r` after it opened a frame at `start` and took in the bytes `interior`. -/
def inFrame (r : Receiver) (start : Nat) (interior : List UInt8) : Receiver :=
  { r with
    phase := .reading (.ofInterior r.repair start interior)
    position := r.position + interior.length
    stats :=
      r.stats + { bytesRead := interior.length } +
        (Gathered.ofLines r.repair (Wire.closedLines interior)).stats }

/-! ## Bytes inside a frame -/

variable (r : Receiver) (start : Nat) (interior : List UInt8)

/-- The statistics after one more byte of the frame, before that byte has any effect. -/
theorem counted_inFrame :
    { (r.inFrame start interior).stats with
        bytesRead := (r.inFrame start interior).stats.bytesRead + 1 } =
      r.stats + { bytesRead := interior.length + 1 } +
        (Gathered.ofLines r.repair (Wire.closedLines interior)).stats := by
  simp only [inFrame, Stats.add_def, Stats.add, Stats.mk.injEq, and_true]
  omega

/-- A byte that ends no frame joins the interior. -/
theorem step_inFrame (hpos : r.position = start + 1) {b : UInt8}
    (hb : Wire.isBoundary b = false) :
    ((r.inFrame start interior).step b).next = r.inFrame start (interior ++ [b]) ∧
      ((r.inFrame start interior).step b).event = none := by
  rcases Wire.ne_boundary hb with ⟨hstx, hetx, heot⟩
  have hoffset : (r.inFrame start interior).position = start + 1 + interior.length := by
    simp [inFrame, hpos]
  have hphase : (r.inFrame start interior).phase =
      .reading (.ofInterior r.repair start interior) := rfl
  simp only [step, hphase, stepInFrame, hstx, heot, hetx, if_false, counted_inFrame, hoffset]
  cases hdelim : Wire.isDelimiter b with
  | false =>
    -- the byte joins the line that is held
    have hplain : ¬ (b = Wire.lf ∨ b = Wire.cr) := by
      simpa [Wire.isDelimiter] using hdelim
    rw [if_neg hplain]
    refine ⟨?_, rfl⟩
    rw [OpenFrame.push_ofInterior r.repair start interior hdelim]
    simp [inFrame, hpos, Wire.closedLines_concat hdelim, Nat.add_assoc]
  | true =>
    -- the byte closes the line that is held
    have hdelimiter : b = Wire.lf ∨ b = Wire.cr := by
      simpa [Wire.isDelimiter] using hdelim
    rw [if_pos hdelimiter]
    refine ⟨?_, rfl⟩
    rcases OpenFrame.closeLine_ofInterior r.repair start interior
      (r.stats + { bytesRead := interior.length + 1 }) with ⟨hframe, hstats⟩
    have hrepair : (r.inFrame start interior).repair = r.repair := rfl
    rw [hrepair, hframe, hstats, ← OpenFrame.ofInterior_concat_delimiter _ _ _ hdelim]
    simp [inFrame, hpos, Wire.closedLines_concat_delimiter hdelim, Nat.add_assoc]

/-- Bytes that end no frame join the interior and give no event. -/
theorem after_openFrame (hpos : r.position = start + 1)
    (h : ∀ b ∈ interior, Wire.isBoundary b = false) :
    (r.openFrame start).after interior = r.inFrame start interior ∧
      (r.openFrame start).emits interior = [] := by
  induction interior using List.reverseRecOn with
  | nil => exact ⟨rfl, rfl⟩
  | append_singleton front b ih =>
    rcases ih fun c hc => h c (by simp [hc]) with ⟨hafter, hemits⟩
    rcases step_inFrame r start front hpos (h b (by simp)) with ⟨hnext, hevent⟩
    rw [after_concat, emits_concat, hafter, hemits, hnext, hevent]
    exact ⟨rfl, rfl⟩

/-! ## Bytes that end a frame -/

/-- A byte that opens a frame breaks off the frame before it. -/
theorem step_inFrame_stx (hpos : r.position = start + 1) :
    ((r.inFrame start interior).step Wire.stx).event =
        some (.rejected (.interrupted r.sequence ⟨start, start + 1 + interior.length⟩)) ∧
      ((r.inFrame start interior).step Wire.stx).next =
        Receiver.openFrame
          { r.inFrame start interior with
            position := start + 1 + interior.length + 1
            sequence := r.sequence + 1
            stats :=
              (r.inFrame start interior).stats + { bytesRead := 1, framesInterrupted := 1 } }
          (start + 1 + interior.length) := by
  constructor
  · simp [step, inFrame, stepInFrame, interrupt, hpos, OpenFrame.ofInterior]
  · simp [step, inFrame, stepInFrame, interrupt, hpos, openFrame, Stats.add_def, Stats.add]

/-- A transmission that is given up breaks off its frame. -/
theorem step_inFrame_eot (hpos : r.position = start + 1) :
    ((r.inFrame start interior).step Wire.eot).event =
        some (.rejected (.interrupted r.sequence ⟨start, start + 1 + interior.length + 1⟩)) ∧
      ((r.inFrame start interior).step Wire.eot).next =
        { r.inFrame start interior with
          phase := .seeking
          position := start + 1 + interior.length + 1
          sequence := r.sequence + 1
          stats :=
            (r.inFrame start interior).stats + { bytesRead := 1, framesInterrupted := 1 } } := by
  have hne : Wire.eot ≠ Wire.stx := by decide
  constructor
  · simp [step, inFrame, stepInFrame, interrupt, hpos, hne, OpenFrame.ofInterior]
  · simp [step, inFrame, stepInFrame, interrupt, hpos, hne, Stats.add_def, Stats.add]

/-- The byte that closes a frame in order also closes its last line. -/
theorem step_inFrame_etx (r : Receiver) (start : Nat) (interior : List UInt8)
    (hpos : r.position = start + 1) :
    ((r.inFrame start interior).step Wire.etx).event =
        some (.ofFields (Gathered.ofLines r.repair (Wire.lines interior)).fields
          ⟨start, start + 1 + interior.length + 1⟩ r.sequence) ∧
      ((r.inFrame start interior).step Wire.etx).next =
        { r with
          phase := .complete
          position := start + 1 + interior.length + 1
          sequence := r.sequence + 1
          stats :=
            r.stats + { bytesRead := interior.length + 1 } +
              (Gathered.ofLines r.repair (Wire.lines interior)).stats +
              .ofFields (Gathered.ofLines r.repair (Wire.lines interior)).fields } := by
  have hoffset : (r.inFrame start interior).position = start + 1 + interior.length := by
    simp [inFrame, hpos]
  have hphase : (r.inFrame start interior).phase =
      .reading (.ofInterior r.repair start interior) := rfl
  have hrepair : (r.inFrame start interior).repair = r.repair := rfl
  have hstx : Wire.etx ≠ Wire.stx := by decide
  have heot : Wire.etx ≠ Wire.eot := by decide
  -- the line that is still open is the last one of the interior
  rcases OpenFrame.closeLine_ofInterior r.repair start interior
    (r.stats + { bytesRead := interior.length + 1 }) with ⟨hframe, hstats⟩
  simp only [step, hphase, stepInFrame, hstx, heot, if_false, if_true, counted_inFrame, hoffset,
    hrepair, hframe, hstats]
  rcases complete_eq
    { r.inFrame start interior with
      position := start + 1 + interior.length + 1
      stats := r.stats + { bytesRead := interior.length + 1 } +
        (Gathered.ofLines r.repair (Wire.lines interior)).stats }
    ⟨start, .empty, (Gathered.ofLines r.repair (Wire.lines interior)).fields⟩
    (start + 1 + interior.length + 1) with ⟨hevent, hnext⟩
  exact ⟨hevent, hnext⟩

/-! ## Whole frames -/

def freshOpened (repair : AdpsRepair) : Receiver :=
  { fresh repair with position := 1, stats := { bytesRead := 1 } }

/-- A frame that is not closed yet. -/
theorem run_freshOpened (repair : AdpsRepair) {interior : List UInt8}
    (h : ∀ b ∈ interior, Wire.isBoundary b = false) :
    (fresh repair).after (Wire.stx :: interior) = (freshOpened repair).inFrame 0 interior ∧
      (fresh repair).emits (Wire.stx :: interior) = [] := by
  rcases step_between_stx (r := fresh repair) (.inl rfl) with ⟨hopenEvent, hopenNext⟩
  rcases after_openFrame (freshOpened repair) 0 interior rfl h with ⟨hafter, hemits⟩
  have hopen : ((fresh repair).step Wire.stx).next = (freshOpened repair).openFrame 0 := hopenNext
  rw [after_cons, emits_cons, hopenEvent, hopen, hafter, hemits]
  exact ⟨rfl, rfl⟩

/-- A frame that is all there is gives one event, made of what its lines come to. -/
theorem run_frame (repair : AdpsRepair) {interior : List UInt8}
    (h : ∀ b ∈ interior, Wire.isBoundary b = false) :
    let bytes := Wire.stx :: interior ++ [Wire.etx]
    let sum := Gathered.ofLines repair (Wire.lines interior)
    (fresh repair).emits bytes = [.ofFields sum.fields ⟨0, bytes.length⟩ 0] ∧
      ((fresh repair).after bytes).sourceEnded.1.stats =
        { bytesRead := bytes.length } + sum.stats + .ofFields sum.fields := by
  intro bytes sum
  have hlength : bytes.length = 0 + 1 + interior.length + 1 := by
    simp [bytes]
    omega
  -- all but the last byte are taken in without an event, and the `etx` gives the only one
  rcases run_freshOpened repair h with ⟨hinside, hsilent⟩
  rcases step_inFrame_etx (freshOpened repair) 0 interior rfl with ⟨hevent, hnext⟩
  constructor
  · rw [emits_concat, hinside, hsilent, hevent, hlength]
    rfl
  · rw [after_concat, hinside, hnext, hlength]
    have hread : (freshOpened repair).stats + { bytesRead := interior.length + 1 } =
        { bytesRead := 0 + 1 + interior.length + 1 } := by
      simp [freshOpened, Stats.add_def, Stats.add]
      omega
    simp only [sourceEnded, hread]
    rfl

end Receiver

/-- What is drained from a frame that is all there is. -/
theorem Session.drain_frame (repair : AdpsRepair) {interior : List UInt8}
    (h : ∀ b ∈ interior, Wire.isBoundary b = false) :
    let bytes := Wire.stx :: interior ++ [Wire.etx]
    let sum := Gathered.ofLines repair (Wire.lines interior)
    let drained := (onBytes repair bytes).drain
    drained.events.map Prod.fst = [.ofFields sum.fields ⟨0, bytes.length⟩ 0] ∧
      drained.ending = .ended ∧
      drained.session.receiver.stats =
        { bytesRead := bytes.length } + sum.stats + .ofFields sum.fields := by
  intro bytes sum drained
  rcases drain_onBytes repair bytes with ⟨hevents, hending, hreceiver⟩
  rcases Receiver.run_frame repair h with ⟨hemits, hstats⟩
  refine ⟨hevents.trans hemits, hending, ?_⟩
  rw [hreceiver]
  exact hstats

end TicMeter
