import Mathlib.Tactic.Abel
import TicMeter.Proofs.Encoding
import TicMeter.Proofs.Interior

/-!
# Corruption — one wrong byte costs one line

A byte inside the label or the value of a line arrives changed. It may become a separator and move
the border between label and value, empty the label, or be no ASCII at all; however the line is
taken apart, the bytes that its checksum is compared with are those that arrived.

* `GroupLine.text_of_parse`: what a line is taken apart into, put together again, is what arrived.
* `LineReading.lost_of_ne`: a line with a wrong checksum is lost, and gives no field.
* `Gathered.ofLines_lost`: a lost line among others leaves what the others come to.
* `Session.drain_set_byte`: the frame is decoded as if the line had not been sent.
-/

namespace TicMeter

/-! ## Taking a line apart -/

namespace GroupLine

/-- A line is taken apart without loss: label and value with the separator between them are the
bytes before the checksum and its separator. -/
theorem text_of_parse {body : List UInt8} (hsp : Wire.sp ∈ body) {checksum : UInt8}
    {line : GroupLine} (h : parse (body ++ [Wire.sp, checksum]) = .ok line) :
    text line.label line.value = body ∧ line.checksum = checksum := by
  rcases (parses_iff.2 h).spells with ⟨rest, hline, -, hlabel, hvalue⟩
  have hsplit : body ++ [Wire.sp] = Text.bytes line.label ++ Wire.sp :: rest ∧
      checksum = line.checksum := by
    rw [← List.append_singleton_inj]
    simpa using hline
  rcases hsplit with ⟨hbody, hchecksum⟩
  refine ⟨?_, hchecksum.symm⟩
  -- the separator at the end is not the first one, so that the value goes up to it
  rcases List.eq_nil_or_concat' rest with rfl | ⟨front, b, rfl⟩
  · rcases List.append_singleton_inj.1 hbody with ⟨rfl, -⟩
    exact absurd hsp hlabel
  · have hlast : body ++ [Wire.sp] = (Text.bytes line.label ++ Wire.sp :: front) ++ [b] := by
      simpa using hbody
    rcases List.append_singleton_inj.1 hlast with ⟨hfront, rfl⟩
    rw [text, hvalue, trimmed_concat_sp, hfront]

end GroupLine

/-! ## Lost lines -/

/-- The statistics of one line that is lost: it cannot be taken apart, or its checksum is wrong. -/
inductive Stats.IsLoss : Stats → Prop
  | unreadable : IsLoss { linesTotal := 1, linesUnreadable := 1 }
  | mismatch : IsLoss { linesTotal := 1, checksumMismatches := 1 }

namespace LineReading

/-- A line that gives no field and is counted as lost. -/
structure Lost (reading : LineReading) (loss : Stats) : Prop where
  isLoss : loss.IsLoss
  update : ∀ fields, reading.update fields = fields
  count : ∀ fields stats, reading.count fields stats = loss + stats

theorem lost_unreadable (why : LineError) :
    Lost ⟨.unreadable why, false⟩ { linesTotal := 1, linesUnreadable := 1 } where
  isLoss := .unreadable
  update := fun _ => rfl
  count := fun _ stats => by simp [count, Stats.add_def, Stats.add, Nat.add_comm]

theorem lost_mismatch (label : String) (expected actual : UInt8) :
    Lost ⟨.mismatch label expected actual, false⟩ { linesTotal := 1, checksumMismatches := 1 } where
  isLoss := .mismatch
  update := fun _ => rfl
  count := fun _ stats => by simp [count, Stats.add_def, Stats.add, Nat.add_comm]

/-- A line whose checksum is not that of its bytes is lost: it cannot be taken apart, or the
checksum does not match. -/
theorem lost_of_ne {body : List UInt8} (hsp : Wire.sp ∈ body) {checksum : UInt8}
    (hne : Checksum.ofSum (body.foldl (fun sum b => sum + b.toUInt32) 0) ≠ checksum) :
    ∃ loss, Lost (ofBytes .disabled (body ++ [Wire.sp, checksum])) loss := by
  unfold ofBytes
  cases hparse : GroupLine.parse (body ++ [Wire.sp, checksum]) with
  | error why => exact ⟨_, lost_unreadable why⟩
  | ok line =>
    -- wherever label and value were parted, their sum is that of the bytes that arrived
    rcases GroupLine.text_of_parse hsp hparse with ⟨htext, hchecksum⟩
    have hsum : Checksum.byteSum line.label line.value =
        body.foldl (fun sum b => sum + b.toUInt32) 0 := by
      rw [← htext]
      rfl
    have hverify : Checksum.verify line.label line.value line.checksum .disabled =
        .mismatch (Checksum.ofSum (Checksum.byteSum line.label line.value)) := by
      rw [hsum]
      simp [Checksum.verify, hsum, hchecksum, Ne.symm hne]
    simp only [hverify]
    exact ⟨_, lost_mismatch _ _ _⟩

end LineReading

namespace Gathered

/-- What has been counted before is added to what lines come to. -/
theorem foldl_take_add (repair : AdpsRepair) (lines : List (List UInt8)) (fields : FieldMap)
    (base stats : Stats) :
    lines.foldl (take repair) ⟨fields, base + stats⟩ =
      ⟨(lines.foldl (take repair) ⟨fields, stats⟩).fields,
        base + (lines.foldl (take repair) ⟨fields, stats⟩).stats⟩ := by
  induction lines generalizing fields stats with
  | nil => rfl
  | cons line rest ih =>
    rw [List.foldl_cons, List.foldl_cons]
    simp only [take, LineReading.count_add]
    exact ih _ _

/-- A lost line is counted, and the lines around it come to what they come to without it. -/
theorem ofLines_lost {repair : AdpsRepair} {line : List UInt8} {loss : Stats}
    (h : (LineReading.ofBytes repair line).Lost loss) (front back : List (List UInt8)) :
    ofLines repair (front ++ line :: back) =
      ⟨(ofLines repair (front ++ back)).fields, loss + (ofLines repair (front ++ back)).stats⟩ := by
  have htake (sum : Gathered) : sum.take repair line = ⟨sum.fields, loss + sum.stats⟩ := by
    rw [take, h.update, h.count]
  rw [ofLines, ofLines, List.foldl_append, List.foldl_append, List.foldl_cons, htake,
    foldl_take_add]

end Gathered

/-! ## Frames with a wrong byte -/

namespace GroupLine

section Set

variable {label value : String} {place : Nat} {b : UInt8}

/-- A line of which one byte changes has no control bytes if the new byte is none. -/
theorem IsPlain.plain_set (h : IsPlain (label, value))
    (hb : Wire.isDelimiter b = false ∧ Wire.isBoundary b = false) :
    ∀ c ∈ (text label value).set place b ++ [Wire.sp, Checksum.compute label value],
      Wire.isDelimiter c = false ∧ Wire.isBoundary c = false := by
  intro c hc
  rcases List.mem_append.1 hc with hc | hc
  · rcases List.mem_or_eq_of_mem_set hc with hc | rfl
    · exact h c hc
    · exact hb
  · exact h.plain_content c (List.mem_append_right (text label value) hc)

/-- The separator between label and value stays if it is not the byte that changes. -/
theorem sp_mem_set (hsp : place ≠ (Text.bytes label).length) :
    Wire.sp ∈ (text label value).set place b := by
  refine List.mem_of_getElem? (i := (Text.bytes label).length) ?_
  rw [List.getElem?_set_ne hsp]
  simp [text]

end Set

/-- Where the label of a line stands in a frame, after the given lines. -/
def textStart (front : List (String × String)) : Nat :=
  (Wire.stx :: interior front ++ [Wire.lf]).length

section Damaged

variable (front back : List (String × String)) (label value : String)

theorem interior_append (lines lines' : List (String × String)) :
    interior (lines ++ lines') = interior lines ++ interior lines' :=
  List.flatMap_append

theorem encodeFrame_split :
    encodeFrame (front ++ (label, value) :: back) =
      (Wire.stx :: interior front ++ [Wire.lf]) ++ (text label value ++
        ([Wire.sp, Checksum.compute label value, Wire.cr] ++ interior back ++ [Wire.etx])) := by
  have hline : interior ((label, value) :: back) = encode label value ++ interior back := rfl
  simp [encodeFrame_eq, interior_append, hline, encode, text]

theorem getElem?_encodeFrame {place : Nat} (hplace : place < (text label value).length) :
    (encodeFrame (front ++ (label, value) :: back))[textStart front + place]? =
      (text label value)[place]? := by
  rw [encodeFrame_split, textStart, List.getElem?_append_right (Nat.le_add_right _ _),
    Nat.add_sub_cancel_left, List.getElem?_append_left hplace]

/-- The bytes of a frame between the first and the last, of which one line has another text. -/
def interiorWith (damaged : List UInt8) : List UInt8 :=
  interior front ++
    Wire.lf :: (damaged ++ [Wire.sp, Checksum.compute label value] ++ Wire.cr :: interior back)

/-- A byte of a label or a value is changed in the frame as in the line. -/
theorem encodeFrame_set {place : Nat} (hplace : place < (text label value).length) (b : UInt8) :
    (encodeFrame (front ++ (label, value) :: back)).set (textStart front + place) b =
      Wire.stx :: interiorWith front back label value ((text label value).set place b) ++
        [Wire.etx] := by
  rw [encodeFrame_split, textStart, List.set_append_right _ _ (Nat.le_add_right _ _),
    Nat.add_sub_cancel_left, List.set_append_left _ _ hplace]
  simp [interiorWith]

variable {front back label value}

/-- The changed line stays one line among the others. -/
theorem lines_interiorWith
    (hfront : ∀ line ∈ front, IsPlain line) (hback : ∀ line ∈ back, IsPlain line)
    {damaged : List UInt8}
    (h : ∀ b ∈ damaged ++ [Wire.sp, Checksum.compute label value], Wire.isDelimiter b = false) :
    Wire.lines (interiorWith front back label value damaged) =
      (front.map fun line => content line.1 line.2) ++
        (damaged ++ [Wire.sp, Checksum.compute label value]) ::
          back.map fun line => content line.1 line.2 := by
  have hlf : Wire.isDelimiter Wire.lf := by decide
  have hcr : Wire.isDelimiter Wire.cr := by decide
  have hline : Wire.lines (damaged ++ [Wire.sp, Checksum.compute label value]) =
      [damaged ++ [Wire.sp, Checksum.compute label value]] := by
    rw [Wire.lines_of_forall h]
    simp
  rw [interiorWith, Wire.lines_append_cons hlf, Wire.lines_append_cons hcr, hline,
    lines_interior fun line hmem => (hfront line hmem).plain_content,
    lines_interior fun line hmem => (hback line hmem).plain_content, List.singleton_append]

theorem isBoundary_of_mem_interiorWith
    (hfront : ∀ line ∈ front, IsPlain line) (hback : ∀ line ∈ back, IsPlain line)
    {damaged : List UInt8}
    (h : ∀ b ∈ damaged ++ [Wire.sp, Checksum.compute label value], Wire.isBoundary b = false) :
    ∀ b ∈ interiorWith front back label value damaged, Wire.isBoundary b = false := by
  intro b hb
  rw [interiorWith, List.mem_append, List.mem_cons, List.mem_append, List.mem_cons] at hb
  rcases hb with hb | rfl | hb | rfl | hb
  · exact isBoundary_of_mem_interior (fun line hmem => (hfront line hmem).plain_content) b hb
  · decide
  · exact h b hb
  · decide
  · exact isBoundary_of_mem_interior (fun line hmem => (hback line hmem).plain_content) b hb

end Damaged

end GroupLine

def Event.withSpan (span : Span) : Event → Event
  | .frame f => .frame { f with span }
  | .rejected (.unclassifiable sequence _ labels) =>
      .rejected (.unclassifiable sequence span labels)
  | .rejected (.interrupted sequence _) => .rejected (.interrupted sequence span)

theorem Event.withSpan_ofFields (fields : FieldMap) (span span' : Span) (sequence : Nat) :
    (Event.ofFields fields span sequence).withSpan span' = .ofFields fields span' sequence := by
  unfold ofFields
  cases FrameKind.classify fields.contains <;> rfl

namespace Session

/-- A frame with one lost line gives the event that it would give without the line, and what is
counted besides is the line, as lost, and its bytes. -/
theorem drain_interiorWith {front back : List (String × String)} {label value : String}
    (hfront : ∀ line ∈ front, GroupLine.IsPlain line)
    (hback : ∀ line ∈ back, GroupLine.IsPlain line) {damaged : List UInt8}
    (hdamaged : ∀ b ∈ damaged ++ [Wire.sp, Checksum.compute label value],
      Wire.isDelimiter b = false ∧ Wire.isBoundary b = false) {loss : Stats}
    (hlost : (LineReading.ofBytes .disabled
      (damaged ++ [Wire.sp, Checksum.compute label value])).Lost loss) :
    let bytes := Wire.stx :: GroupLine.interiorWith front back label value damaged ++ [Wire.etx]
    let drained := (onBytes .disabled bytes).drain
    let spared := (onBytes .disabled (GroupLine.encodeFrame (front ++ back))).drain
    (∃ e, spared.events.map Prod.fst = [e] ∧
        drained.events.map Prod.fst = [e.withSpan ⟨0, bytes.length⟩]) ∧
      drained.ending = .ended ∧ spared.ending = .ended ∧
      drained.session.receiver.stats =
        spared.session.receiver.stats + { bytesRead := damaged.length + 4 } + loss := by
  intro bytes drained spared
  let sum := Gathered.ofLines .disabled (Wire.lines (GroupLine.interior (front ++ back)))
  have hothers : ∀ line ∈ front ++ back, ∀ b ∈ GroupLine.content line.1 line.2,
      Wire.isDelimiter b = false ∧ Wire.isBoundary b = false := by
    intro line hmem
    rcases List.mem_append.1 hmem with hmem | hmem
    · exact (hfront line hmem).plain_content
    · exact (hback line hmem).plain_content
  -- the other lines are the same in both frames, and come to the same
  have hsum : Gathered.ofLines .disabled
      (Wire.lines (GroupLine.interiorWith front back label value damaged)) =
        ⟨sum.fields, loss + sum.stats⟩ := by
    rw [GroupLine.lines_interiorWith hfront hback fun b hb => (hdamaged b hb).1,
      Gathered.ofLines_lost hlost, ← List.map_append, ← GroupLine.lines_interior hothers]
  have hlength : bytes.length =
      (GroupLine.encodeFrame (front ++ back)).length + (damaged.length + 4) := by
    simp [bytes, GroupLine.interiorWith, GroupLine.encodeFrame_eq, GroupLine.interior_append]
    omega
  rcases drain_frame .disabled (GroupLine.isBoundary_of_mem_interiorWith hfront hback
    fun b hb => (hdamaged b hb).2) with ⟨hevents, hending, hstats⟩
  rcases drain_frame .disabled (GroupLine.isBoundary_of_mem_interior hothers) with
    ⟨heventsSpared, hendingSpared, hstatsSpared⟩
  rw [hsum] at hevents hstats
  refine ⟨⟨_, heventsSpared, ?_⟩, hending, hendingSpared, ?_⟩
  · rw [Event.withSpan_ofFields]
    exact hevents
  · have hread : ({ bytesRead := bytes.length } : Stats) =
        { bytesRead := (GroupLine.encodeFrame (front ++ back)).length } +
          { bytesRead := damaged.length + 4 } := by
      simp [hlength, Stats.add_def, Stats.add]
    calc drained.session.receiver.stats
        = { bytesRead := bytes.length } + (loss + sum.stats) + .ofFields sum.fields := hstats
      _ = { bytesRead := (GroupLine.encodeFrame (front ++ back)).length } + sum.stats +
            .ofFields sum.fields + { bytesRead := damaged.length + 4 } + loss := by
          rw [hread]
          abel
      _ = spared.session.receiver.stats + { bytesRead := damaged.length + 4 } + loss := by
          have hspared : spared.session.receiver.stats = _ := hstatsSpared
          rw [hspared]
          rfl

/-- A byte inside a label or a value arrives as another byte, which is no control byte and differs
by no multiple of 64. Then the frame gives the event that it would give without the line, and what
is counted besides is the line, as lost, and its bytes. -/
theorem drain_set_byte {front back : List (String × String)} {label value : String}
    (hplain : ∀ line ∈ front ++ (label, value) :: back, GroupLine.IsPlain line) {place : Nat}
    {old b : UInt8} (hold : (GroupLine.text label value)[place]? = some old)
    (hsp : place ≠ (Text.bytes label).length)
    (hb : Wire.isDelimiter b = false ∧ Wire.isBoundary b = false)
    (hdiffers : b.toNat % 64 ≠ old.toNat % 64) :
    let sent := GroupLine.encodeFrame (front ++ (label, value) :: back)
    let offset := GroupLine.textStart front + place
    let damaged := (onBytes .disabled (sent.set offset b)).drain
    let spared := (onBytes .disabled (GroupLine.encodeFrame (front ++ back))).drain
    sent[offset]? = some old ∧
      (∃ e, spared.events.map Prod.fst = [e] ∧
        damaged.events.map Prod.fst = [e.withSpan ⟨0, sent.length⟩]) ∧
      damaged.ending = .ended ∧ spared.ending = .ended ∧
      ∃ loss : Stats, loss.IsLoss ∧
        damaged.session.receiver.stats =
          spared.session.receiver.stats +
            { bytesRead := (GroupLine.encode label value).length } + loss := by
  intro sent offset damaged spared
  let changed := (GroupLine.text label value).set place b
  have hplace : place < (GroupLine.text label value).length :=
    (List.getElem?_eq_some_iff.1 hold).1
  have hline : GroupLine.IsPlain (label, value) := hplain _ (by simp)
  have hfront : ∀ line ∈ front, GroupLine.IsPlain line := by
    intro line hmem
    exact hplain line (by simp [hmem])
  have hback : ∀ line ∈ back, GroupLine.IsPlain line := by
    intro line hmem
    exact hplain line (by simp [hmem])
  -- the bytes of the line still have a separator, but no longer sum up to its checksum
  have hne : Checksum.ofSum (changed.foldl (fun sum b => sum + b.toUInt32) 0) ≠
      Checksum.compute label value :=
    Checksum.ofSum_bytes_ne hold hdiffers
  rcases LineReading.lost_of_ne (GroupLine.sp_mem_set hsp) hne with ⟨loss, hlost⟩
  rcases drain_interiorWith hfront hback (hline.plain_set hb) hlost with
    ⟨hevent, hending, hspared, hstats⟩
  have hset := GroupLine.encodeFrame_set front back label value hplace b
  have hlength : (sent.set offset b).length = sent.length := List.length_set
  have hencode : (GroupLine.encode label value).length = changed.length + 4 := by
    simp [GroupLine.encode, GroupLine.text, changed]
    omega
  rw [← hset, hlength] at hevent
  rw [← hset] at hending hstats
  rw [← hencode] at hstats
  have hsent : sent[offset]? = some old := by
    rw [GroupLine.getElem?_encodeFrame front back label value hplace, hold]
  exact ⟨hsent, hevent, hending, hspared, loss, hlost.isLoss, hstats⟩

/-- A separator in the middle of `DATE` gives the line another label and another value. The short
frame comes out whole, but for its date. -/
theorem drain_set_byte_separator :
    let front :=
      [("ADCO", "012345678901"), ("ADIR1", "047"), ("ADIR2", "000"), ("ADIR3", "000"),
        ("IINST1", "047")]
    let back := [("IINST2", "001"), ("IINST3", "002")]
    let sent := GroupLine.encodeFrame (front ++ ("DATE", "E240305143000") :: back)
    let damaged := (onBytes .disabled (sent.set (GroupLine.textStart front + 2) Wire.sp)).drain
    ∃ f : Frame,
      damaged.events.map Prod.fst = [.frame f] ∧ f.kind = .cbetmShort ∧
        f.fields.labels = FrameKind.cbetmShort.mandatory ∧ f.span = ⟨0, sent.length⟩ ∧
        ∃ loss : Stats, loss.IsLoss ∧
          damaged.session.receiver.stats =
            { bytesRead := sent.length, linesTotal := 7, framesDecoded := 1 } + loss := by
  intro front back sent damaged
  let f : Frame :=
    { kind := .cbetmShort
      fields := .ofFn fun
        | .adco => some (.text "012345678901")
        | .adir1 | .iinst1 => some (.integer 47)
        | .adir2 | .adir3 => some (.integer 0)
        | .iinst2 => some (.integer 1)
        | .iinst3 => some (.integer 2)
        | _ => none
      span := ⟨0, (GroupLine.encodeFrame (front ++ back)).length⟩
      sequence := 0
      discarded := [] }
  have hplain : ∀ line ∈ front ++ ("DATE", "E240305143000") :: back, GroupLine.IsPlain line := by
    unfold GroupLine.IsPlain
    decide +kernel
  have hspared : (onBytes .disabled (GroupLine.encodeFrame (front ++ back))).drain.events.map
      Prod.fst = [.frame f] := by
    decide +kernel
  have hcounted : (onBytes .disabled
      (GroupLine.encodeFrame (front ++ back))).drain.session.receiver.stats +
        { bytesRead := (GroupLine.encode "DATE" "E240305143000").length } =
      { bytesRead := sent.length, linesTotal := 7, framesDecoded := 1 } := by
    decide +kernel
  have hlabels : f.fields.labels = FrameKind.cbetmShort.mandatory := by
    decide +kernel
  -- the third byte of the line is a `T`
  have hold : (GroupLine.text "DATE" "E240305143000")[2]? = some 0x54 := by
    decide +kernel
  have hplace : 2 ≠ (Text.bytes "DATE").length := by
    decide +kernel
  have hb : Wire.isDelimiter Wire.sp = false ∧ Wire.isBoundary Wire.sp = false := by
    decide
  have hdiffers : Wire.sp.toNat % 64 ≠ (0x54 : UInt8).toNat % 64 := by
    decide
  rcases drain_set_byte hplain hold hplace hb hdiffers with
    ⟨-, ⟨e, he, hevents⟩, -, -, loss, hloss, hstats⟩
  have hsame : e = .frame f := by
    rw [hspared] at he
    cases he
    rfl
  rw [hsame] at hevents
  rw [hcounted] at hstats
  exact ⟨_, hevents, rfl, hlabels, rfl, loss, hloss, hstats⟩

end Session
end TicMeter
