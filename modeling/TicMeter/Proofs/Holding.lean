import TicMeter.Proofs.Handover
import TicMeter.Proofs.LineEnding

/-!
# Holding — what a receiver holds is the end of what it has read

A receiver keeps the open frame, the line in it, where both began, and counters. All of this can be
read off the bytes that it was given.

* `Session.Passes`: the states that a session passes through while requests are made of it, those
  inside of a request among them.
* `Receiver.Holds`: the open frame is made of the bytes since the last `stx`. Every transition keeps
  this (`Receiver.Steps.holds`), and so does every answer of the source (`Receiver.Holds.hear`).
* `Receiver.Consistent`: what follows for each part of the state (`Receiver.Holds.consistent`).
* `Session.consistent_of_requests`: every state that a fresh session passes through is consistent.
-/

namespace TicMeter

/-! ## Places in the bytes -/

namespace Wire

/-- Of the bytes with the property `p`, the last one stands at offset `i`. -/
structure LastAt (p : UInt8 → Bool) (read : List UInt8) (i : Nat) : Prop where
  here : ∃ b, read[i]? = some b ∧ p b
  later : ∀ j b, i < j → read[j]? = some b → p b = false

theorem lastAt_length {p : UInt8 → Bool} (front : List UInt8) {b : UInt8} {rest : List UInt8}
    (hb : p b) (hrest : ∀ c ∈ rest, p c = false) : LastAt p (front ++ b :: rest) front.length := by
  constructor
  · exact ⟨b, by simp, hb⟩
  · intro j c hj hget
    rcases Nat.exists_eq_add_of_lt hj with ⟨k, rfl⟩
    have hrestGet : rest[k]? = some c := by
      rw [List.getElem?_append_right (by omega)] at hget
      simpa [Nat.add_assoc] using hget
    exact hrest c (List.mem_of_getElem? hrestGet)

/-- The bytes of a line, as far as they have come, stand behind a byte that opens a line. -/
theorem exists_opensLine (interior : List UInt8) :
    ∃ front d, stx :: interior = front ++ d :: openLine interior ∧ opensLine d := by
  have hsplit : interior.rdropWhile (!isDelimiter ·) ++ openLine interior = interior :=
    List.rdropWhile_append_rtakeWhile
  rcases List.eq_nil_or_concat' (interior.rdropWhile (!isDelimiter ·)) with
    hnil | ⟨front, d, hfront⟩
  · -- no line has ended yet in this frame
    refine ⟨[], stx, ?_, rfl⟩
    simpa [hnil] using hsplit.symm
  · have hd : isDelimiter d := by
      have hlast := List.rdropWhile_last_not (!isDelimiter ·) interior (by simp [hfront])
      simpa [hfront] using hlast
    refine ⟨stx :: front, d, ?_, by simp [opensLine, hd]⟩
    rw [hfront, List.append_assoc] at hsplit
    simpa using hsplit.symm

end Wire

def Pull.byte? : Pull → Option UInt8
  | .byte b => some b
  | .dry | .failed _ => none

/-! ## Passing through states -/

namespace Session

variable {σ : Type} {pull : σ → Pull × σ} {s t u : Session σ} {heard later : List Pull}

/-- `Passes pull s heard t`: while requests are made of `s`, on a source that is pulled by `pull`,
it comes to the state `t` after it has taken the answers `heard` of the source. -/
inductive Passes (pull : σ → Pull × σ) : Session σ → List Pull → Session σ → Prop
  | none (s : Session σ) : Passes pull s [] s
  | hears {r : Receiver} {source rest : σ} {a : Pull} {heard : List Pull} {t : Session σ} :
      r.phase ≠ .faulted → pull source = (a, rest) → Passes pull ⟨(r.hear a).1, rest⟩ heard t →
      Passes pull ⟨r, source⟩ (a :: heard) t

theorem Passes.append (hs : Passes pull s heard t) (ht : Passes pull t later u) :
    Passes pull s (heard ++ later) u := by
  induction hs with
  | none => exact ht
  | hears hphase hpull _ ih => exact .hears hphase hpull (ih ht)

theorem Asks.passes {answer : Answer} (h : Asks pull s heard answer t) :
    Passes pull s heard t := by
  induction h with
  | faulted _ => exact .none _
  | answers hphase hpull _ => exact .hears hphase hpull (.none _)
  | listens hphase hpull _ _ ih => exact .hears hphase hpull ih

/-- The states between requests are among those that a session passes through. -/
theorem Requests.passes {answers : List Answer} (h : Requests pull s heard answers t) :
    Passes pull s heard t := by
  induction h with
  | none => exact .none _
  | more hasks _ ih => exact hasks.passes.append ih

end Session

/-! ## What is held -/

theorem OpenFrame.closeLine_fst (frame : OpenFrame) (repair : AdpsRepair) (a b : Stats) :
    (frame.closeLine repair a).1 = (frame.closeLine repair b).1 := by
  unfold closeLine
  split <;> rfl

/-- The frame has taken in all bytes since the last `stx`, which opened it. -/
def OpenFrame.Holds (frame : OpenFrame) (repair : AdpsRepair) (read : List UInt8) : Prop :=
  ∃ front interior, read = front ++ Wire.stx :: interior ∧
    (∀ b ∈ interior, Wire.isBoundary b = false) ∧
    frame = .ofInterior repair front.length interior

namespace OpenFrame.Holds

variable {frame held : OpenFrame} {repair : AdpsRepair} {read : List UInt8}

theorem opened (repair : AdpsRepair) (read : List UInt8) :
    OpenFrame.Holds ⟨read.length, .empty, .empty⟩ repair (read ++ [Wire.stx]) :=
  ⟨read, [], rfl, by simp, rfl⟩

/-- A byte that ends no frame joins the interior. -/
theorem concat (h : frame.Holds repair read) {b : UInt8} (hb : Wire.isBoundary b = false)
    (hheld : ∀ (start : Nat) (interior : List UInt8),
      read.length = start + 1 + interior.length →
      frame = .ofInterior repair start interior →
      held = .ofInterior repair start (interior ++ [b])) : held.Holds repair (read ++ [b]) := by
  rcases h with ⟨front, interior, rfl, hplain, hframe⟩
  refine ⟨front, interior ++ [b], by simp, ?_, hheld _ _ ?_ hframe⟩
  · intro c hc
    rcases List.mem_append.1 hc with hc | hc
    · exact hplain c hc
    · rwa [List.mem_singleton.1 hc]
  · simp only [List.length_append, List.length_cons]
    omega

end OpenFrame.Holds

namespace Receiver

variable {r next : Receiver} {b : UInt8} {event : Option Event} {read : List UInt8}

/-- The receiver has read these bytes, and holds of them what belongs to the open frame. -/
structure Holds (r : Receiver) (read : List UInt8) : Prop where
  position : r.position = read.length
  bytesRead : r.stats.bytesRead = read.length
  sequence : r.sequence =
    r.stats.framesDecoded + r.stats.framesRejected + r.stats.framesInterrupted
  frame : ∀ frame, r.phase = .reading frame → frame.Holds r.repair read

theorem holds_fresh (repair : AdpsRepair) : (fresh repair).Holds [] :=
  ⟨rfl, rfl, rfl, nofun⟩

/-- The open frame of the receiver that a transition leads to. -/
theorem Steps.holds_frame (h : r.Steps b next event) (hholds : r.Holds read) :
    ∀ frame, next.phase = .reading frame → frame.Holds r.repair (read ++ [b]) := by
  have hposition := hholds.position
  cases h with
  | faulted hfaulted =>
    intro frame hframe
    rw [hfaulted] at hframe
    cases hframe
  | opens _ hb =>
    rintro frame ⟨⟩
    rw [hb, hposition]
    exact .opened r.repair read
  | noise _ _ => exact nofun
  | cutsIn _ _ hb =>
    rintro frame ⟨⟩
    rw [hb, hposition]
    exact .opened r.repair read
  | givesUp _ _ _ => exact nofun
  | closes _ _ _ _ _ _ _ => exact nofun
  | endsLine frame held stats notices hphase hb hheld =>
    rintro _ ⟨⟩
    refine (hholds.frame frame hphase).concat (Wire.isBoundary_of_isDelimiter hb) ?_
    rintro start interior - rfl
    -- the fields do not hang on the counters
    have hclosed := OpenFrame.closeLine_ofInterior r.repair start interior 0
    rw [OpenFrame.closeLine_fst _ _ _ r.counted.stats, hheld] at hclosed
    rw [OpenFrame.ofInterior_concat_delimiter _ _ _ hb]
    exact hclosed.1
  | growsLine frame hphase hboundary hdelimiter =>
    rintro _ ⟨⟩
    refine (hholds.frame frame hphase).concat hboundary ?_
    rintro start interior hlength rfl
    rw [hposition, hlength]
    exact OpenFrame.push_ofInterior r.repair start interior hdelimiter

/-- Every transition takes its byte into what is held. -/
theorem Steps.holds (h : r.Steps b next event) (hphase : r.phase ≠ .faulted)
    (hholds : r.Holds read) : next.Holds (read ++ [b]) := by
  rcases h.framing hphase with ⟨hread, -, hframes⟩
  have hsequence := h.sequence_eq
  have hlength : (read ++ [b]).length = read.length + 1 := List.length_append
  constructor
  · rw [h.position_eq hphase, hholds.position, hlength]
  · rw [hread, hholds.bytesRead, hlength]
  · rw [hsequence, hholds.sequence, hframes]
  · rw [h.repair_eq]
    exact h.holds_frame hholds

namespace Holds

theorem sourceEnded (h : r.Holds read) : r.sourceEnded.1.Holds read := by
  have hstats := r.stats_sourceEnded
  rcases h with ⟨hposition, hread, hsequence, -⟩
  constructor
  · rw [position_sourceEnded, hposition]
  · rw [hstats]
    exact hread
  · have hsame : r.sourceEnded.1.sequence = r.sequence := by
      cases hphase : r.phase <;> simp [Receiver.sourceEnded, hphase]
    rw [hsame, hstats]
    exact hsequence
  · intro frame hphase
    cases hcases : r.phase <;> simp [Receiver.sourceEnded, hcases] at hphase

theorem sourceFailed (h : r.Holds read) (why : SourceError) :
    (r.sourceFailed why).1.Holds read :=
  ⟨h.position, h.bytesRead, h.sequence, nofun⟩

/-- Every answer of the source keeps what is held in step with the bytes among the answers. -/
theorem hear (h : r.Holds read) (hphase : r.phase ≠ .faulted) (a : Pull) :
    (r.hear a).1.Holds (read ++ a.byte?.toList) := by
  cases a with
  | byte b => exact (r.steps_step b).holds hphase h
  | dry =>
    rw [Pull.byte?, Option.toList_none, List.append_nil]
    exact h.sourceEnded
  | failed why =>
    rw [Pull.byte?, Option.toList_none, List.append_nil]
    exact h.sourceFailed why

end Holds

/-! ## The parts of the state -/

/-- The bytes of the line that is being received, as far as they are kept. -/
def lineBuffer (r : Receiver) : List UInt8 :=
  match r.phase with
  | .reading frame => frame.line.kept
  | _ => []

def gathered (r : Receiver) : FieldMap :=
  match r.phase with
  | .reading frame => frame.fields
  | _ => .empty

/-- The state as it is told by the bytes that were read. -/
structure Consistent (r : Receiver) (read : List UInt8) : Prop where
  /-- between frames nothing is kept; the type of phases sees to this, since a line and fields are
  part of an open frame -/
  idle : (∀ frame, r.phase ≠ .reading frame) → r.lineBuffer = [] ∧ r.gathered = .empty
  buffered : r.lineBuffer.length ≤ Wire.maxLineLength + 1
  plain : Wire.IsPlain r.lineBuffer
  /-- the open frame began with the last `stx` -/
  frameStart : ∀ frame, r.phase = .reading frame →
    frame.start < r.position ∧ Wire.LastAt (· == Wire.stx) read frame.start
  /-- the line began behind the last byte that opens one, and its first bytes are kept -/
  lineStart : ∀ frame, r.phase = .reading frame → frame.line.kept ≠ [] →
    frame.start < frame.line.start ∧ frame.line.start < r.position ∧
      Wire.LastAt Wire.opensLine read (frame.line.start - 1) ∧
      frame.line.kept = (read.drop frame.line.start).take
        (min (Wire.maxLineLength + 1) (r.position - frame.line.start))
  numbered : r.sequence =
    r.stats.framesDecoded + r.stats.framesRejected + r.stats.framesInterrupted
  counted : r.position = r.stats.bytesRead ∧ r.position = read.length

end Receiver

namespace OpenFrame

variable {frame : OpenFrame} {repair : AdpsRepair} {read : List UInt8}

theorem Holds.lastAt_start (h : frame.Holds repair read) :
    frame.start < read.length ∧ Wire.LastAt (· == Wire.stx) read frame.start := by
  rcases h with ⟨front, interior, rfl, hplain, rfl⟩
  refine ⟨by simp [ofInterior], Wire.lastAt_length front (by simp) ?_⟩
  intro b hb
  simpa using (Wire.ne_boundary (hplain b hb)).1

theorem Holds.isPlain_kept (h : frame.Holds repair read) : Wire.IsPlain frame.line.kept := by
  rcases h with ⟨front, interior, -, hplain, rfl⟩
  intro b hb
  have hline : b ∈ Wire.openLine interior := List.mem_of_mem_take hb
  exact ⟨Wire.isDelimiter_of_mem_openLine b hline,
    hplain b ((List.rtakeWhile_suffix _ _).subset hline)⟩

theorem Holds.line_eq (h : frame.Holds repair read) (hline : frame.line.kept ≠ []) :
    frame.start < frame.line.start ∧ frame.line.start < read.length ∧
      Wire.LastAt Wire.opensLine read (frame.line.start - 1) ∧
      frame.line.kept = (read.drop frame.line.start).take (Wire.maxLineLength + 1) := by
  rcases h with ⟨outer, interior, rfl, hplain, rfl⟩
  have hopen : Wire.openLine interior ≠ [] := by
    intro hnone
    simp [ofInterior, hnone] at hline
  have hplainLine : ∀ b ∈ Wire.openLine interior, Wire.opensLine b = false := by
    intro b hb
    have hstx := (Wire.ne_boundary (hplain b ((List.rtakeWhile_suffix _ _).subset hb))).1
    simp [Wire.opensLine, hstx, Wire.isDelimiter_of_mem_openLine b hb]
  -- the frame's own `stx` opens the line if no delimiter does
  rcases Wire.exists_opensLine interior with ⟨front, d, hsplit, hd⟩
  have hread : outer ++ Wire.stx :: interior = (outer ++ front) ++ d :: Wire.openLine interior := by
    rw [hsplit, List.append_assoc]
  have hlength := congrArg List.length hsplit
  simp only [List.length_cons, List.length_append] at hlength
  have hstart : (ofInterior repair outer.length interior).line.start =
      (outer ++ front).length + 1 := by
    simp only [ofInterior, List.isEmpty_iff, hopen, if_false, List.length_append]
    omega
  have hpositive := List.length_pos_iff.2 hopen
  rw [hstart, hread]
  refine ⟨?_, ?_, ?_, ?_⟩
  · simp only [ofInterior, List.length_append]
    omega
  · simp only [List.length_append, List.length_cons]
    omega
  · exact Wire.lastAt_length _ hd hplainLine
  · have hdrop : ((outer ++ front) ++ d :: Wire.openLine interior).drop
        ((outer ++ front).length + 1) = Wire.openLine interior := by
      rw [List.drop_append]
      simp
    rw [hdrop]
    rfl

end OpenFrame

/-- What is held tells every part of the state. -/
theorem Receiver.Holds.consistent {r : Receiver} {read : List UInt8} (h : r.Holds read) :
    r.Consistent read := by
  have hcounted : r.position = r.stats.bytesRead := h.position.trans h.bytesRead.symm
  cases hphase : r.phase with
  | reading frame =>
    have hframe := h.frame frame hphase
    have hbuffer : r.lineBuffer = frame.line.kept := by simp [lineBuffer, hphase]
    constructor
    · intro hidle
      exact absurd hphase (hidle frame)
    · rw [hbuffer]
      rcases hframe with ⟨front, interior, -, -, rfl⟩
      exact List.length_take_le _ _
    · rw [hbuffer]
      exact hframe.isPlain_kept
    · rintro other hother
      cases hphase.symm.trans hother
      rw [h.position]
      exact hframe.lastAt_start
    · rintro other hother hline
      cases hphase.symm.trans hother
      rcases hframe.line_eq hline with ⟨hbegins, hwithin, hlast, hkept⟩
      rw [h.position]
      refine ⟨hbegins, hwithin, hlast, ?_⟩
      rw [hkept, List.take_eq_take_min, List.length_drop]
    · exact h.sequence
    · exact ⟨hcounted, h.position⟩
  | _ =>
    -- no frame is open, so there is nothing to tell
    have hbuffer : r.lineBuffer = [] := by simp [lineBuffer, hphase]
    have hgathered : r.gathered = .empty := by simp [gathered, hphase]
    constructor
    · exact fun _ => ⟨hbuffer, hgathered⟩
    · simp [hbuffer]
    · simp [hbuffer, Wire.IsPlain]
    · intro frame hframe
      simp [hphase] at hframe
    · intro frame hframe
      simp [hphase] at hframe
    · exact h.sequence
    · exact ⟨hcounted, h.position⟩

namespace Session

variable {σ : Type} {pull : σ → Pull × σ} {repair : AdpsRepair} {source : σ} {s t : Session σ}
  {heard later : List Pull} {answers : List Answer}

/-- Passing through states keeps what is held in step with the bytes that were heard. -/
theorem Passes.holds (h : Passes pull s heard t) {read : List UInt8}
    (hholds : s.receiver.Holds read) :
    t.receiver.Holds (read ++ heard.filterMap Pull.byte?) := by
  induction h generalizing read with
  | none =>
    rw [List.filterMap_nil, List.append_nil]
    exact hholds
  | @hears r source rest a heard t hphase hpull _ ih =>
    have hrest := ih (hholds.hear hphase a)
    have hbytes : (a :: heard).filterMap Pull.byte? =
        a.byte?.toList ++ heard.filterMap Pull.byte? := by
      cases hbyte : a.byte? <;> simp [hbyte]
    rwa [hbytes, ← List.append_assoc]

/-- After any requests to a fresh session, over any source, and in every state that the session
passes through when further requests are made, all parts of its receiver are told by the bytes that
it has taken from the source. -/
theorem consistent_of_requests (hrequests : Requests pull (.start repair source) heard answers s)
    (hpasses : Passes pull s later t) :
    t.receiver.Consistent ((heard ++ later).filterMap Pull.byte?) := by
  have hall := hrequests.passes.append hpasses
  have hholds := hall.holds (Receiver.holds_fresh repair)
  rw [List.nil_append] at hholds
  exact hholds.consistent

theorem passes_of_pulls {r : Receiver} (hphase : r.phase ≠ .faulted) {rest : σ}
    {bytes : List UInt8} (hpulls : ByteSource.Pulls pull source (bytes.map .byte) rest) :
    Passes pull ⟨r, source⟩ (bytes.map .byte) ⟨r.after bytes, rest⟩ := by
  induction bytes generalizing r source with
  | nil =>
    cases hpulls
    exact .none _
  | cons b bytes ih =>
    cases hpulls with
    | next hpull hlater =>
      exact .hears hphase hpull (ih ((r.steps_step b).phase_ne_faulted hphase) hlater)

/-- The first frame is given up; the second one is left inside of a line that is too long to be kept
as a whole. -/
theorem consistent_of_requests_overlong :
    let given := [Wire.stx, Wire.eot]
    let left := Wire.stx :: Wire.lf :: List.replicate 70 0x41
    ∃ s t : Session DirectFeed,
      Requests ByteSource.pull (.start .disabled ⟨[.bytes (given ++ left)]⟩) (given.map .byte)
        [.event (.rejected (.interrupted 0 ⟨0, 2⟩))] s ∧
      Passes ByteSource.pull s (left.map .byte) t ∧
      t.receiver.phase = .reading ⟨2, ⟨4, List.replicate 65 0x41⟩, .empty⟩ ∧
      t.receiver.Consistent (given ++ left) := by
  intro given left
  let source : DirectFeed := ⟨[.bytes (given ++ left)]⟩
  let s : Session DirectFeed := ⟨(Receiver.fresh .disabled).after given, ⟨[.bytes left]⟩⟩
  let t : Session DirectFeed := ⟨s.receiver.after left, ⟨[.bytes []]⟩⟩
  have hasks : Asks ByteSource.pull (.start .disabled source) (given.map .byte)
      (.event (.rejected (.interrupted 0 ⟨0, 2⟩))) s :=
    .listens nofun rfl rfl (.answers nofun rfl rfl)
  have hrequests := Requests.more hasks (.none _)
  rw [List.append_nil] at hrequests
  have hpasses : Passes ByteSource.pull s (left.map .byte) t := by
    have hpulls := DirectFeed.pulls_bytes left [] []
    rw [List.append_nil] at hpulls
    exact passes_of_pulls (by decide) hpulls
  have hphase : t.receiver.phase = .reading ⟨2, ⟨4, List.replicate 65 0x41⟩, .empty⟩ := by
    decide +kernel
  have hconsistent := consistent_of_requests hrequests hpasses
  have hbytes : (given.map Pull.byte ++ left.map Pull.byte).filterMap Pull.byte? =
      given ++ left := by
    decide +kernel
  rw [hbytes] at hconsistent
  exact ⟨s, t, hrequests, hpasses, hphase, hconsistent⟩

end Session
end TicMeter
