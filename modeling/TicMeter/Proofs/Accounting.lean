import TicMeter.Capture
import TicMeter.Proofs.Encoding
import TicMeter.Proofs.KeyMap
import TicMeter.Proofs.Request
import TicMeter.Proofs.Tiling

/-!
# Accounting — what a report says of the events of its capture

The frames and the rejected transmissions of a report are collected in two lists, apart from the
counters of the receiver and from the numbers that it gives to events.

* `Receiver.outcomes_after`, `Receiver.map_sequence_emits`: the receiver counts every event under
  what became of its frame, and numbers them in order.
* `FrameSummary.entries_ofFrame_perm`: a summary lists every field under the text of its label.
* `Capture.decode_run`: what decoding comes to is decided by the first answer of the source that is
  no byte.
* `Capture.decode_accounts`: a report is missing exactly when the source fails first, and else
  accounts for every event.
-/

namespace TicMeter

/-! ## Events by what became of their frames -/

namespace Event

def frame? : Event → Option Frame
  | .frame f => some f
  | .rejected _ => none

def rejection? : Event → Option FrameError
  | .frame _ => none
  | .rejected why => some why

def outcome : Event → Stats
  | .frame _ => { framesDecoded := 1 }
  | .rejected (.unclassifiable ..) => { framesRejected := 1 }
  | .rejected (.interrupted ..) => { framesInterrupted := 1 }

theorem outcome_ofFields (fields : FieldMap) (span : Span) (sequence : Nat) :
    (ofFields fields span sequence).outcome = .ofFields fields := by
  unfold ofFields Stats.ofFields
  cases FrameKind.classify fields.contains <;> rfl

theorem sequence_ofFields (fields : FieldMap) (span : Span) (sequence : Nat) :
    (ofFields fields span sequence).sequence = sequence := by
  unfold ofFields
  cases FrameKind.classify fields.contains <;> rfl

end Event

/-- The counters of frames that have given an event. -/
def Stats.outcomes (s : Stats) : Stats where
  framesDecoded := s.framesDecoded
  framesRejected := s.framesRejected
  framesInterrupted := s.framesInterrupted

theorem Stats.outcomes_add (a b : Stats) : (a + b).outcomes = a.outcomes + b.outcomes := rfl

theorem Stats.outcomes_ofFields (fields : FieldMap) :
    (Stats.ofFields fields).outcomes = .ofFields fields := by
  rcases ofFields_eq fields with ⟨_, _, hfields, -⟩
  rw [hfields]
  rfl

namespace Receiver

variable {r next : Receiver} {b : UInt8} {event : Option Event}

theorem Steps.outcomes (h : r.Steps b next event) :
    next.stats.outcomes = r.stats.outcomes + (event.toList.map Event.outcome).sum := by
  -- lines do not touch the counters of frames
  have hlines {frame held : OpenFrame} {stats : Stats} {notices : List Notice}
      (hheld : frame.closeLine r.repair r.counted.stats = (held, stats, notices)) :
      stats.outcomes = r.stats.outcomes := by
    have houtcomes := congrArg Stats.outcomes (OpenFrame.framing_closeLine hheld).1
    exact houtcomes
  cases h with
  | faulted _ => exact (add_zero r.stats.outcomes).symm
  | opens _ _ => rfl
  | noise _ _ => rfl
  | cutsIn frame _ _ => rfl
  | givesUp frame _ _ => rfl
  | closes frame held stats notices _ _ hheld =>
    simp only [Stats.outcomes_add, hlines hheld, Stats.outcomes_ofFields, Option.toList_some,
      List.map_singleton, List.sum_singleton, Event.outcome_ofFields]
  | endsLine frame held stats notices _ _ hheld =>
    exact (hlines hheld).trans (add_zero r.stats.outcomes).symm
  | growsLine frame _ _ _ => rfl

/-- Every event counts what became of its frame. -/
theorem outcomes_after (r : Receiver) (bytes : List UInt8) :
    (r.after bytes).stats.outcomes =
      r.stats.outcomes + ((r.emits bytes).map Event.outcome).sum := by
  induction bytes generalizing r with
  | nil => exact (add_zero r.stats.outcomes).symm
  | cons b rest ih =>
    rw [after_cons, ih, (r.steps_step b).outcomes, emits_cons, List.map_append, List.sum_append,
      add_assoc]

theorem Steps.sequence_event (h : r.Steps b next event) : ∀ e ∈ event, e.sequence = r.sequence := by
  cases h with
  | closes frame held stats notices _ _ _ =>
    rintro e ⟨⟩
    exact Event.sequence_ofFields _ _ _
  | cutsIn frame _ _ =>
    rintro e ⟨⟩
    rfl
  | givesUp frame _ _ =>
    rintro e ⟨⟩
    rfl
  | _ => simp

/-- Events are numbered in order. -/
theorem map_sequence_emits (r : Receiver) (bytes : List UInt8) :
    (r.emits bytes).map Event.sequence = List.range' r.sequence (r.emits bytes).length := by
  induction bytes generalizing r with
  | nil => rfl
  | cons b rest ih =>
    have hsteps := r.steps_step b
    have hsequence := hsteps.sequence_eq
    rw [emits_cons, List.map_append, ih, hsequence]
    cases hevent : (r.step b).event with
    | none => rfl
    | some e =>
      have he := hsteps.sequence_event e hevent
      simp [he, List.range'_succ]

end Receiver

/-! ## The two lists of a report -/

namespace Event

/-- Each event goes into one of the two lists, with its number. -/
theorem perm_sequences (events : List Event) :
    ((events.filterMap frame?).map Frame.sequence ++
      (events.filterMap rejection?).map FrameError.sequence).Perm
        (events.map Event.sequence) := by
  induction events with
  | nil => exact .refl _
  | cons e rest ih =>
    cases e with
    | frame f => exact ih.cons _
    | rejected why => exact List.perm_middle.trans (ih.cons _)

/-- The outcomes of events, by the lists that they go into. -/
theorem sum_outcome (events : List Event) :
    (events.map outcome).sum =
      { framesDecoded := (events.filterMap frame?).length
        framesRejected := (events.filterMap rejection?).countP (·.word = "unclassifiable")
        framesInterrupted := (events.filterMap rejection?).countP (·.word = "interrupted") } := by
  induction events with
  | nil => rfl
  | cons e rest ih =>
    rw [List.map_cons, List.sum_cons, ih]
    rcases e with f | why | why <;>
      simp [List.filterMap_cons, outcome, frame?, rejection?, FrameError.word, Stats.add_def,
        Stats.add, Nat.add_comm]

end Event

theorem Label.text_inj {a b : Label} (h : a.text = b.text) : a = b := by
  have hsame := ofText?_text a
  rw [h, ofText?_text b] at hsame
  exact (Option.some.inj hsame).symm

/-- A summary has one entry for each field, under the text of its label. -/
theorem FrameSummary.entries_ofFrame_perm (f : Frame) :
    (FrameSummary.ofFrame f).fields.entries.Perm
      (f.fields.entries.map fun (label, value) => (label.text, value.toJson)) := by
  refine KeyMap.entries_ofList_perm ?_
  have hkeys :
      (f.fields.entries.map fun (label, value) => (label.text, value.toJson)).map Prod.fst =
        f.fields.labels.map Label.text := by
    rw [← FieldMap.map_fst_entries, List.map_map, List.map_map]
    rfl
  rw [hkeys]
  exact f.fields.nodup_labels.map fun _ _ hne => Label.text_inj hne

/-- A report that leaves out none of these events, and nothing of the bytes that gave them. -/
structure Report.Accounts (report : Report) (events : List Event) (bytes : Nat) : Prop where
  frames : report.frames = (events.filterMap Event.frame?).map FrameSummary.ofFrame
  errors : report.errors = (events.filterMap Event.rejection?).map RejectionSummary.ofError
  /-- all numbers from zero on, each once -/
  numbered :
    (report.frames.map FrameSummary.sequence ++ report.errors.map RejectionSummary.sequence).Perm
      (List.range (report.frames.length + report.errors.length))
  decoded : report.frames.length = report.summary.framesDecoded
  rejected : report.errors.countP (·.kind = "unclassifiable") = report.summary.framesRejected
  interrupted : report.errors.countP (·.kind = "interrupted") = report.summary.framesInterrupted
  inputBytes : report.input.bytes = bytes
  bytesRead : report.summary.bytesRead = bytes
  fields : ∀ f ∈ events.filterMap Event.frame?,
    (FrameSummary.ofFrame f).fields.entries.Perm
      (f.fields.entries.map fun (label, value) => (label.text, value.toJson))
  ordered : ∀ summary ∈ report.frames, summary.fields.entries.Pairwise fun a b => a.1 < b.1

namespace Capture

open ByteSource (Pulls Yields yields_iff_pulls)

theorem frames_summarize (path : String) (options : Options) (events : List Event) (stats : Stats) :
    (summarize path options events stats).frames =
      (events.filterMap Event.frame?).map FrameSummary.ofFrame := by
  rw [List.map_filterMap]
  refine List.filterMap_congr fun e _ => ?_
  cases e <;> rfl

theorem errors_summarize (path : String) (options : Options) (events : List Event) (stats : Stats) :
    (summarize path options events stats).errors =
      (events.filterMap Event.rejection?).map RejectionSummary.ofError := by
  rw [List.map_filterMap]
  refine List.filterMap_congr fun e _ => ?_
  cases e <;> rfl

/-- The report on a stream accounts for what a fresh receiver makes of it. -/
theorem summarize_accounts (path : String) (options : Options) (repair : AdpsRepair)
    (bytes : List UInt8) :
    (summarize path options ((Receiver.fresh repair).emits bytes)
      ((Receiver.fresh repair).after bytes).sourceEnded.1.stats).Accounts
        ((Receiver.fresh repair).emits bytes) bytes.length := by
  let events := (Receiver.fresh repair).emits bytes
  let stats := ((Receiver.fresh repair).after bytes).sourceEnded.1.stats
  have hframes := frames_summarize path options events stats
  have herrors := errors_summarize path options events stats
  -- a truncated frame is no event, so the end of the source adds nothing here
  have houtcomes : stats.outcomes = (events.map Event.outcome).sum := by
    have hafter := Receiver.outcomes_after (.fresh repair) bytes
    have hfresh : (Receiver.fresh repair).stats.outcomes = 0 := rfl
    rw [hfresh, zero_add] at hafter
    rw [← hafter]
    simp only [stats, Receiver.stats_sourceEnded, Stats.outcomes_add]
    exact add_zero _
  rw [Event.sum_outcome] at houtcomes
  have hread : stats.bytesRead = bytes.length :=
    Receiver.bytesRead_sourceEnded_after_fresh repair bytes
  constructor
  · exact hframes
  · exact herrors
  · -- the events are numbered one by one, and each is in one of the lists
    have hperm := Event.perm_sequences events
    have hnumbers : events.map Event.sequence = List.range events.length := by
      rw [List.range_eq_range']
      exact Receiver.map_sequence_emits (.fresh repair) bytes
    have hlength := hperm.length_eq
    simp only [List.length_append, List.length_map] at hlength
    rw [hframes, herrors, List.map_map, List.map_map, List.length_map, List.length_map, hlength,
      ← hnumbers]
    exact hperm
  · rw [hframes, List.length_map]
    exact (congrArg Stats.framesDecoded houtcomes).symm
  · rw [herrors, List.countP_map]
    exact (congrArg Stats.framesRejected houtcomes).symm
  · rw [herrors, List.countP_map]
    exact (congrArg Stats.framesInterrupted houtcomes).symm
  · exact hread
  · exact hread
  · intro f _
    exact FrameSummary.entries_ofFrame_perm f
  · intro summary _
    exact summary.fields.rising

/-- What decoding comes to is decided by the first answer of the source that is no byte. -/
theorem decode_run {σ : Type} [ByteSource σ] (path : String) (source : σ) (options : Options) :
    ∃ (bytes : List UInt8) (last rest : σ), Yields source bytes last ∧
      ((∃ why, ByteSource.pull last = (.failed why, rest) ∧
          (decode path source options).result = .error (.source why)) ∨
        ByteSource.pull last = (.dry, rest) ∧
          (decode path source options).result =
            .ok (summarize path options ((Receiver.fresh options.repair).emits bytes)
              ((Receiver.fresh options.repair).after bytes).sourceEnded.1.stats)) := by
  have hphase : (Session.start options.repair source).receiver.phase ≠ .faulted :=
    Receiver.phase_fresh_ne_faulted options.repair
  rcases Session.drain_run hphase with ⟨bytes, last, hyields, hevents, hends⟩
  unfold Session.EndsAs at hends
  split at hends
  · next hended =>
    rcases hends with ⟨dry, hdry, hsession⟩
    refine ⟨bytes, last, dry, hyields, .inr ⟨hdry, ?_⟩⟩
    simp only [decode, hended, hevents, hsession]
    rfl
  · next why hfailed =>
    rcases hends with ⟨rest, hfails, -⟩
    refine ⟨bytes, last, rest, hyields, .inl ⟨why, hfails, ?_⟩⟩
    simp only [decode, hfailed]

/-- Decoding gives no report exactly when the source fails before it first runs dry, and the cause
is that failure. Else the report is on the events that a reader of the same bytes is given, has them
all in its two lists, in their order, and tells their numbers and the number of bytes as the
statistics do. -/
theorem decode_accounts {σ : Type} [ByteSource σ] (path : String) (source : σ)
    (options : Options) :
    (∀ why, (decode path source options).result = .error (.source why) ↔
      ∃ (bytes : List UInt8) (last rest : σ),
        Pulls ByteSource.pull source (bytes.map .byte) last ∧
        ByteSource.pull last = (.failed why, rest)) ∧
    ∀ report, (decode path source options).result = .ok report →
      ∃ (bytes : List UInt8) (last rest : σ) (events : List Event) (s : Session σ),
        Pulls ByteSource.pull source (bytes.map .byte) last ∧
        ByteSource.pull last = (.dry, rest) ∧
        Session.Requests ByteSource.pull (.start options.repair source)
          (bytes.map .byte ++ [.dry]) (events.map .event ++ [.ended]) s ∧
        report.Accounts events bytes.length ∧ report.summary = s.receiver.stats ∧
        report.options = options ∧ report.input.path = path := by
  rcases decode_run path source options with ⟨bytes, last, rest, hyields, hcases⟩
  constructor
  · intro why
    constructor
    · intro herror
      rcases hcases with ⟨why', hfails, hresult⟩ | ⟨-, hresult⟩
      · rw [hresult] at herror
        cases herror
        exact ⟨bytes, last, rest, yields_iff_pulls.1 hyields, hfails⟩
      · rw [hresult] at herror
        cases herror
    · rintro ⟨bytes', last', rest', hpulls, hfails⟩
      have hyields' := yields_iff_pulls.2 hpulls
      -- both are the bytes up to the first answer that is none
      have hstop : ∀ b, (ByteSource.pull last).1 ≠ .byte b := by
        rcases hcases with ⟨_, hlast, -⟩ | ⟨hlast, -⟩ <;> simp [hlast]
      rcases hyields.unique hyields' hstop (by simp [hfails]) with ⟨-, rfl⟩
      rcases hcases with ⟨why', hlast, hresult⟩ | ⟨hlast, -⟩
      · rw [hfails] at hlast
        cases hlast
        exact hresult
      · rw [hfails] at hlast
        cases hlast
  · intro report hreport
    rcases hcases with ⟨why', -, hresult⟩ | ⟨hdry, hresult⟩
    · rw [hresult] at hreport
      cases hreport
    · rw [hresult] at hreport
      cases hreport
      have hphase := Receiver.phase_fresh_ne_faulted options.repair
      have hpulls := yields_iff_pulls.1 hyields
      have hrequests := Session.requests_of_bytes hphase hpulls hdry rfl
      exact ⟨bytes, last, rest, _, _, hpulls, hdry, hrequests,
        summarize_accounts path options options.repair bytes, rfl, rfl, rfl⟩

end Capture
end TicMeter
