import TicMeter.Proofs.Fields
import TicMeter.Proofs.Reading
import TicMeter.Proofs.Run

/-!
# WellFormed — what holds of every event

`Event.WellFormed` collects what a caller may rely on. It rests on one invariant of the receiver:
the fields gathered so far are values that their labels can have (`Receiver.Sound`). Every byte and
every other answer of the source keeps it, and so does every request to a session.

* `FieldMap.Admitted.wellFormed`: fields that were gathered make a well-formed event.
* `Receiver.Sound.run`: a sound receiver stays so and gives well-formed events.
* `Session.wellFormed_of_reachable`: every event that a session answers, over any source, is well
  formed.
-/

namespace TicMeter

/-- Every value of the map is one that its label can have. -/
def FieldMap.Admitted (m : FieldMap) : Prop :=
  ∀ label value, m.get? label = some value → label.Admits value

/-! ## Well-formed events -/

namespace Frame

/-- The fields are those that belong to the kind, and what was dropped does not. -/
structure WellFormed (f : Frame) : Prop where
  mandatory : ∀ label ∈ f.kind.mandatory, f.fields.contains label
  accepted : ∀ label, f.fields.contains label → f.kind.accepts label
  foreign : ∀ label ∈ f.discarded, ¬ f.kind.accepts label
  ordered : Label.Ordered f.discarded
  disjoint : ∀ label ∈ f.discarded, ¬ f.fields.contains label
  admitted : f.fields.Admitted

/-- The typed accessors answer whenever there is a field to answer for. -/
structure Accessible (f : Frame) : Prop where
  adco : ∃ s, f.adco? = some s ∧ (1 ≤ s.length ∧ s.length ≤ 12) ∧ s.toList.all Text.isGraphic
  period : f.period?.isSome ↔ f.kind ≠ .cbetmShort
  schedule : f.schedule?.isSome ↔ f.fields.contains .hhphc
  tomorrow : f.tomorrow?.isSome ↔ f.fields.contains .demain
  option : f.option?.isSome ↔ f.fields.contains .optarif
  integer : ∀ label, (f.integer? label).isSome ↔
    f.fields.contains label ∧ ∃ width, label.rule = .integer width
  text : ∀ label, (f.text? label).isSome ↔
    f.fields.contains label ∧ ∃ min max, label.rule = .code min max

end Frame

/-- Fields that fit no kind are listed in order, and every kind misses a mandatory label. -/
def FrameError.WellFormed : FrameError → Prop
  | .unclassifiable _ _ labels =>
      Label.Ordered labels ∧ ∀ kind : FrameKind, ¬ kind.mandatory ⊆ labels
  | .interrupted .. => True

def Event.WellFormed : Event → Prop
  | .frame f => f.WellFormed ∧ f.Accessible
  | .rejected why => why.WellFormed

/-! ## Typed access -/

namespace Rule.Fits

variable {rule : Rule} {value : Value}

theorem isSome_asInteger (h : rule.Fits value) :
    value.asInteger.isSome ↔ ∃ width, rule = .integer width := by
  cases rule <;> cases value <;> simp_all [Rule.Fits, Value.asInteger]

theorem isSome_asText (h : rule.Fits value) :
    value.asText.isSome ↔ ∃ min max, rule = .code min max := by
  cases rule <;> cases value <;> simp_all [Rule.Fits, Value.asText]

end Rule.Fits

namespace Frame.WellFormed

variable {f : Frame}

theorem fits (h : f.WellFormed) {label : Label} {value : Value}
    (hget : f.fields.get? label = some value) : label.rule.Fits value :=
  (h.admitted label value hget).fits

/-- Every kind but the short one carries the running period, and the short one cannot. -/
theorem contains_ptec (h : f.WellFormed) : f.fields.contains .ptec ↔ f.kind ≠ .cbetmShort := by
  constructor
  · intro hcontains hkind
    have haccepts := h.accepted .ptec hcontains
    rw [hkind] at haccepts
    revert haccepts
    decide
  · intro hkind
    refine h.mandatory .ptec ?_
    cases hcases : f.kind with
    | cbetmShort => exact absurd hcases hkind
    | _ option => simp [FrameKind.mandatory, FrameKind.singlePhase, FrameKind.threePhase]

/-- An accessor answers because the value fits the rule of its label, and so is of the kind that the
accessor gives. -/
theorem accessible (h : f.WellFormed) : f.Accessible where
  adco := by
    have hcontains : f.fields.contains .adco := by
      refine h.mandatory .adco ?_
      cases f.kind <;> simp [FrameKind.mandatory, FrameKind.singlePhase, FrameKind.threePhase]
    rcases FieldMap.contains_iff.1 hcontains with ⟨value, hget⟩
    have hfits := h.fits hget
    -- the rule of the label leaves texts only
    cases value with
    | text s =>
      have hadco : f.adco? = some s := by simp [Frame.adco?, Frame.text?, hget, Value.asText]
      exact ⟨s, hadco, hfits⟩
    | _ => exact hfits.elim
  period := by
    rw [← h.contains_ptec, FieldMap.contains, Frame.period?]
    cases hget : f.fields.get? .ptec with
    | none => simp
    | some value =>
      have hfits := h.fits hget
      cases value <;> simp_all [Label.rule, Rule.Fits]
  schedule := by
    rw [FieldMap.contains, Frame.schedule?]
    cases hget : f.fields.get? .hhphc with
    | none => simp
    | some value =>
      have hfits := h.fits hget
      cases value <;> simp_all [Label.rule, Rule.Fits]
  tomorrow := by
    rw [FieldMap.contains, Frame.tomorrow?]
    cases hget : f.fields.get? .demain with
    | none => simp
    | some value =>
      have hfits := h.fits hget
      cases value <;> simp_all [Label.rule, Rule.Fits]
  option := by
    rw [FieldMap.contains, Frame.option?]
    cases hget : f.fields.get? .optarif with
    | none => simp
    | some value =>
      have hfits := h.fits hget
      cases value <;> simp_all [Label.rule, Rule.Fits]
  integer := by
    intro label
    rw [FieldMap.contains, Frame.integer?]
    cases hget : f.fields.get? label with
    | none => simp
    | some value => simpa using (h.fits hget).isSome_asInteger
  text := by
    intro label
    rw [FieldMap.contains, Frame.text?]
    cases hget : f.fields.get? label with
    | none => simp
    | some value => simpa using (h.fits hget).isSome_asText

end Frame.WellFormed

/-! ## Closing a frame -/

namespace LineReading

theorem admits_of_ofContent {text value : String} {label : Label} {decoded : Value}
    (h : ofContent text value = .field label decoded) : label.Admits decoded := by
  unfold ofContent at h
  split at h
  · cases h
  · split at h
    · next hread =>
      cases h
      exact ⟨value, hread⟩
    · cases h
    · cases h

/-- A line gives its label a value that the label can have. -/
theorem admits_of_outcome {repair : AdpsRepair} {raw : List UInt8} {label : Label} {value : Value}
    (h : (ofBytes repair raw).outcome = .field label value) : label.Admits value := by
  unfold ofBytes at h
  split at h
  · cases h
  · split at h
    · cases h
    · exact admits_of_ofContent h
    · exact admits_of_ofContent h

end LineReading

namespace FieldMap.Admitted

theorem empty : FieldMap.empty.Admitted := by
  intro label value hget
  simp at hget

theorem insert {m : FieldMap} (h : m.Admitted) {label : Label} {value : Value}
    (hvalue : label.Admits value) : (m.insert label value).Admitted := by
  intro other found hget
  rw [get?_insert] at hget
  split at hget
  · next hsame =>
    cases hget
    exact hsame ▸ hvalue
  · exact h other found hget

theorem insertAll {m : FieldMap} (h : m.Admitted) {entries : List (Label × Value)}
    (hentries : ∀ entry ∈ entries, entry.1.Admits entry.2) : (m.insertAll entries).Admitted := by
  induction entries generalizing m with
  | nil => exact h
  | cons entry rest ih =>
    have hinsert := h.insert (hentries entry (by simp))
    exact ih hinsert fun other hother => hentries other (by simp [hother])

theorem restrict {m : FieldMap} (h : m.Admitted) (keep : Label → Bool) :
    (m.restrict keep).Admitted := by
  intro label value hget
  rw [get?_restrict] at hget
  split at hget
  · exact h label value hget
  · cases hget

theorem update {m : FieldMap} (h : m.Admitted) (repair : AdpsRepair) (raw : List UInt8) :
    ((LineReading.ofBytes repair raw).update m).Admitted := by
  unfold LineReading.update
  split
  · next label value houtcome =>
    exact h.insert (LineReading.admits_of_outcome houtcome)
  · exact h

/-- Fields that were gathered make a well-formed event. -/
theorem wellFormed {fields : FieldMap} (h : fields.Admitted) (span : Span) (sequence : Nat) :
    (Event.ofFields fields span sequence).WellFormed := by
  unfold Event.ofFields
  cases hkind : FrameKind.classify fields.contains with
  | none =>
    -- a kind with all of its mandatory labels present would have been found
    refine ⟨FieldMap.ordered_labels fields, fun kind hsubset => ?_⟩
    rcases FrameKind.classify_eq_none.1 hkind kind with ⟨label, hmandatory, hmissing⟩
    have hpresent := FieldMap.mem_labels.1 (hsubset hmandatory)
    rw [hmissing] at hpresent
    cases hpresent
  | some kind =>
    have hframe : Frame.WellFormed
        { kind
          fields := fields.restrict kind.accepts
          span
          sequence
          discarded := fields.labels.filter fun label => !kind.accepts label } := {
      mandatory := by
        intro label hmandatory
        simp [FrameKind.accepts_of_mem_mandatory hmandatory,
          FrameKind.seen_of_classify hkind label hmandatory]
      accepted := by
        intro label hcontains
        simp only [FieldMap.contains_restrict, Bool.and_eq_true] at hcontains
        exact hcontains.1
      foreign := by
        intro label hmem
        simpa using (List.mem_filter.1 hmem).2
      ordered := List.Pairwise.filter _ (FieldMap.ordered_labels fields)
      disjoint := by
        intro label hmem hcontains
        simp_all
      admitted := h.restrict kind.accepts }
    exact ⟨hframe, hframe.accessible⟩

end FieldMap.Admitted

/-! ## The receiver -/

namespace Receiver

/-- The fields of the open frame are values that their labels can have. -/
def Sound (r : Receiver) : Prop :=
  ∀ frame, r.phase = .reading frame → frame.fields.Admitted

namespace Sound

variable {r : Receiver}

theorem of_phase_ne (h : ∀ frame, r.phase ≠ .reading frame) : r.Sound := by
  intro frame hphase
  exact absurd hphase (h frame)

theorem openFrame (r : Receiver) (offset : Nat) : (r.openFrame offset).Sound := by
  intro frame hphase
  cases hphase
  exact .empty

/-- A line that is closed leaves fields that their labels can have. -/
theorem closeLine {frame held : OpenFrame} {repair : AdpsRepair} {stats stats' : Stats}
    {notices : List Notice} (h : frame.fields.Admitted)
    (hheld : frame.closeLine repair stats = (held, stats', notices)) : held.fields.Admitted := by
  unfold OpenFrame.closeLine at hheld
  split at hheld
  · cases hheld
    exact h
  · cases hheld
    exact h.update _ _

/-- Every transition keeps a receiver sound, and the event that it leads to is well formed. -/
theorem steps (h : r.Sound) {b : UInt8} {next : Receiver} {event : Option Event}
    (hsteps : r.Steps b next event) : next.Sound ∧ ∀ e, event = some e → e.WellFormed := by
  -- the fields of the open frame change at the end of a line only, and come out at its `etx` only
  cases hsteps with
  | faulted _ => exact ⟨h, by simp⟩
  | opens _ _ => exact ⟨openFrame _ _, by simp⟩
  | noise _ _ => exact ⟨of_phase_ne (by simp), by simp⟩
  | cutsIn frame _ _ =>
    refine ⟨openFrame _ _, ?_⟩
    rintro e ⟨⟩
    trivial
  | givesUp frame _ _ =>
    refine ⟨of_phase_ne (by simp [interrupt]), ?_⟩
    rintro e ⟨⟩
    trivial
  | closes frame held stats notices hphase _ hheld =>
    refine ⟨of_phase_ne (by simp), ?_⟩
    rintro e ⟨⟩
    exact (closeLine (h frame hphase) hheld).wellFormed _ _
  | endsLine frame held stats notices hphase _ hheld =>
    refine ⟨?_, by simp⟩
    rintro _ ⟨⟩
    exact closeLine (h frame hphase) hheld
  | growsLine frame hphase _ _ =>
    refine ⟨?_, by simp⟩
    rintro _ ⟨⟩
    exact h frame hphase

/-- A sound receiver stays so and gives well-formed events. -/
theorem run (h : r.Sound) (bytes : List UInt8) :
    (r.after bytes).Sound ∧ ∀ e ∈ r.emits bytes, e.WellFormed := by
  induction bytes generalizing r with
  | nil => exact ⟨h, by simp⟩
  | cons b rest ih =>
    rcases h.steps (r.steps_step b) with ⟨hnext, hevent⟩
    rcases ih hnext with ⟨hafter, hemits⟩
    refine ⟨hafter, fun e he => ?_⟩
    rw [emits_cons, List.mem_append, Option.mem_toList] at he
    rcases he with he | he
    · exact hevent e he
    · exact hemits e he

theorem sourceEnded (r : Receiver) : r.sourceEnded.1.Sound := by
  refine of_phase_ne fun frame => ?_
  cases hphase : r.phase <;> simp [Receiver.sourceEnded, hphase]

theorem sourceFailed (r : Receiver) (why : SourceError) : (r.sourceFailed why).1.Sound :=
  of_phase_ne (by simp [Receiver.sourceFailed])

end Sound
end Receiver

/-! ## The session -/

namespace Session

variable {σ : Type} [ByteSource σ]

/-- The states that a fresh session comes to, request by request. -/
inductive Reachable (repair : AdpsRepair) (source : σ) : Session σ → Prop
  | start : Reachable repair source (.start repair source)
  | next {s : Session σ} : Reachable repair source s → Reachable repair source s.next.session

theorem sound_next {s : Session σ} (h : s.receiver.Sound) :
    s.next.session.receiver.Sound ∧ ∀ e, s.next.answer = .event e → e.WellFormed := by
  by_cases hphase : s.receiver.phase = .faulted
  · -- a session whose source has failed stays as it is
    have hnext : s.next = ⟨.ended, [], s⟩ := by simp [next, hphase]
    rw [hnext]
    exact ⟨h, by simp⟩
  · rcases next_run hphase with ⟨bytes, source, -, htells⟩
    rcases h.run bytes with ⟨hafter, hemits⟩
    -- by the answer: an event of the run, or what the source had to say instead of a byte
    unfold Tells at htells
    split at htells
    · next e hanswer =>
      rcases htells with ⟨hevent, hsession⟩
      rw [hsession, hanswer]
      refine ⟨hafter, fun e' he => ?_⟩
      cases he
      exact hemits e (by simp [hevent])
    · next hanswer =>
      rcases htells with ⟨-, dry, -, hsession⟩
      rw [hsession, hanswer]
      exact ⟨.sourceEnded _, by simp⟩
    · next why hanswer =>
      rcases htells with ⟨-, rest, -, hsession⟩
      rw [hsession, hanswer]
      exact ⟨.sourceFailed _ why, by simp⟩

theorem Reachable.sound {repair : AdpsRepair} {source : σ} {s : Session σ}
    (h : Reachable repair source s) : s.receiver.Sound := by
  induction h with
  | start =>
    intro frame hphase
    cases hphase
  | next _ ih => exact (sound_next ih).1

/-- Every event that a session answers, over any source and after any number of requests, is well
formed. -/
theorem wellFormed_of_reachable {repair : AdpsRepair} {source : σ} {s : Session σ}
    (h : Reachable repair source s) {e : Event} (he : s.next.answer = .event e) :
    e.WellFormed :=
  (sound_next h.sound).2 e he

/-- A three-phase meter breaks off one transmission and sends a short frame, which has no place for
the power. -/
theorem wellFormed_of_reachable_short :
    let bytes := Wire.stx :: Wire.eot :: GroupLine.encodeFrame
      [("ADCO", "012345678901"), ("ADIR1", "047"), ("ADIR2", "000"), ("ADIR3", "000"),
        ("IINST1", "047"), ("IINST2", "001"), ("IINST3", "002"), ("PAPP", "11220")]
    ∃ f : Frame,
      (onBytes .disabled bytes).next.session.next.answer = .event (.frame f) ∧
        f.discarded = [.papp] ∧ Event.WellFormed (.frame f) := by
  intro bytes
  let f : Frame :=
    { kind := .cbetmShort
      fields := .ofFn fun
        | .adco => some (.text "012345678901")
        | .adir1 | .iinst1 => some (.integer 47)
        | .adir2 | .adir3 => some (.integer 0)
        | .iinst2 => some (.integer 1)
        | .iinst3 => some (.integer 2)
        | _ => none
      span := ⟨2, bytes.length⟩
      sequence := 1
      discarded := [.papp] }
  have hanswer : (onBytes .disabled bytes).next.session.next.answer = .event (.frame f) := by
    decide +kernel
  exact ⟨f, hanswer, rfl, wellFormed_of_reachable (.next .start) hanswer⟩

end Session
end TicMeter
