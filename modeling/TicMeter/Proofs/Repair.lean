import TicMeter.Proofs.Encoding
import TicMeter.Proofs.Statistics

/-!
# Repair — what the repair of the overcurrent line can change

Two sessions read the same bytes, one with the repair switched off and one with it on. This file
relates all that they come to: `off.UpToAdps on` says that `on` is what `off` is, but for the label
of the overcurrent warning.

* `LineReading.ofBytes_enabled`: a line is read alike, or it is the overcurrent line with the known
  miscount.
* `Gathered.upToAdps_ofLines`, `Transmission.upToAdps_event`: the relation holds of lists of lines,
  and of the events of transmissions.
* `Session.drain_upToAdps`: it holds of all that is drained.
-/

namespace TicMeter

/-! ## The relation -/

/-- Lists that differ at most in that the second may have the label besides. -/
structure Label.UpToAdps (off on : List Label) : Prop where
  same : off.filter (· ≠ .adps) = on.filter (· ≠ .adps)
  kept : .adps ∈ off → .adps ∈ on

/-- Maps with the same values, but for the label, for which the second has a value if the first
has. -/
structure FieldMap.UpToAdps (off on : FieldMap) : Prop where
  same : ∀ label, label ≠ .adps → off.get? label = on.get? label
  kept : off.contains .adps → on.contains .adps

/-- Events of one kind, at one place and with one number, whose fields and lists of labels differ as
above. -/
inductive Event.UpToAdps : Event → Event → Prop
  | frame {f g : Frame} :
      f.kind = g.kind → f.span = g.span → f.sequence = g.sequence → f.fields.UpToAdps g.fields →
      Label.UpToAdps f.discarded g.discarded → UpToAdps (.frame f) (.frame g)
  | unclassifiable {sequence : Nat} {span : Span} {off on : List Label} :
      Label.UpToAdps off on →
      UpToAdps (.rejected (.unclassifiable sequence span off))
        (.rejected (.unclassifiable sequence span on))
  | interrupted {sequence : Nat} {span : Span} :
      UpToAdps (.rejected (.interrupted sequence span)) (.rejected (.interrupted sequence span))

/-- Statistics that differ at most in what a repaired line counts instead of a mismatch. Nothing is
said of values that cannot be read and of labels that are repeated. -/
structure Stats.UpToAdps (off on : Stats) : Prop where
  bytesRead : off.bytesRead = on.bytesRead
  noiseBytes : off.noiseBytes = on.noiseBytes
  linesTotal : off.linesTotal = on.linesTotal
  linesUnreadable : off.linesUnreadable = on.linesUnreadable
  unknownLabels : off.unknownLabels = on.unknownLabels
  framesDecoded : off.framesDecoded = on.framesDecoded
  framesRejected : off.framesRejected = on.framesRejected
  framesInterrupted : off.framesInterrupted = on.framesInterrupted
  framesTruncated : off.framesTruncated = on.framesTruncated
  adpsRepairs : off.adpsRepairs = 0
  checksumMismatches : off.checksumMismatches = on.checksumMismatches + on.adpsRepairs

namespace Stats.UpToAdps

theorem refl {s : Stats} (h : s.adpsRepairs = 0) : s.UpToAdps s := by
  constructor <;> simp [h]

theorem add {off on off' on' : Stats} (h : off.UpToAdps on) (h' : off'.UpToAdps on') :
    (off + off').UpToAdps (on + on') := by
  cases h
  cases h'
  constructor <;> simp only [Stats.add_def, Stats.add] <;> omega

theorem sum {α : Type} {off on : α → Stats} (h : ∀ a, (off a).UpToAdps (on a)) (l : List α) :
    ((l.map off).sum).UpToAdps (l.map on).sum := by
  induction l with
  | nil => exact refl rfl
  | cons a rest ih => exact (h a).add ih

end Stats.UpToAdps

theorem Label.UpToAdps.filter {off on : List Label} (h : UpToAdps off on) (p : Label → Bool) :
    UpToAdps (off.filter p) (on.filter p) := by
  constructor
  · calc (off.filter p).filter (· ≠ .adps)
        = (off.filter (· ≠ .adps)).filter p := List.filter_comm _ _ _
      _ = (on.filter (· ≠ .adps)).filter p := by rw [h.same]
      _ = (on.filter p).filter (· ≠ .adps) := List.filter_comm _ _ _
  · intro hmem
    rw [List.mem_filter] at hmem ⊢
    exact ⟨h.kept hmem.1, hmem.2⟩

namespace FieldMap.UpToAdps

variable {off on : FieldMap}

theorem refl (m : FieldMap) : m.UpToAdps m :=
  ⟨fun _ _ => rfl, id⟩

theorem contains_eq (h : off.UpToAdps on) {label : Label} (hlabel : label ≠ .adps) :
    off.contains label = on.contains label := by
  unfold contains
  rw [h.same label hlabel]

theorem insert (h : off.UpToAdps on) (label : Label) (value : Value) :
    (off.insert label value).UpToAdps (on.insert label value) := by
  constructor
  · intro other hother
    rw [get?_insert, get?_insert, h.same other hother]
  · intro hcontains
    rw [contains_insert, Bool.or_eq_true] at hcontains ⊢
    exact hcontains.imp_right h.kept

theorem insert_right (h : off.UpToAdps on) (value : Value) :
    off.UpToAdps (on.insert .adps value) := by
  constructor
  · intro label hlabel
    rw [get?_insert, if_neg hlabel.symm, h.same label hlabel]
  · intro _
    simp [contains_insert]

theorem restrict (h : off.UpToAdps on) (keep : Label → Bool) :
    (off.restrict keep).UpToAdps (on.restrict keep) := by
  constructor
  · intro label hlabel
    rw [get?_restrict, get?_restrict, h.same label hlabel]
  · intro hcontains
    rw [contains_restrict, Bool.and_eq_true] at hcontains ⊢
    exact hcontains.imp_right h.kept

theorem labels (h : off.UpToAdps on) : Label.UpToAdps off.labels on.labels := by
  constructor
  · unfold FieldMap.labels
    rw [List.filter_filter, List.filter_filter]
    refine List.filter_congr fun label _ => ?_
    by_cases hlabel : label = .adps
    · simp [hlabel]
    · rw [h.contains_eq hlabel]
  · intro hmem
    exact mem_labels.2 (h.kept (mem_labels.1 hmem))

/-- The label is mandatory for no kind, so the kind is the same. -/
theorem classify (h : off.UpToAdps on) :
    FrameKind.classify off.contains = FrameKind.classify on.contains := by
  refine FrameKind.classify_congr fun kind label hmandatory => ?_
  have hlabel : label ≠ .adps := by
    rintro rfl
    revert hmandatory
    rcases kind with option | option | option | _
    all_goals first | decide | (cases option <;> decide)
  exact h.contains_eq hlabel

theorem event (h : off.UpToAdps on) (span : Span) (sequence : Nat) :
    (Event.ofFields off span sequence).UpToAdps (Event.ofFields on span sequence) := by
  unfold Event.ofFields
  rw [h.classify]
  cases FrameKind.classify on.contains with
  | none => exact .unclassifiable h.labels
  | some kind => exact .frame rfl rfl rfl (h.restrict _) (h.labels.filter _)

theorem stats (h : off.UpToAdps on) : Stats.ofFields off = Stats.ofFields on := by
  unfold Stats.ofFields
  rw [h.classify]

end FieldMap.UpToAdps

/-! ## Lines -/

/-- The label has no way to say that it has no value. -/
theorem Label.read_adps_ne_void (s : String) : Label.adps.read s ≠ .ok none := by
  simp [Label.read_eq_ok_none, Label.voidText?]

namespace LineReading

/-- A line is read alike, or it is the line with the known miscount. -/
theorem ofBytes_enabled (line : List UInt8) :
    (ofBytes .enabled line = ofBytes .disabled line ∧ (ofBytes .disabled line).repaired = false) ∨
      ∃ (expected actual : UInt8) (value : String),
        ofBytes .disabled line = ⟨.mismatch Wire.adps expected actual, false⟩ ∧
          ofBytes .enabled line = ⟨ofContent Wire.adps value, true⟩ := by
  cases hparse : GroupLine.parse line with
  | error why => exact .inl (by simp [ofBytes, hparse])
  | ok parts =>
    rcases parts with ⟨label, value, checksum⟩
    by_cases hvalid : checksum = Checksum.ofSum (Checksum.byteSum label value)
    · exact .inl (by simp [ofBytes, hparse, Checksum.verify, hvalid])
    -- the two sessions judge a checksum differently only if it is the known miscount
    by_cases hmiscount :
        label = Wire.adps ∧ checksum = Checksum.ofSum (Checksum.byteSum label value + 1)
    · rcases hmiscount with ⟨rfl, hsum⟩
      have hoff : Checksum.verify Wire.adps value checksum .disabled =
          .mismatch (Checksum.ofSum (Checksum.byteSum Wire.adps value)) := by
        simp [Checksum.verify, hvalid]
      have hon : Checksum.verify Wire.adps value checksum .enabled = .repaired := by
        unfold Checksum.verify
        rw [if_neg hvalid, if_pos ⟨rfl, rfl, hsum⟩]
      refine .inr ⟨Checksum.ofSum (Checksum.byteSum Wire.adps value), checksum, value, ?_, ?_⟩
      · simp [ofBytes, hparse, hoff]
      · simp [ofBytes, hparse, hon]
    · exact .inl (by simp [ofBytes, hparse, Checksum.verify, hvalid, hmiscount])

/-- A repaired line gives its label a value, or its value cannot be read. -/
theorem ofContent_adps (value : String) :
    (∃ decoded, ofContent Wire.adps value = .field .adps decoded) ∨
      ∃ why, ofContent Wire.adps value = .unconvertible why := by
  have hlabel : Label.ofText? Wire.adps = some .adps := Label.ofText?_text .adps
  unfold ofContent
  rw [hlabel]
  rcases hread : Label.adps.read value with why | (_ | decoded)
  · exact .inr ⟨why, by simp [hread]⟩
  · exact absurd hread (Label.read_adps_ne_void value)
  · exact .inl ⟨decoded, by simp [hread]⟩

/-- The same line changes and counts the same, but for the label's repetition. -/
theorem upToAdps_of_not_repaired {reading : LineReading} (hrepaired : reading.repaired = false)
    {off on : FieldMap} (h : off.UpToAdps on) :
    (reading.update off).UpToAdps (reading.update on) ∧
      (reading.count off 0).UpToAdps (reading.count on 0) := by
  rcases reading with ⟨outcome, repaired⟩
  cases hrepaired
  cases outcome with
  | field label value =>
    refine ⟨h.insert label value, ?_⟩
    -- the label may repeat in one map only; the counter of repetitions is left open
    cases hoff : off.contains label <;> cases hon : on.contains label <;>
      constructor <;> simp [count, repeats, hoff, hon, Stats.zero_def]
  | _ => exact ⟨h, .refl rfl⟩

/-- A line with the known miscount counts as a mismatch or as a repair. -/
theorem upToAdps_of_miscount {off on : FieldMap} (h : off.UpToAdps on) (value : String)
    (expected actual : UInt8) :
    (update ⟨.mismatch Wire.adps expected actual, false⟩ off).UpToAdps
        (update ⟨ofContent Wire.adps value, true⟩ on) ∧
      (count ⟨.mismatch Wire.adps expected actual, false⟩ off 0).UpToAdps
        (count ⟨ofContent Wire.adps value, true⟩ on 0) := by
  rcases ofContent_adps value with ⟨decoded, hcontent⟩ | ⟨why, hcontent⟩
  · rw [hcontent]
    refine ⟨h.insert_right decoded, ?_⟩
    cases hon : on.contains .adps <;> constructor <;> simp [count, repeats, hon, Stats.zero_def]
  · rw [hcontent]
    refine ⟨h, ?_⟩
    constructor <;> simp [count, Stats.zero_def]

end LineReading

namespace Gathered

/-- What one session gathered, and what the other did. -/
structure UpToAdps (off on : Gathered) : Prop where
  fields : off.fields.UpToAdps on.fields
  stats : off.stats.UpToAdps on.stats

theorem UpToAdps.take {off on : Gathered} (h : off.UpToAdps on) (line : List UInt8) :
    (off.take .disabled line).UpToAdps (on.take .enabled line) := by
  have hline : ((LineReading.ofBytes .disabled line).update off.fields).UpToAdps
        ((LineReading.ofBytes .enabled line).update on.fields) ∧
      ((LineReading.ofBytes .disabled line).count off.fields 0).UpToAdps
        ((LineReading.ofBytes .enabled line).count on.fields 0) := by
    rcases LineReading.ofBytes_enabled line with
      ⟨hsame, hrepaired⟩ | ⟨expected, actual, value, hoff, hon⟩
    · rw [hsame]
      exact LineReading.upToAdps_of_not_repaired hrepaired h.fields
    · rw [hoff, hon]
      exact LineReading.upToAdps_of_miscount h.fields value expected actual
  refine ⟨hline.1, ?_⟩
  rw [stats_take, stats_take]
  exact h.stats.add hline.2

theorem upToAdps_ofLines (lines : List (List UInt8)) :
    (ofLines .disabled lines).UpToAdps (ofLines .enabled lines) := by
  induction lines using List.reverseRecOn with
  | nil => exact ⟨.refl _, .refl rfl⟩
  | append_singleton front line ih =>
    rw [ofLines_concat, ofLines_concat]
    exact ih.take line

end Gathered

/-! ## Transmissions -/

namespace Transmission

theorem upToAdps_event (sequence : Nat) (t : Transmission) :
    (t.event .disabled sequence).UpToAdps (t.event .enabled sequence) := by
  unfold event
  by_cases hetx : t.closing = Wire.etx
  · rw [if_pos hetx, if_pos hetx, ← fields_ofLines, ← fields_ofLines]
    exact (Gathered.upToAdps_ofLines _).fields.event _ _
  · rw [if_neg hetx, if_neg hetx]
    exact .interrupted

theorem upToAdps_events (bytes : List UInt8) :
    List.Forall₂ Event.UpToAdps (events .disabled bytes) (events .enabled bytes) := by
  unfold events
  refine List.forall₂_iff_get.2 ⟨by simp, ?_⟩
  intro i hoff hon
  simpa using upToAdps_event i _

theorem upToAdps_tally (frame : Nat × List UInt8) :
    (tally .disabled frame).UpToAdps (tally .enabled frame) := by
  have hlines := Gathered.upToAdps_ofLines (taken frame)
  have hending : (ending (Gathered.ofLines .disabled (taken frame)).fields frame).UpToAdps
      (ending (Gathered.ofLines .enabled (taken frame)).fields frame) := by
    have hsame : ending (Gathered.ofLines .disabled (taken frame)).fields frame =
        ending (Gathered.ofLines .enabled (taken frame)).fields frame := by
      unfold ending
      rw [hlines.fields.stats]
    rcases ending_eq (Gathered.ofLines .enabled (taken frame)).fields frame with
      ⟨_, _, _, _, hframe, -⟩
    rw [hsame, hframe]
    exact .refl rfl
  exact hlines.stats.add hending

theorem upToAdps_stats (bytes : List UInt8) :
    (stats .disabled bytes).UpToAdps (stats .enabled bytes) :=
  Stats.UpToAdps.add (.refl rfl) (.sum upToAdps_tally _)

end Transmission

/-- Whatever the bytes, switching the repair on changes at most the label of the overcurrent
warning, and nothing of it that had been read is lost: every event stays in its place and of its
kind, and a mismatch that is counted no more is counted as a repair. -/
theorem Session.drain_upToAdps (bytes : List UInt8) :
    let off := (onBytes .disabled bytes).drain
    let on := (onBytes .enabled bytes).drain
    List.Forall₂ Event.UpToAdps (off.events.map Prod.fst) (on.events.map Prod.fst) ∧
      off.session.receiver.stats.UpToAdps on.session.receiver.stats := by
  intro off on
  rcases drain_onBytes .disabled bytes with ⟨hoff, -, -⟩
  rcases drain_onBytes .enabled bytes with ⟨hon, -, -⟩
  constructor
  · rw [hoff, hon, Receiver.emits_eq_events, Receiver.emits_eq_events]
    exact Transmission.upToAdps_events bytes
  · rw [stats_drain_onBytes, stats_drain_onBytes]
    exact Transmission.upToAdps_stats bytes

end TicMeter
