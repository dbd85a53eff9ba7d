import TicMeter.Proofs.Classification
import TicMeter.Proofs.RoundTrip

/-!
# Reencoding — a decoded frame, written again, is decoded to itself

What a frame was decoded from may be damaged, carry labels of other kinds, or write its values in
more than one way. What is left of it after decoding is written in one way only, and is read back.

* `Transmission.classify_of_mem_events`: the fields that a frame keeps are of its kind and of no
  other.
* `Event.ofFields_frame`: fields that are of their kind make a frame that drops nothing.
* `Session.drain_reencoded`: the frame comes out of its own lines, in whatever order they are sent.
-/

namespace TicMeter

/-! ## Classifying what was kept -/

/-- A frame keeps the labels that make it be of its kind. -/
theorem Event.classify_of_ofFields {fields : FieldMap} {span : Span} {sequence : Nat} {f : Frame}
    (h : ofFields fields span sequence = .frame f) :
    FrameKind.classify f.fields.contains = some f.kind := by
  unfold ofFields at h
  split at h
  · next kind hkind =>
    cases h
    refine FrameKind.classify_of_fewer hkind ?_ ?_
    · intro label hlabel
      rw [FieldMap.contains_restrict, Bool.and_eq_true] at hlabel
      exact hlabel.2
    · intro label hlabel
      rw [FieldMap.contains_restrict, Bool.and_eq_true]
      exact ⟨FrameKind.accepts_of_mem_mandatory hlabel,
        FrameKind.seen_of_classify hkind label hlabel⟩
  · cases h

theorem Transmission.classify_of_mem_events {repair : AdpsRepair} {bytes : List UInt8} {f : Frame}
    (h : .frame f ∈ events repair bytes) : FrameKind.classify f.fields.contains = some f.kind := by
  rcases List.mem_mapIdx.1 h with ⟨i, hi, hevent⟩
  unfold event at hevent
  split at hevent
  · exact Event.classify_of_ofFields hevent
  · cases hevent

namespace Event

/-- Fields that are all of the kind they are classified as make a frame that drops nothing. -/
theorem ofFields_frame {f : Frame} (hkind : FrameKind.classify f.fields.contains = some f.kind)
    (haccepted : ∀ label, f.fields.contains label → f.kind.accepts label) (span : Span)
    (sequence : Nat) :
    ofFields f.fields span sequence = .frame { f with span, sequence, discarded := [] } := by
  have hfields : f.fields.restrict f.kind.accepts = f.fields := by
    refine FieldMap.ext_get? fun label => ?_
    rw [FieldMap.get?_restrict]
    split
    · rfl
    · next hforeign =>
      have hmissing : f.fields.contains label = false := by
        simpa using mt (haccepted label) hforeign
      exact (Option.isNone_iff_eq_none.1 (by simpa [FieldMap.contains] using hmissing)).symm
  have hdiscarded : (f.fields.labels.filter fun label => !f.kind.accepts label) = [] := by
    simpa using haccepted
  unfold ofFields
  simp only [hkind, hfields, hdiscarded]

end Event

/-! ## Writing what was kept -/

/-- The lines that are written for the entries of a map, in any order, come to the map. -/
theorem Gathered.ofLines_written (repair : AdpsRepair) {m : FieldMap}
    {entries : List (Label × Value)} (hentries : entries.Perm m.entries)
    (hfits : ∀ entry ∈ entries, entry.1.rule.Fits entry.2) {lines : List (String × String)}
    (hwritten : Label.AreWritten entries lines) :
    (ofLines repair (Wire.lines (GroupLine.interior lines))).fields = m := by
  have hnew : ∀ entry ∈ entries, FieldMap.empty.contains entry.1 = false := by
    simp [FieldMap.contains]
  have hgather := foldl_take_written repair hwritten hfits (FieldMap.nodup_map_fst hentries)
    ⟨.empty, 0⟩ hnew
  rw [GroupLine.lines_interior (Label.plain_of_written hwritten hfits), ofLines, hgather,
    FieldMap.insertAll_of_perm hentries]

namespace Session

/-- The fields of a frame that came out of any bytes, sent in any order as the lines of one frame,
come out as this frame, with nothing to be dropped. -/
theorem drain_reencoded {repair : AdpsRepair} {bytes : List UInt8} {f : Frame}
    (hf : .frame f ∈ (onBytes repair bytes).drain.events.map Prod.fst)
    {entries : List (Label × Value)} (hentries : entries.Perm f.fields.entries)
    (repair' : AdpsRepair) :
    ∃ lines, Label.writeAll entries = some lines ∧
      let sent := GroupLine.encodeFrame lines
      let drained := (onBytes repair' sent).drain
      drained.events.map Prod.fst =
          [.frame { f with span := ⟨0, sent.length⟩, sequence := 0, discarded := [] }] ∧
        drained.ending = .ended := by
  rw [(drain_onBytes repair bytes).1] at hf
  -- a receiver that has read nothing is inside of no frame
  have hfresh : (Receiver.fresh repair).Sound := .of_phase_ne (by simp [Receiver.fresh])
  rcases (hfresh.run bytes).2 _ hf with ⟨hframe, -⟩
  have hkind : FrameKind.classify f.fields.contains = some f.kind := by
    rw [Receiver.emits_eq_events] at hf
    exact Transmission.classify_of_mem_events hf
  have hfits : ∀ entry ∈ entries, entry.1.rule.Fits entry.2 := by
    intro entry hentry
    exact hframe.fits (FieldMap.mem_entries.1 (hentries.mem_iff.1 hentry))
  rcases Label.writeAll_spec hfits with ⟨lines, hlines, hwritten⟩
  refine ⟨lines, hlines, ?_⟩
  intro sent drained
  have hplain := GroupLine.isBoundary_of_mem_interior (Label.plain_of_written hwritten hfits)
  rcases drain_frame repair' hplain with ⟨hevents, hending, -⟩
  rw [Gathered.ofLines_written repair' hentries hfits hwritten,
    Event.ofFields_frame hkind hframe.accepted] at hevents
  exact ⟨hevents, hending⟩

/-- A short frame after a transmission that was given up. It names the power, has numbers without
their zeros and a season before its date, and a line with a wrong checksum; sent again, backwards,
it comes out without any of these. -/
theorem drain_reencoded_short :
    let bytes := Wire.stx :: Wire.eot :: Wire.stx ::
      GroupLine.interior
        [("ADIR3", "0"), ("PAPP", "11220"), ("DATE", "E240305143000"), ("IINST1", "47"),
          ("IINST2", "1"), ("IINST3", "2"), ("ADIR1", "47"), ("ADIR2", "0"),
          ("ADCO", "012345678901")] ++
      Wire.lf :: Text.bytes "IMAX 060 ?" ++ [Wire.etx]
    let sent := GroupLine.encodeFrame
      [("DATE", "240305143000"), ("ADIR3", "000"), ("ADIR2", "000"), ("ADIR1", "047"),
        ("IINST3", "002"), ("IINST2", "001"), ("IINST1", "047"), ("ADCO", "012345678901")]
    ∃ f : Frame,
      .frame f ∈ (onBytes .disabled bytes).drain.events.map Prod.fst ∧ f.discarded = [.papp] ∧
        (onBytes .enabled sent).drain.events.map Prod.fst =
          [.frame { f with span := ⟨0, sent.length⟩, sequence := 0, discarded := [] }] := by
  intro bytes sent
  let f : Frame :=
    { kind := .cbetmShort
      fields := .ofFn fun
        | .adco => some (.text "012345678901")
        | .adir1 | .iinst1 => some (.integer 47)
        | .adir2 | .adir3 => some (.integer 0)
        | .iinst2 => some (.integer 1)
        | .iinst3 => some (.integer 2)
        | .date => (Timestamp.of? 2024 3 5 14 30 0).map .date
        | _ => none
      span := ⟨2, bytes.length⟩
      sequence := 1
      discarded := [.papp] }
  have hf : .frame f ∈ (onBytes .disabled bytes).drain.events.map Prod.fst := by
    decide +kernel
  have hlines : Label.writeAll f.fields.entries.reverse = some
      [("DATE", "240305143000"), ("ADIR3", "000"), ("ADIR2", "000"), ("ADIR1", "047"),
        ("IINST3", "002"), ("IINST2", "001"), ("IINST1", "047"), ("ADCO", "012345678901")] := by
    decide +kernel
  rcases drain_reencoded hf (List.reverse_perm _) .enabled with ⟨lines, hwritten, hevents, -⟩
  have hsame := Option.some.inj (hwritten.symm.trans hlines)
  subst hsame
  exact ⟨f, hf, rfl, hevents⟩

end Session
end TicMeter
