import TicMeter.Proofs.Accounting
import TicMeter.Proofs.Display
import TicMeter.Proofs.Report
import TicMeter.Proofs.Unambiguous
import TicMeter.Proofs.WellFormed

/-!
# Summary — a frame in a report is the frame that was decoded

In a report a frame has texts in place of its values, and a family with an option in place of its
kind. For frames that come from a meter nothing is lost by that.

* `Rule.toJson_inj`: of the values that fit one rule, no two have the same JSON value.
* `FrameSummary.ofFrame_inj`: so the frame is found again from its summary.
* `FrameSummary.toJson_inj`, `FrameSummary.written_toJson`: the summary is found again from its
  document, and from its text.
* `Session.summary_inj`: the frames that sessions answer are told apart by what a report says of
  them.
-/

namespace TicMeter

/-! ## Values -/

/-- The value of a field is found again from its JSON value, given what the rule of its label asks
for. -/
theorem Rule.toJson_inj {rule : Rule} {v w : Value} (hv : rule.Fits v) (hw : rule.Fits w)
    (h : v.toJson = w.toJson) : v = w := by
  -- the rule says of which kind both values are
  unfold Fits at hv
  split at hv
  · next m =>
    cases w with
    | integer n =>
      have hsame : (m.toNat : Int) = n.toNat := Json.integer.inj h
      rw [UInt32.toNat_inj.1 (Int.ofNat.inj hsame)]
    | _ => cases hw
  · next p =>
    cases w with
    | period q => rw [TariffPeriod.name_inj (Json.string.inj h)]
    | _ => cases hw
  · next c =>
    cases w with
    | tomorrow d => rw [DayColour.code_inj (Json.string.inj h)]
    | _ => cases hw
  · next g =>
    cases w with
    | schedule g' => rw [ScheduleGroup.code_inj (Json.string.inj h)]
    | _ => cases hw
  · next o =>
    cases w with
    | option o' => rw [TariffOption.display_inj (Json.string.inj h)]
    | _ => cases hw
  · next s =>
    cases w with
    | text s' =>
      have hsame : s = s' := Json.string.inj h
      rw [hsame]
    | _ => cases hw
  · next t =>
    cases w with
    | date u =>
      have ht : 0 ≤ t.year := by omega
      have hu : 0 ≤ u.year := Int.le_trans (by decide) hw.1
      rw [Timestamp.display_inj ht hu (Json.string.inj h)]
    | _ => cases hw
  · cases hv

theorem Value.written_toJson (v : Value) : v.toJson.Written := by
  cases v with
  | integer n => exact .integer n.toNat
  | _ => exact .string _

/-- A record of such values, some of which may be left out. -/
theorem Json.Written.ofFields {fields : List (String × Option Json)}
    (h : ∀ field ∈ fields, ∀ j ∈ field.2, j.Written) : (Json.ofFields fields).Written := by
  apply Json.Written.object
  intro m hm
  rcases List.mem_filterMap.1 hm with ⟨field, hfield, hm⟩
  rcases Option.map_eq_some_iff.1 hm with ⟨j, hj, rfl⟩
  exact h field hfield j hj

/-! ## Frames -/

/-- The family and the option make the kind. -/
theorem FrameKind.eq_of_family {k k' : FrameKind} (hfamily : k.family = k'.family)
    (hoption : k.option? = k'.option?) : k = k' := by
  cases k <;> cases k' <;> simp_all [family, option?]

namespace FrameSummary

section OfFrame

variable {f g : Frame}

/-- A field that one of the frames has stands in both summaries, and the other frame must have
it. -/
theorem get?_of_ofFrame_eq (hf : f.fields.Admitted) (hg : g.fields.Admitted)
    (h : ofFrame f = ofFrame g) {label : Label} {value : Value}
    (hget : f.fields.get? label = some value) : g.fields.get? label = some value := by
  have hentries : (ofFrame f).fields.entries = (ofFrame g).fields.entries := by rw [h]
  have hmem : (label.text, value.toJson) ∈ (ofFrame g).fields.entries := by
    rw [← hentries, (entries_ofFrame_perm f).mem_iff]
    exact List.mem_map.2 ⟨(label, value), FieldMap.mem_entries.2 hget, rfl⟩
  rw [(entries_ofFrame_perm g).mem_iff] at hmem
  rcases List.mem_map.1 hmem with ⟨⟨other, found⟩, hfound, hsame⟩
  rw [Prod.mk.injEq] at hsame
  rcases hsame with ⟨htext, hjson⟩
  cases Label.text_inj htext
  have hfoundGet := FieldMap.mem_entries.1 hfound
  have hvalue := Rule.toJson_inj (hg _ _ hfoundGet).fits (hf _ _ hget).fits hjson
  rw [hfoundGet, hvalue]

/-- Frames whose values their labels can have are told apart by their summaries. -/
theorem ofFrame_inj (hf : f.fields.Admitted) (hg : g.fields.Admitted)
    (h : ofFrame f = ofFrame g) : f = g := by
  have hkind : f.kind = g.kind :=
    FrameKind.eq_of_family (congrArg family h) (congrArg option h)
  have hspan : f.span = g.span := congrArg span h
  have hsequence : f.sequence = g.sequence := congrArg sequence h
  have hdiscarded : f.discarded = g.discarded :=
    List.map_injective_iff.2 (fun _ _ => Label.text_inj) (congrArg discardedLabels h)
  have hfields : f.fields = g.fields := by
    apply FieldMap.ext_get?
    intro label
    apply Option.ext
    intro value
    exact ⟨get?_of_ofFrame_eq hf hg h, get?_of_ofFrame_eq hg hf h.symm⟩
  cases f
  cases g
  congr

end OfFrame

end FrameSummary

/-! ## Documents -/

theorem Span.toJson_inj {a b : Span} (h : a.toJson = b.toJson) : a = b := by
  rcases a with ⟨start, stop⟩
  rcases b with ⟨start', stop'⟩
  have hends : (start : Int) = start' ∧ (stop : Int) = stop' := by simpa [toJson] using h
  rw [Int.ofNat.inj hends.1, Int.ofNat.inj hends.2]

namespace FrameSummary

/-- A summary is found again from its document, whatever numbers are in it. -/
theorem toJson_inj {a b : FrameSummary} (h : a.toJson = b.toJson) : a = b := by
  have record (s : FrameSummary) :
      s.toJson.asRecord? ["sequence", "span", "family", "option", "fields", "discarded_labels"] =
        some [some (.integer s.sequence), some s.span.toJson, some (.string s.family.word),
          s.option.map (.string ·.word), some (.object s.fields.entries),
          Json.listField s.discardedLabels] := by
    rw [toJson_eq]
    exact Json.asRecord?_ofFields (by simp)
  -- the members are found by their keys, and each of them is told apart in its own way
  have hfields := record a
  rw [h, record b] at hfields
  simp only [Option.some.injEq, List.cons.injEq, Json.integer.injEq, Json.object.injEq, and_true]
    at hfields
  rcases hfields with ⟨hsequence, hspan, hfamily, hoption, hentries, hdiscarded⟩
  have hfamilies : a.family = b.family := by
    have hword := congrArg MeterFamily.ofJson? hfamily
    rwa [MeterFamily.ofJson?_word, MeterFamily.ofJson?_word, Option.some.injEq, eq_comm] at hword
  have hoptions : a.option = b.option := by
    have hword := congrArg option? hoption
    rwa [option?_word, option?_word, Option.some.injEq, eq_comm] at hword
  have hlabels : a.discardedLabels = b.discardedLabels := by
    have htexts := congrArg Json.asTexts? hdiscarded
    rwa [Json.asTexts?_listField, Json.asTexts?_listField, Option.some.injEq, eq_comm] at htexts
  have hmaps : a.fields = b.fields := KeyMap.eq_of_perm (by rw [hentries])
  have hspans : a.span = b.span := Span.toJson_inj hspan.symm
  have hnumbers : a.sequence = b.sequence := Int.ofNat.inj hsequence.symm
  cases a
  cases b
  congr

theorem written_toJson (f : Frame) : (ofFrame f).toJson.Written := by
  have hspan : (ofFrame f).span.toJson.Written :=
    .object (by simp [Json.Written.integer])
  have hfields : (Json.object (ofFrame f).fields.entries).Written := by
    apply Json.Written.object
    intro entry hentry
    rw [(entries_ofFrame_perm f).mem_iff] at hentry
    rcases List.mem_map.1 hentry with ⟨⟨label, value⟩, -, rfl⟩
    exact value.written_toJson
  have hlabels : ∀ j ∈ Json.listField (ofFrame f).discardedLabels, j.Written := by
    intro j hj
    unfold Json.listField at hj
    split at hj
    · cases hj
    · cases hj
      exact .array (by simp [Json.Written.string])
  rw [toJson_eq]
  apply Json.Written.ofFields
  simpa [Json.Written.integer, Json.Written.string, hfields, hspan] using hlabels

end FrameSummary

/-! ## Sessions -/

namespace Session

open FrameSummary (ofFrame)

variable {σ τ : Type} [ByteSource σ] [ByteSource τ]

/-- The fields of a frame that is answered are values that their labels can have. -/
theorem admitted_of_reachable {repair : AdpsRepair} {source : σ} {s : Session σ}
    (h : Reachable repair source s) {f : Frame} (hf : s.next.answer = .event (.frame f)) :
    f.fields.Admitted :=
  ((sound_next h.sound).2 _ hf).1.admitted

/-- What a report says of a frame tells it from all others: of two frames that sessions answer, over
any sources and however they repair, the summaries are the same, and so are their compact texts,
only if the frames are. In particular no two values that a label can have are written alike. -/
theorem summary_inj {repair repair' : AdpsRepair} {source : σ} {source' : τ} {s : Session σ}
    {t : Session τ} (hs : Reachable repair source s) (ht : Reachable repair' source' t)
    {f g : Frame} (hf : s.next.answer = .event (.frame f)) (hg : t.next.answer = .event (.frame g)) :
    (ofFrame f = ofFrame g → f = g) ∧
      ((ofFrame f).toJson.render .compact = (ofFrame g).toJson.render .compact ↔
        ofFrame f = ofFrame g) ∧
      ∀ (label : Label) (v w : Value), label.Admits v → label.Admits w →
        v.toJson.render .compact = w.toJson.render .compact → v = w := by
  refine ⟨?_, ⟨?_, ?_⟩, ?_⟩
  · exact FrameSummary.ofFrame_inj (admitted_of_reachable hs hf) (admitted_of_reachable ht hg)
  · intro htext
    have hjson := (FrameSummary.written_toJson f).render_inj (FrameSummary.written_toJson g) htext
    exact FrameSummary.toJson_inj hjson
  · intro hsummary
    rw [hsummary]
  · intro label v w hv hw htext
    have hjson := v.written_toJson.render_inj w.written_toJson htext
    exact Rule.toJson_inj hv.fits hw.fits hjson

/-- Two short frames that differ in the current of one phase. -/
theorem summary_inj_short :
    let bytes (current : String) := GroupLine.encodeFrame
      [("ADCO", "012345678901"), ("ADIR1", "047"), ("ADIR2", "000"), ("ADIR3", "000"),
        ("IINST1", current), ("IINST2", "001"), ("IINST3", "002")]
    ∃ f g : Frame,
      (onBytes .disabled (bytes "047")).next.answer = .event (.frame f) ∧
        (onBytes .enabled (bytes "048")).next.answer = .event (.frame g) ∧
        (ofFrame f).toJson.render .compact ≠ (ofFrame g).toJson.render .compact := by
  intro bytes
  let short (current : UInt32) : Frame :=
    { kind := .cbetmShort
      fields := .ofFn fun
        | .adco => some (.text "012345678901")
        | .adir1 => some (.integer 47)
        | .adir2 | .adir3 => some (.integer 0)
        | .iinst1 => some (.integer current)
        | .iinst2 => some (.integer 1)
        | .iinst3 => some (.integer 2)
        | _ => none
      span := ⟨0, (bytes "047").length⟩
      sequence := 0
      discarded := [] }
  have hf : (onBytes .disabled (bytes "047")).next.answer = .event (.frame (short 47)) := by
    decide +kernel
  have hg : (onBytes .enabled (bytes "048")).next.answer = .event (.frame (short 48)) := by
    decide +kernel
  have hne : short 47 ≠ short 48 := by decide +kernel
  rcases summary_inj .start .start hf hg with ⟨hframe, htext, -⟩
  refine ⟨short 47, short 48, hf, hg, ?_⟩
  intro hsame
  exact hne (hframe (htext.1 hsame))

end Session
end TicMeter
