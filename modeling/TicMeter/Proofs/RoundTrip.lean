import TicMeter.Proofs.Encoding
import TicMeter.Proofs.Transmission
import TicMeter.Proofs.WellFormed

/-!
# RoundTrip — a field map survives the wire

The entries of a map, in any order, are written as lines and put into a frame; a session on that
frame gives the map back, classified.

* `Label.writeAll_spec`: every entry of a map whose values its labels can have is written.
* `Gathered.foldl_take_written`: written lines with different labels are gathered without loss, and
  nothing but the number of lines is counted.
* `Session.drain_encodeFrame`: the session on the frame gives one event, made of the map.
-/

namespace TicMeter

/-! ## Writing entries -/

namespace Label

/-- The line of an entry as texts, if its value can be written under its label. -/
def writeEntry (entry : Label × Value) : Option (String × String) :=
  (entry.1.write entry.2).map (entry.1.text, ·)

def writeAll (entries : List (Label × Value)) : Option (List (String × String)) :=
  entries.mapM writeEntry

abbrev AreWritten (entries : List (Label × Value)) (lines : List (String × String)) : Prop :=
  List.Forall₂ (fun entry texts => writeEntry entry = some texts) entries lines

theorem writeEntry_eq_some {entry : Label × Value} {texts : String × String} :
    writeEntry entry = some texts ↔
      entry.1.write entry.2 = some texts.2 ∧ texts.1 = entry.1.text := by
  rcases texts with ⟨label, value⟩
  cases hwrite : entry.1.write entry.2 <;> simp [writeEntry, hwrite, and_comm, eq_comm]

theorem writeAll_spec {entries : List (Label × Value)}
    (h : ∀ entry ∈ entries, entry.1.rule.Fits entry.2) :
    ∃ lines, writeAll entries = some lines ∧ AreWritten entries lines := by
  induction entries with
  | nil => exact ⟨[], rfl, .nil⟩
  | cons entry rest ih =>
    rcases read_write (h entry (by simp)) with ⟨s, hwrite, -⟩
    rcases ih fun other hother => h other (by simp [hother]) with ⟨lines, hlines, hwritten⟩
    have hentry : writeEntry entry = some (entry.1.text, s) := writeEntry_eq_some.2 ⟨hwrite, rfl⟩
    refine ⟨(entry.1.text, s) :: lines, ?_, .cons hentry hwritten⟩
    unfold writeAll at hlines ⊢
    simp [List.mapM_cons, hentry, hlines]

/-- Written lines have no control bytes. -/
theorem plain_of_written {entries : List (Label × Value)} {lines : List (String × String)}
    (h : AreWritten entries lines) (hfits : ∀ entry ∈ entries, entry.1.rule.Fits entry.2) :
    ∀ texts ∈ lines, ∀ b ∈ GroupLine.content texts.1 texts.2,
      Wire.isDelimiter b = false ∧ Wire.isBoundary b = false := by
  induction h with
  | nil =>
    intro texts hmem
    cases hmem
  | @cons entry texts entries lines hentry _ ih =>
    rcases writeEntry_eq_some.1 hentry with ⟨hwrite, htext⟩
    intro other hmem
    rcases List.mem_cons.1 hmem with rfl | hmem
    · rw [htext]
      exact (GroupLine.isPlain_of_all_isGraphic entry.1.text_spec.1
        (isGraphic_of_write (hfits entry (by simp)) hwrite).1).plain_content
    · exact ih (fun later hlater => hfits later (by simp [hlater])) other hmem

end Label

/-! ## Reading what was written -/

namespace Gathered

theorem take_written {label : Label} {value : Value} {s : String}
    (hfits : label.rule.Fits value) (hwrite : label.write value = some s) (repair : AdpsRepair)
    (sum : Gathered) (hnew : sum.fields.contains label = false) :
    sum.take repair (GroupLine.content label.text s) =
      ⟨sum.fields.insert label value, sum.stats + { linesTotal := 1 }⟩ := by
  have hreading := LineReading.ofBytes_content hfits hwrite repair
  simp [take, hreading, LineReading.update, LineReading.count, LineReading.repeats, hnew,
    Stats.add_def, Stats.add]

/-- Written lines with different labels are gathered without loss. -/
theorem foldl_take_written (repair : AdpsRepair) {entries : List (Label × Value)}
    {lines : List (String × String)} (h : Label.AreWritten entries lines)
    (hfits : ∀ entry ∈ entries, entry.1.rule.Fits entry.2)
    (hnodup : (entries.map Prod.fst).Nodup) (sum : Gathered)
    (hnew : ∀ entry ∈ entries, sum.fields.contains entry.1 = false) :
    (lines.map fun text => GroupLine.content text.1 text.2).foldl (take repair) sum =
      ⟨sum.fields.insertAll entries, sum.stats + { linesTotal := entries.length }⟩ := by
  induction h generalizing sum with
  | nil =>
    have hzero : sum.stats + { linesTotal := 0 } = sum.stats := add_zero sum.stats
    simp [FieldMap.insertAll, hzero]
  | @cons entry texts entries lines hentry _ ih =>
    rcases Label.writeEntry_eq_some.1 hentry with ⟨hwrite, htext⟩
    rcases List.nodup_cons.1 hnodup with ⟨hfresh, hrest⟩
    have htake := take_written (hfits entry (by simp)) hwrite repair sum (hnew entry (by simp))
    -- the labels that are still to come differ from the one that was just inserted
    have hlater : ∀ other ∈ entries,
        (sum.fields.insert entry.1 entry.2).contains other.1 = false := by
      intro other hother
      have hne : entry.1 ≠ other.1 := by
        intro hsame
        exact hfresh (hsame ▸ List.mem_map_of_mem hother)
      have hbefore := hnew other (by simp [hother])
      simpa [FieldMap.contains, FieldMap.get?_insert, hne] using hbefore
    have hgather := ih (fun other hother => hfits other (by simp [hother])) hrest
      ⟨sum.fields.insert entry.1 entry.2, sum.stats + { linesTotal := 1 }⟩ hlater
    rw [List.map_cons, List.foldl_cons, htext, htake, hgather]
    simp [FieldMap.insertAll_cons, Stats.add_def, Stats.add, Nat.add_comm 1, Nat.add_assoc]

end Gathered

namespace Session

/-- The entries of a map whose values its labels can have, sent in any order as the lines of one
frame, are decoded into one event, made of the map. Every line is counted, and none as faulty. -/
theorem drain_encodeFrame (repair : AdpsRepair) {m : FieldMap} (hm : m.Admitted)
    {entries : List (Label × Value)} (hentries : entries.Perm m.entries) :
    ∃ lines, Label.writeAll entries = some lines ∧
      let bytes := GroupLine.encodeFrame lines
      let drained := (onBytes repair bytes).drain
      drained.events.map Prod.fst = [.ofFields m ⟨0, bytes.length⟩ 0] ∧
        drained.ending = .ended ∧
        drained.session.receiver.stats =
          { bytesRead := bytes.length, linesTotal := m.size } + .ofFields m := by
  have hfits : ∀ entry ∈ entries, entry.1.rule.Fits entry.2 := by
    intro entry hentry
    exact (hm _ _ (FieldMap.mem_entries.1 (hentries.mem_iff.1 hentry))).fits
  rcases Label.writeAll_spec hfits with ⟨lines, hlines, hwritten⟩
  refine ⟨lines, hlines, ?_⟩
  intro bytes drained
  have hplain := Label.plain_of_written hwritten hfits
  have hlabels : (entries.map Prod.fst).Nodup := FieldMap.nodup_map_fst hentries
  -- the labels of a map differ, so no line repeats one
  have hsize : entries.length = m.size := by
    rw [hentries.length_eq, FieldMap.size, ← FieldMap.map_fst_entries, List.length_map]
  have hsum : Gathered.ofLines repair (Wire.lines (GroupLine.interior lines)) =
      ⟨m, { linesTotal := m.size }⟩ := by
    have hempty : ∀ entry ∈ entries, FieldMap.empty.contains entry.1 = false := by
      simp [FieldMap.contains]
    have hgather := Gathered.foldl_take_written repair hwritten hfits hlabels ⟨.empty, 0⟩ hempty
    rw [GroupLine.lines_interior hplain, Gathered.ofLines, hgather,
      FieldMap.insertAll_of_perm hentries, hsize, zero_add]
  -- the frame is the whole recording: its event is the only one, and it ends at the last byte
  rcases drain_onBytes repair bytes with ⟨hevents, hending, hreceiver⟩
  rcases Receiver.run_frame repair (GroupLine.isBoundary_of_mem_interior hplain) with
    ⟨hemits, hstats⟩
  rw [hsum] at hemits hstats
  refine ⟨hevents.trans hemits, hending, ?_⟩
  rw [hreceiver]
  refine hstats.trans ?_
  simp [bytes, GroupLine.encodeFrame_eq, Stats.add_def, Stats.add]

/-- Nine fields in another order than that of the vocabulary; one of them is of no single-phase
frame, and one number is wider than its label asks for. -/
theorem drain_encodeFrame_hc :
    let lines :=
      [("PPOT", "0F"), ("PTEC", "HC.."), ("IMAX", "040"), ("HHPHC", "E"), ("IINST", "1000"),
        ("ADCO", "031762120162"), ("HCHP", "000000012"), ("ISOUSC", "30"), ("HCHC", "4294967295")]
    let bytes := GroupLine.encodeFrame lines
    let drained := (onBytes .enabled bytes).drain
    drained.ending = .ended ∧ ∃ f : Frame,
      drained.events.map Prod.fst = [.frame f] ∧ f.kind = .cbemm .hc ∧ f.discarded = [.ppot] ∧
        drained.session.receiver.stats =
          { bytesRead := bytes.length, linesTotal := 9, framesDecoded := 1 } := by
  intro lines bytes drained
  let entries : List (Label × Value) :=
    [(.ppot, .text "0F"), (.ptec, .period .hc), (.imax, .integer 40), (.hhphc, .schedule .e),
      (.iinst, .integer 1000), (.adco, .text "031762120162"), (.hchp, .integer 12),
      (.isousc, .integer 30), (.hchc, .integer 4294967295)]
  let m := FieldMap.empty.insertAll entries
  have hm : m.Admitted := by
    refine FieldMap.Admitted.empty.insertAll ?_
    simp only [entries, List.forall_mem_cons]
    refine ⟨?_, ?_, ?_, ?_, ?_, ?_, ?_, ?_, ?_, by simp⟩
    all_goals
      exact Label.admits_iff.2 (by trivial)
  have hentries : entries.Perm m.entries := by decide +kernel
  have hlines : Label.writeAll entries = some lines := by decide +kernel
  have hevent : Event.ofFields m ⟨0, bytes.length⟩ 0 = .frame
      { kind := .cbemm .hc
        fields := m.restrict (FrameKind.cbemm .hc).accepts
        span := ⟨0, bytes.length⟩
        sequence := 0
        discarded := [.ppot] } := by
    decide +kernel
  have hcounted : ({ bytesRead := bytes.length, linesTotal := m.size } : Stats) + .ofFields m =
      { bytesRead := bytes.length, linesTotal := 9, framesDecoded := 1 } := by
    decide +kernel
  rcases drain_encodeFrame .enabled hm hentries with ⟨texts, htexts, hevents, hending, hstats⟩
  have hsame : texts = lines := Option.some.inj (htexts.symm.trans hlines)
  subst hsame
  exact ⟨hending, _, hevents.trans (by rw [hevent]), rfl, rfl, hstats.trans hcounted⟩

end Session
end TicMeter
