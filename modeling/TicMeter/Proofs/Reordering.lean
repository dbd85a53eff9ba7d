import TicMeter.Proofs.Encoding
import TicMeter.Proofs.Fields
import TicMeter.Proofs.Interior

/-!
# Reordering — the order of the lines of a frame does not matter

Only the latest value of a label stays, so lines of one label have to keep their order. All other
lines may change places: neither sees what the other one leaves.

* `Reorders`: the same lines in another order, in which the lines of every label keep theirs.
* `Gathered.take_comm`: two lines that are not of one label come to the same in either order.
* `Reorders.foldl_take`: so do all lines, by moving one after the other to the place that it has.
* `Session.drain_reordered`: in whatever recording the frame stands, nothing that is drained
  changes.
-/

namespace TicMeter

/-! ## Other orders -/

/-- The label of the vocabulary that the line bears, if it can be taken apart. -/
def GroupLine.label? (line : List UInt8) : Option Label :=
  match parse line with
  | .ok parts => Label.ofText? parts.label
  | .error _ => none

/-- The lines in another order, but those that bear the same label. -/
structure Reorders (lines lines' : List (List UInt8)) : Prop where
  perm : lines'.Perm lines
  keeps : ∀ label : Label,
    lines'.filter (GroupLine.label? · = some label) = lines.filter (GroupLine.label? · = some label)

namespace Reorders

variable {line : List UInt8} {lines lines' rest : List (List UInt8)}

theorem filter (h : Reorders lines lines') (keep : List UInt8 → Bool) :
    Reorders (lines.filter keep) (lines'.filter keep) := by
  refine ⟨h.perm.filter keep, ?_⟩
  intro label
  rw [List.filter_comm, h.keeps label, List.filter_comm]

/-- The first line stands somewhere in the other order, behind lines that do not bear its label. -/
theorem exists_split (h : Reorders (line :: rest) lines') :
    ∃ front back, lines' = front ++ line :: back ∧ Reorders rest (front ++ back) ∧
      ∀ other ∈ front, ∀ label, GroupLine.label? line = some label →
        GroupLine.label? other ≠ some label := by
  have hsplit : ∃ front back, lines' = front ++ line :: back ∧
      ∀ other ∈ front, ∀ label, GroupLine.label? line = some label →
        GroupLine.label? other ≠ some label := by
    cases hlabel : GroupLine.label? line with
    | none =>
      rcases List.append_of_mem (h.perm.mem_iff.2 List.mem_cons_self) with ⟨front, back, hsplit⟩
      exact ⟨front, back, hsplit, by simp⟩
    | some label =>
      -- of the lines that bear the label it is the first one
      have hkeeps := h.keeps label
      rw [List.filter_cons_of_pos (by simpa using hlabel)] at hkeeps
      rcases List.filter_eq_cons_iff.1 hkeeps with ⟨front, back, hsplit, hfront, -, -⟩
      refine ⟨front, back, hsplit, ?_⟩
      intro other hother found hfound
      cases hfound
      simpa using hfront other hother
  rcases hsplit with ⟨front, back, rfl, hfront⟩
  refine ⟨front, back, rfl, ⟨?_, ?_⟩, hfront⟩
  · exact (List.perm_middle.symm.trans h.perm).cons_inv
  · intro label
    have hkeeps := h.keeps label
    rw [List.filter_append] at hkeeps ⊢
    by_cases hlabel : GroupLine.label? line = some label
    · have hnone : front.filter (GroupLine.label? · = some label) = [] := by
        rw [List.filter_eq_nil_iff]
        intro other hother
        simpa using hfront other hother label hlabel
      simpa [hnone, hlabel] using hkeeps
    · simpa [hlabel] using hkeeps

end Reorders

/-! ## Lines that change places -/

namespace LineReading

/-- The readings do not both give a value to one label. -/
def Apart (a b : LineReading) : Prop :=
  ∀ label value value', a.outcome = .field label value → b.outcome ≠ .field label value'

variable {a b : LineReading}

theorem Apart.symm (h : Apart a b) : Apart b a :=
  fun label value value' hb ha => h label value' value ha hb

theorem update_comm (h : Apart a b) (fields : FieldMap) :
    b.update (a.update fields) = a.update (b.update fields) := by
  unfold update
  cases ha : a.outcome with
  | field label value =>
    cases hb : b.outcome with
    | field label' value' =>
      have hne : label ≠ label' := by
        rintro rfl
        exact h label value value' ha hb
      apply FieldMap.ext_get?
      intro other
      simp only [FieldMap.get?_insert]
      by_cases hsame : label' = other
      · have hother : label ≠ other := by rwa [← hsame]
        simp [hsame, hother]
      · simp [hsame]
    | _ => rfl
  | _ => rfl

/-- A value under another label is no repetition. -/
theorem repeats_update (h : Apart a b) (fields : FieldMap) :
    b.repeats (a.update fields) = b.repeats fields := by
  unfold repeats
  cases hb : b.outcome with
  | field label' value' =>
    unfold update
    cases ha : a.outcome with
    | field label value =>
      have hne : label ≠ label' := by
        rintro rfl
        exact h label value value' ha hb
      simp [FieldMap.contains_insert, hne]
    | _ => rfl
  | _ => rfl

theorem count_update (h : Apart a b) (fields : FieldMap) (stats : Stats) :
    b.count (a.update fields) stats = b.count fields stats := by
  unfold count
  rw [repeats_update h]

/-- A line gives a value to no other label than the one it bears. -/
theorem label?_of_outcome {repair : AdpsRepair} {line : List UInt8} {label : Label} {value : Value}
    (h : (ofBytes repair line).outcome = .field label value) :
    GroupLine.label? line = some label := by
  unfold ofBytes at h
  unfold GroupLine.label?
  cases hparse : GroupLine.parse line with
  | error why => simp [hparse] at h
  | ok parts =>
    have hcontent : ofContent parts.label parts.value = .field label value := by
      simp only [hparse] at h
      split at h
      · cases h
      · exact h
      · exact h
    unfold ofContent at hcontent
    split at hcontent
    · cases hcontent
    · next found hfound =>
      split at hcontent <;> cases hcontent
      exact hfound

end LineReading

namespace Gathered

variable (repair : AdpsRepair)

/-- Two lines that do not bear one label come to the same in either order. -/
theorem take_comm {line other : List UInt8}
    (h : ∀ label, GroupLine.label? line = some label → GroupLine.label? other ≠ some label)
    (sum : Gathered) :
    (sum.take repair other).take repair line = (sum.take repair line).take repair other := by
  have hapart : LineReading.Apart (.ofBytes repair line) (.ofBytes repair other) := by
    intro label value value' hline hother
    exact h label (LineReading.label?_of_outcome hline) (LineReading.label?_of_outcome hother)
  have hfields : ((sum.take repair other).take repair line).fields =
      ((sum.take repair line).take repair other).fields :=
    (LineReading.update_comm hapart sum.fields).symm
  have hstats : ((sum.take repair other).take repair line).stats =
      ((sum.take repair line).take repair other).stats := by
    -- what either line counts hangs on no value of the other one
    rw [stats_take, stats_take, stats_take, stats_take, take, take,
      LineReading.count_update hapart, LineReading.count_update hapart.symm]
    exact add_right_comm _ _ _
  exact congrArg₂ Gathered.mk hfields hstats

/-- A line moves to the front of lines that do not bear its label. -/
theorem foldl_take_middle {line : List UInt8} {front : List (List UInt8)}
    (h : ∀ other ∈ front, ∀ label, GroupLine.label? line = some label →
      GroupLine.label? other ≠ some label)
    (back : List (List UInt8)) (sum : Gathered) :
    (front ++ line :: back).foldl (take repair) sum =
      (front ++ back).foldl (take repair) (sum.take repair line) := by
  induction front generalizing sum with
  | nil => rfl
  | cons other rest ih =>
    rw [List.cons_append, List.foldl_cons, ih fun more hmore => h more (by simp [hmore]),
      take_comm repair (h other (by simp)), List.cons_append, List.foldl_cons]

end Gathered

/-- Lines in another order come to the same. -/
theorem Reorders.foldl_take {lines lines' : List (List UInt8)} (h : Reorders lines lines')
    (repair : AdpsRepair) (sum : Gathered) :
    lines'.foldl (Gathered.take repair) sum = lines.foldl (Gathered.take repair) sum := by
  induction lines generalizing lines' sum with
  | nil => rw [List.perm_nil.1 h.perm]
  | cons line rest ih =>
    rcases h.exists_split with ⟨front, back, rfl, hrest, hfront⟩
    rw [Gathered.foldl_take_middle repair hfront, ih hrest, List.foldl_cons]

/-! ## Frames -/

namespace Receiver

/-- An `stx` opens a frame wherever it comes, unless the source has failed. -/
theorem exists_openFrame_step {r : Receiver} (h : r.phase ≠ .faulted) :
    ∃ opened : Receiver, opened.position = r.position + 1 ∧
      (r.step Wire.stx).next = opened.openFrame r.position := by
  cases hphase : r.phase with
  | faulted => exact absurd hphase h
  | reading frame =>
    exact ⟨(r.counted.interrupt frame r.position).1, rfl, by simp [step, hphase, stepInFrame]; rfl⟩
  | seeking => exact ⟨_, rfl, (step_between_stx (.inl hphase)).2⟩
  | complete => exact ⟨_, rfl, (step_between_stx (.inr hphase)).2⟩

/-- A frame with its lines in another order leads to the same. -/
theorem run_frame_of_reorders {lines lines' : List (List UInt8)} (h : Reorders lines lines')
    (hplain : ∀ line ∈ lines, Wire.IsPlain line) {r : Receiver} (hphase : r.phase ≠ .faulted) :
    r.after (Wire.frame lines') = r.after (Wire.frame lines) ∧
      r.emits (Wire.frame lines') = r.emits (Wire.frame lines) := by
  have hplain' : ∀ line ∈ lines', Wire.IsPlain line :=
    fun line hline => hplain line (h.perm.mem_iff.1 hline)
  -- what a frame's end looks at is how far it is read and what its lines sum up to
  have hlength : (Wire.delimited lines').length = (Wire.delimited lines).length :=
    (h.perm.flatMap_right _).length_eq
  rcases exists_openFrame_step hphase with ⟨opened, hposition, hopened⟩
  have hsum : Gathered.ofLines opened.repair (Wire.lines (Wire.delimited lines')) =
      Gathered.ofLines opened.repair (Wire.lines (Wire.delimited lines)) := by
    rw [Wire.lines_delimited hplain, Wire.lines_delimited hplain']
    exact (h.filter _).foldl_take opened.repair _
  rcases after_openFrame opened r.position _ hposition (Wire.isBoundary_of_mem_delimited hplain)
    with ⟨hafter, hemits⟩
  rcases after_openFrame opened r.position _ hposition (Wire.isBoundary_of_mem_delimited hplain')
    with ⟨hafter', hemits'⟩
  rcases step_inFrame_etx opened r.position (Wire.delimited lines) hposition with ⟨hevent, hnext⟩
  rcases step_inFrame_etx opened r.position (Wire.delimited lines') hposition with
    ⟨hevent', hnext'⟩
  rw [hsum, hlength] at hevent' hnext'
  constructor
  · rw [Wire.frame, Wire.frame, List.cons_append, List.cons_append, after_cons, after_cons,
      hopened, after_concat, after_concat, hafter, hafter', hnext, hnext']
  · rw [Wire.frame, Wire.frame, List.cons_append, List.cons_append, emits_cons, emits_cons,
      hopened, emits_concat, emits_concat, hafter, hafter', hemits, hemits', hevent, hevent']

end Receiver

namespace Session

/-- The order of the lines of a frame does not matter, as long as those that bear the same label
keep theirs: whatever stands before and behind the frame, the same events come out, and the receiver
ends in the same state, counters included. -/
theorem drain_reordered (repair : AdpsRepair) {lines lines' : List (List UInt8)}
    (hplain : ∀ line ∈ lines, Wire.IsPlain line) (h : Reorders lines lines')
    (front back : List UInt8) :
    let drained := (onBytes repair (front ++ Wire.frame lines ++ back)).drain
    let reordered := (onBytes repair (front ++ Wire.frame lines' ++ back)).drain
    reordered.events.map Prod.fst = drained.events.map Prod.fst ∧
      reordered.ending = drained.ending ∧
      reordered.session.receiver = drained.session.receiver := by
  intro drained reordered
  have hphase := Receiver.phase_after_fresh_ne_faulted repair front
  rcases Receiver.run_frame_of_reorders h hplain hphase with ⟨hafter, hemits⟩
  rcases drain_onBytes repair (front ++ Wire.frame lines ++ back) with
    ⟨hevents, hending, hreceiver⟩
  rcases drain_onBytes repair (front ++ Wire.frame lines' ++ back) with
    ⟨hevents', hending', hreceiver'⟩
  simp only [Receiver.after_append, Receiver.emits_append] at hevents hevents' hreceiver hreceiver'
  rw [hafter, hemits] at hevents'
  rw [hafter] at hreceiver'
  exact ⟨hevents'.trans hevents.symm, hending'.trans hending.symm,
    hreceiver'.trans hreceiver.symm⟩

/-- A current that is corrected, with a power and a line that cannot be read around it. -/
theorem drain_reordered_current :
    let early := GroupLine.content "IINST" "007"
    let late := GroupLine.content "IINST" "008"
    let power := GroupLine.content "PAPP" "02830"
    let lines := [early, [0xFF], late, power]
    let lines' := [power, early, late, [0xFF]]
    (∀ line ∈ lines, Wire.IsPlain line) ∧ Reorders lines lines' ∧
      (onBytes .disabled (Wire.eot :: Wire.frame lines' ++ [])).drain.events.map Prod.fst =
        (onBytes .disabled (Wire.eot :: Wire.frame lines ++ [])).drain.events.map Prod.fst := by
  intro early late power lines lines'
  have hplain : ∀ line ∈ lines, Wire.IsPlain line := by decide +kernel
  have hkeeps : ∀ label ∈ Label.all,
      lines'.filter (GroupLine.label? · = some label) =
        lines.filter (GroupLine.label? · = some label) := by
    decide +kernel
  have hreorders : Reorders lines lines' :=
    ⟨by decide +kernel, fun label => hkeeps label label.mem_all⟩
  exact ⟨hplain, hreorders, (drain_reordered .disabled hplain hreorders [Wire.eot] []).1⟩

end Session
end TicMeter
