import TicMeter.Proofs.Tiling

/-!
# Repetition — labels that a frame repeats

A frame may name a label more than once, and a line may say of its label that it has no value. The
latest value counts: what comes after it can be a line that is not understood, or one that says that
there is no value, and neither takes the value back.

* `Transmission.statements`: what the lines of a frame say, in their order.
* `Transmission.IsLatest`: the value of a label after which no other is given.
* `Transmission.get?_fields_of_isLatest`, `Transmission.get?_fields_of_forall`: the fields of a frame
  hold the latest values and no others.
* `Session.drain_repeated`: the event of a frame carries the latest value of every label, and omits
  the labels of which no line gives a value.
* `Session.drain_voided_colour`: a colour stays in the frame though its last line says that there is
  none.
-/

namespace TicMeter

/-! ## What lines say -/

/-- What a line says of a label, once it is understood: a value, or that there is none. -/
def LineOutcome.statement? : LineOutcome → Option (Label × Option Value)
  | .field label value => some (label, some value)
  | .void label => some (label, none)
  | .unreadable _ | .mismatch .. | .unknownLabel _ | .unconvertible _ => none

namespace Transmission

def statements (repair : AdpsRepair) (interior : List UInt8) : List (Label × Option Value) :=
  (Wire.lines interior).filterMap fun line => (LineReading.ofBytes repair line).outcome.statement?

/-- A value that is given to the label, and after which no other one is. -/
def IsLatest (label : Label) (value : Value) (said : List (Label × Option Value)) : Prop :=
  ∃ front back, said = front ++ (label, some value) :: back ∧
    ∀ later ∈ back, later.1 = label → later.2 = none

def given (said : List (Label × Option Value)) : List (Label × Value) :=
  said.filterMap fun (label, value?) => value?.map (label, ·)

/-- The fields of the lines are the values that they give. -/
theorem filterMap_field? (repair : AdpsRepair) (interior : List UInt8) :
    (Wire.lines interior).filterMap (field? repair) = given (statements repair interior) := by
  unfold given statements
  rw [List.filterMap_filterMap]
  apply List.filterMap_congr
  intro line _
  rw [field?_eq]
  cases (LineReading.ofBytes repair line).outcome <;> rfl

/-! ## The latest value -/

section Latest

variable {label : Label} {said : List (Label × Option Value)}

/-- Where no line gives the label a value, none is found. -/
theorem lookup_given_of_forall (h : ∀ s ∈ said, s.1 = label → s.2 = none) :
    (given said).reverse.lookup label = none := by
  apply List.lookup_eq_none_iff.2
  intro entry hentry
  rcases List.mem_filterMap.1 (List.mem_reverse.1 hentry) with ⟨s, hs, hgiven⟩
  rcases Option.map_eq_some_iff.1 hgiven with ⟨value, hvalue, rfl⟩
  apply bne_iff_ne.2
  intro hsame
  rw [h s hs hsame.symm] at hvalue
  cases hvalue

/-- What is found is the latest value. -/
theorem lookup_given_of_isLatest {value : Value} (h : IsLatest label value said) :
    (given said).reverse.lookup label = some value := by
  rcases h with ⟨front, back, rfl, hback⟩
  have hsplit : (given (front ++ (label, some value) :: back)).reverse =
      (given back).reverse ++ (label, value) :: (given front).reverse := by
    simp [given]
  rw [hsplit, List.lookup_append, lookup_given_of_forall hback, Option.none_or]
  exact List.lookup_cons_self

end Latest

section Fields

variable {repair : AdpsRepair} {interior : List UInt8} {label : Label}

theorem get?_fields (repair : AdpsRepair) (interior : List UInt8) (label : Label) :
    (fields repair interior).get? label =
      (given (statements repair interior)).reverse.lookup label := by
  rw [fields, FieldMap.get?_ofFn, filterMap_field?]

theorem get?_fields_of_isLatest {value : Value}
    (h : IsLatest label value (statements repair interior)) :
    (fields repair interior).get? label = some value := by
  rw [get?_fields]
  exact lookup_given_of_isLatest h

theorem get?_fields_of_forall
    (h : ∀ s ∈ statements repair interior, s.1 = label → s.2 = none) :
    (fields repair interior).get? label = none := by
  rw [get?_fields]
  exact lookup_given_of_forall h

end Fields

end Transmission

/-! ## Events -/

namespace Event

/-- The event has the value of the label as a field, or names the label in the place where it names
those whose values it leaves out. -/
inductive Carries (label : Label) (value : Value) : Event → Prop
  | field {f : Frame} (accepts : f.kind.accepts label) (get : f.fields.get? label = some value)
      (notDiscarded : label ∉ f.discarded) : Carries label value (.frame f)
  | discarded {f : Frame} (foreign : ¬ f.kind.accepts label) (get : f.fields.get? label = none)
      (mem : label ∈ f.discarded) : Carries label value (.frame f)
  | rejected {why : FrameError} (mem : label ∈ why.labels) : Carries label value (.rejected why)

/-- The event does not name the label anywhere. -/
inductive Omits (label : Label) : Event → Prop
  | frame {f : Frame} (get : f.fields.get? label = none) (notDiscarded : label ∉ f.discarded) :
      Omits label (.frame f)
  | rejected {why : FrameError} (notMem : label ∉ why.labels) : Omits label (.rejected why)

variable {fields : FieldMap} {label : Label}

/-- Whether the kind of the frame has a place for the label decides where it is named. -/
theorem carries_ofFields {value : Value} (h : fields.get? label = some value) (span : Span)
    (sequence : Nat) : (ofFields fields span sequence).Carries label value := by
  have hmem : label ∈ fields.labels := by
    rw [FieldMap.mem_labels, FieldMap.contains_iff]
    exact ⟨value, h⟩
  unfold ofFields
  cases FrameKind.classify fields.contains with
  | none => exact .rejected hmem
  | some kind =>
    -- a frame has the field, or leaves it out by name
    by_cases haccepts : kind.accepts label
    · apply Carries.field haccepts
      · simp [haccepts, h]
      · simp [haccepts]
    · apply Carries.discarded haccepts
      · simp [haccepts]
      · exact List.mem_filter.2 ⟨hmem, by simpa using haccepts⟩

theorem omits_ofFields (h : fields.get? label = none) (span : Span) (sequence : Nat) :
    (ofFields fields span sequence).Omits label := by
  have hnotMem : label ∉ fields.labels := by
    simp [FieldMap.contains, h]
  unfold ofFields
  cases FrameKind.classify fields.contains with
  | none => exact .rejected hnotMem
  | some kind =>
    apply Omits.frame
    · simp [h]
    · intro hdiscarded
      exact hnotMem (List.mem_filter.1 hdiscarded).1

end Event

/-! ## Recordings -/

namespace Session

/-- For a transmission that is closed in order, the event says of every label what the lines say that
are understood: it carries the latest value, with whatever lines behind it that give none, and omits
the label when no line gives it a value. -/
theorem drain_repeated (repair : AdpsRepair) (bytes : List UInt8) {i : Nat} {t : Transmission}
    (ht : (Transmission.all bytes)[i]? = some t) (hetx : t.closing = Wire.etx) :
    let said := Transmission.statements repair t.interior
    ∃ e, ((onBytes repair bytes).drain.events.map Prod.fst)[i]? = some e ∧ e.span = t.span ∧
      ∀ label,
        (∀ value, Transmission.IsLatest label value said → e.Carries label value) ∧
          ((∀ s ∈ said, s.1 = label → s.2 = none) → e.Omits label) := by
  intro said
  let e := Event.ofFields (Transmission.fields repair t.interior) t.span i
  have hevent : t.event repair i = e := if_pos hetx
  have hevents : (onBytes repair bytes).drain.events.map Prod.fst =
      Transmission.events repair bytes :=
    (drain_onBytes repair bytes).1.trans (Receiver.emits_eq_events repair bytes)
  refine ⟨e, ?_, Event.span_ofFields _ _ _, ?_⟩
  · rw [hevents, Transmission.events, List.getElem?_mapIdx, ht, Option.map_some, hevent]
  · intro label
    constructor
    · intro value hlatest
      exact Event.carries_ofFields (Transmission.get?_fields_of_isLatest hlatest) t.span i
    · intro hnone
      exact Event.omits_ofFields (Transmission.get?_fields_of_forall hnone) t.span i

/-- After a transmission that was broken off, a short frame corrects a current; what its last line says
of the current cannot be read. Of the colour its only line says that there is none. -/
theorem drain_repeated_corrected :
    let bytes := Wire.stx :: Wire.eot :: GroupLine.encodeFrame
      [("ADCO", "012345678901"), ("ADIR1", "047"), ("ADIR2", "000"), ("ADIR3", "000"),
        ("IINST1", "007"), ("IINST2", "001"), ("DEMAIN", "----"), ("IINST1", "047"),
        ("IINST3", "002"), ("IINST1", "04O")]
    ∃ e, ((onBytes .disabled bytes).drain.events.map Prod.fst)[1]? = some e ∧
      e.Carries .iinst1 (.integer 47) ∧ e.Omits .demain := by
  intro bytes
  let t : Transmission := ⟨2, bytes.dropLast.drop 3, Wire.etx⟩
  have ht : (Transmission.all bytes)[1]? = some t := by
    decide +kernel
  have hsaid : Transmission.statements .disabled t.interior =
      [(.adco, some (.text "012345678901")), (.adir1, some (.integer 47)),
        (.adir2, some (.integer 0)), (.adir3, some (.integer 0)), (.iinst1, some (.integer 7)),
        (.iinst2, some (.integer 1)), (.demain, none)] ++
        (.iinst1, some (.integer 47)) :: [(.iinst3, some (.integer 2))] := by
    decide +kernel
  rcases drain_repeated .disabled bytes ht rfl with ⟨e, he, -, hlabels⟩
  refine ⟨e, he, ?_, ?_⟩
  · apply (hlabels .iinst1).1
    refine ⟨_, _, hsaid, ?_⟩
    simp
  · apply (hlabels .demain).2
    rw [hsaid]
    simp

/-- The colour of tomorrow is sent, and then taken back; the frame keeps it. -/
theorem drain_voided_colour :
    let bytes := GroupLine.encodeFrame
      [("ADCO", "031762120162"), ("ISOUSC", "30"), ("BBRHCJB", "000000001"),
        ("BBRHPJB", "000000002"), ("BBRHCJW", "000000003"), ("BBRHPJW", "000000004"),
        ("BBRHCJR", "000000005"), ("BBRHPJR", "000000006"), ("PTEC", "HCJB"), ("DEMAIN", "BLEU"),
        ("IINST", "001"), ("IMAX", "030"), ("DEMAIN", "----")]
    let t : Transmission := ⟨0, bytes.dropLast.tail, Wire.etx⟩
    Transmission.all bytes = [t] ∧
      (Transmission.statements .disabled t.interior).getLast? = some (.demain, none) ∧
      ∃ f : Frame, (onBytes .disabled bytes).drain.events.map Prod.fst = [.frame f] ∧
        f.fields.get? .demain = some (.tomorrow .bleu) := by
  intro bytes t
  let f : Frame :=
    { kind := .cbemm .tempo
      fields := .ofFn fun
        | .adco => some (.text "031762120162")
        | .isousc => some (.integer 30)
        | .bbrhcjb => some (.integer 1)
        | .bbrhpjb => some (.integer 2)
        | .bbrhcjw => some (.integer 3)
        | .bbrhpjw => some (.integer 4)
        | .bbrhcjr => some (.integer 5)
        | .bbrhpjr => some (.integer 6)
        | .ptec => some (.period .hcjb)
        | .demain => some (.tomorrow .bleu)
        | .iinst => some (.integer 1)
        | .imax => some (.integer 30)
        | _ => none
      span := ⟨0, bytes.length⟩
      sequence := 0
      discarded := [] }
  have hall : Transmission.all bytes = [t] := by
    decide +kernel
  have hlast : (Transmission.statements .disabled t.interior).getLast? = some (.demain, none) := by
    decide +kernel
  have hevents : (onBytes .disabled bytes).drain.events.map Prod.fst = [.frame f] := by
    decide +kernel
  exact ⟨hall, hlast, f, hevents, rfl⟩

end Session
end TicMeter
