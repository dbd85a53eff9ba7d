import TicMeter.Command.Checksum
import TicMeter.Proofs.Display
import TicMeter.Proofs.Encoding
import TicMeter.Proofs.Fields
import TicMeter.Proofs.Interior

/-!
# Agreement — the checksum command says what a receiver makes of its line

The command checks a label and a value by rules of its own and reads the value without a receiver.
Both come to the same.

* `ChecksumRequest.problem?_eq_none_iff`: what the command accepts.
* `GroupLine.parse_line`, `ChecksumRequest.bytes_line`: the line that it prints is taken apart into
  the label, the value and the checksum.
* `ChecksumRequest.Tells`: the words for each outcome of a line, and `tells_meaning`: the command
  finds them for the outcome that a receiver comes to.
* `ChecksumRequest.execute_agrees`: the outputs of the command against a receiver that takes in the
  line.
-/

namespace TicMeter

namespace ChecksumRequest

variable {label value : String}

/-! ## The line that is printed -/

def line (label value : String) : String :=
  label ++ " " ++ value ++ " " ++ Text.ofAscii [Checksum.compute label value]

/-- What the command prints about every line that it accepts. -/
def output (label value : String) : List String :=
  ["checksum: " ++ Text.ofAscii [Checksum.compute label value], "line: " ++ line label value]

theorem bytes_line (label value : String) :
    Text.bytes (line label value) = GroupLine.content label value := by
  have hchecksum : ∀ b ∈ [Checksum.compute label value], Text.isAsciiByte b := by
    have hbound := (Checksum.compute_bounds label value).2
    simp [Text.isAsciiByte, UInt8.lt_iff_toNat_lt]
    omega
  have hsp : Text.bytes " " = [Wire.sp] := by decide
  simp [line, Text.bytes_append, Text.bytes_ofAscii hchecksum, hsp, GroupLine.content]

/-- The label stands apart from the value. -/
def IsLabel (label : String) : Prop :=
  label ≠ "" ∧ label.toList.all Text.isGraphic

theorem problem?_eq_none_iff :
    problem? label value = none ↔
      IsLabel label ∧ Text.IsAscii value ∧
        (GroupLine.content label value).length ≤ Wire.maxLineLength := by
  have hlabel :
      (label.isEmpty || !(Text.bytes label).all Text.isGraphicByte) ↔ ¬ IsLabel label := by
    rw [Text.all_isGraphicByte]
    simp [IsLabel, String.isEmpty_iff]
    tauto
  have hlength : Text.byteLength label + Text.byteLength value + 3 =
      (GroupLine.content label value).length := by
    simp [Text.byteLength, GroupLine.content]
    omega
  unfold problem?
  rw [hlength]
  by_cases hname : IsLabel label
  · by_cases hvalue : Text.IsAscii value
    · simp [hlabel, hname, Text.all_isAsciiByte.2 hvalue, hvalue]
    · have hall : (Text.bytes value).all Text.isAsciiByte = false := by
        simpa using mt Text.all_isAsciiByte.1 hvalue
      simp [hlabel, hname, hall, hvalue]
  · simp [hlabel, hname]

theorem parse_content (h : problem? label value = none) :
    GroupLine.parse (GroupLine.content label value) =
      .ok ⟨label, value, Checksum.compute label value⟩ := by
  rcases problem?_eq_none_iff.1 h with ⟨⟨hne, hgraphic⟩, hvalue, hlength⟩
  have hlabel := Text.isAscii_of_all_isGraphic hgraphic
  rw [GroupLine.length_content hlabel hvalue] at hlength
  exact GroupLine.parse_content hlabel hvalue hne
    (Text.space_not_mem_of_all_isGraphic hgraphic) hlength

/-- Of lines with a sound label and value, those are refused that are found too long when they are
taken apart. -/
theorem problem?_ne_none_iff (hlabel : IsLabel label) (hvalue : Text.IsAscii value) :
    problem? label value ≠ none ↔
      GroupLine.parse (GroupLine.content label value) =
        .error (.tooLong (GroupLine.content label value).length Wire.maxLineLength) := by
  constructor
  · intro hrefused
    have hlong : Wire.maxLineLength < (GroupLine.content label value).length := by
      rw [ne_eq, problem?_eq_none_iff] at hrefused
      simpa [hlabel, hvalue] using hrefused
    exact GroupLine.parse_of_long hlong
  · intro hparse haccepted
    rw [parse_content haccepted] at hparse
    cases hparse

/-! ## What is said of the value -/

/-- The words for what becomes of a line with the label `label`. -/
inductive Tells (label : String) : LineOutcome → Except String String → Prop
  | decoded {known : Label} {value : Value} (h : known.Admits value) :
      Tells label (.field known value) (.ok ("decoded: " ++ value.display))
  | void (known : Label) : Tells label (.void known) (.ok "decoded: (not applicable)")
  | unknownLabel :
      Tells label (.unknownLabel label)
        (.error ("warning: " ++ label ++ " is not part of the historic label set"))
  | unconvertible {why : ValueError} (h : ∀ text, why ≠ .unknownLabel text) :
      Tells label (.unconvertible why) (.error ("warning: " ++ why.message))

/-- The command finds the words for what a receiver makes of the label and the value. -/
theorem tells_meaning (label value : String) :
    Tells label (LineReading.ofContent label value) (meaning label value) := by
  unfold LineReading.ofContent meaning Label.readText
  cases Label.ofText? label with
  | none => exact .unknownLabel
  | some known =>
    cases hread : known.read value with
    | ok decoded =>
      simp only [hread, Except.map]
      cases decoded with
      | none => exact .void known
      | some decoded => exact .decoded ⟨value, hread⟩
    | error why =>
      have hwhy : ∀ text, why ≠ .unknownLabel text := by
        rw [(Label.read_eq_error.1 hread).2.2]
        exact known.refusal_ne_unknownLabel value
      simp only [hread, Except.map]
      cases why with
      | unknownLabel text => exact absurd rfl (hwhy text)
      | _ => exact .unconvertible hwhy

/-- No value looks like the words for a value that is missing. -/
theorem display_ne_notApplicable {known : Label} {value : Value} (h : known.Admits value) :
    value.display ≠ "(not applicable)" := by
  intro hdisplay
  apply Text.space_not_mem_of_all_isGraphic (Rule.isGraphic_display h.fits)
  rw [hdisplay]
  decide

/-- The warnings for an unknown label and for a value that is not read end differently. -/
theorem message_ne {why : ValueError} (h : ∀ text, why ≠ .unknownLabel text) (label : String) :
    why.message ≠ label ++ " is not part of the historic label set" := by
  intro hmessage
  have hlast := congrArg (·.toList.getLast?) hmessage
  cases why with
  | unknownLabel text => exact h text rfl
  | _ => simp [ValueError.message, List.getLast?_append, List.getLast?_cons] at hlast

end ChecksumRequest

/-- A map with one value lists this value. -/
theorem FieldMap.entries_insert_empty (label : Label) (value : Value) :
    (empty.insert label value).entries = [(label, value)] := by
  have hnodup : (empty.insert label value).entries.Nodup := (nodup_map_fst (.refl _)).of_map
  have hperm : (empty.insert label value).entries.Perm [(label, value)] := by
    refine (List.perm_ext_iff_of_nodup hnodup (by simp)).2 fun entry => ?_
    rcases entry with ⟨other, found⟩
    rw [mem_entries, get?_insert, get?_empty]
    by_cases hsame : label = other
    · simp [hsame, eq_comm]
    · simp [hsame, Ne.symm hsame]
  exact List.perm_singleton.1 hperm

theorem FieldMap.entries_empty : empty.entries = [] := by
  rw [List.eq_nil_iff_forall_not_mem]
  rintro ⟨label, value⟩ hmem
  rw [mem_entries, get?_empty] at hmem
  cases hmem

namespace ChecksumRequest

variable {label value : String}

/-- The words against what a line adds to an empty frame. -/
theorem Tells.agrees {outcome : LineOutcome} {said : Except String String}
    (h : Tells label outcome said) :
    let reading : LineReading := ⟨outcome, false⟩
    let stored := (reading.update .empty).entries
    let stats := reading.count .empty 0
    (stats.linesTotal = 1 ∧ stats.linesUnreadable = 0 ∧ stats.checksumMismatches = 0) ∧
      (∀ d, (said = .ok ("decoded: " ++ d) ∧ d ≠ "(not applicable)") ↔
        ∃ known decoded, stored = [(known, decoded)] ∧ decoded.display = d) ∧
      (said = .ok "decoded: (not applicable)" ↔
        stored = [] ∧ stats.conversionFailures = 0 ∧ stats.unknownLabels = 0) ∧
      ((∃ why : ValueError, (∀ text, why ≠ .unknownLabel text) ∧
          said = .error ("warning: " ++ why.message)) ↔ stats.conversionFailures = 1) ∧
      (said = .error ("warning: " ++ label ++ " is not part of the historic label set") ↔
        stats.unknownLabels = 1) := by
  intro reading stored stats
  -- the two things that may be printed begin alike, so they are told apart by what follows
  have hwords : "decoded: (not applicable)" = "decoded: " ++ "(not applicable)" := by decide
  cases h with
  | @decoded known value hadmits =>
    have hstored : stored = [(known, value)] := FieldMap.entries_insert_empty known value
    have hstats : stats = { linesTotal := 1 } := by
      have hnew : FieldMap.empty.contains known = false := by simp [FieldMap.contains]
      simp only [stats, reading, LineReading.count, LineReading.repeats, hnew]
      rfl
    -- no value is displayed as the words for no value
    have hshown := display_ne_notApplicable hadmits
    rw [hstored, hstats, hwords]
    refine ⟨⟨rfl, rfl, rfl⟩, ?_, ?_, ?_, ?_⟩
    · intro d
      simp only [Except.ok.injEq, String.append_right_inj, List.cons.injEq, Prod.mk.injEq, and_true]
      constructor
      · rintro ⟨rfl, -⟩
        exact ⟨known, value, ⟨rfl, rfl⟩, rfl⟩
      · rintro ⟨_, _, ⟨rfl, rfl⟩, rfl⟩
        exact ⟨rfl, hshown⟩
    · rw [Except.ok.injEq, String.append_right_inj]
      simp [hshown]
    · simp
    · simp
  | void known =>
    have hstored : stored = [] := FieldMap.entries_empty
    have hstats : stats = { linesTotal := 1 } := rfl
    rw [hstored, hstats, hwords]
    refine ⟨⟨rfl, rfl, rfl⟩, ?_, ?_, ?_, ?_⟩
    · intro d
      rw [Except.ok.injEq, String.append_right_inj]
      simp [eq_comm]
    · simp
    · simp
    · simp
  | unknownLabel =>
    have hstored : stored = [] := FieldMap.entries_empty
    have hstats : stats = { linesTotal := 1, unknownLabels := 1 } := rfl
    rw [hstored, hstats]
    refine ⟨⟨rfl, rfl, rfl⟩, by simp, by simp, ?_, by simp⟩
    simp only [Except.error.injEq, String.append_assoc, String.append_right_inj]
    constructor
    · -- no conversion error is worded like the warning about an unknown label
      rintro ⟨why, hwhy, hmessage⟩
      exact absurd hmessage.symm (message_ne hwhy label)
    · intro hcount
      cases hcount
  | @unconvertible why hwhy =>
    have hstored : stored = [] := FieldMap.entries_empty
    have hstats : stats = { linesTotal := 1, conversionFailures := 1 } := rfl
    rw [hstored, hstats]
    refine ⟨⟨rfl, rfl, rfl⟩, by simp, by simp, ?_, ?_⟩
    · simp only [iff_true]
      exact ⟨why, hwhy, rfl⟩
    · simpa [String.append_assoc] using message_ne hwhy label

/-! ## The outputs -/

end ChecksumRequest

namespace Run

theorem text_append (lines more : List String) :
    text (lines ++ more) = text lines ++ text more := by
  simp [text, String.join_append]

theorem text_singleton (line : String) : text [line] = line ++ "\n" := by
  simp [text]

theorem append_text_ne (output line : String) : output ++ text [line] ≠ output := by
  intro hsame
  have hlength := congrArg String.length hsame
  simp [text_singleton] at hlength

end Run

namespace ChecksumRequest

variable {label value : String}

/-- The command prints the line of text behind what it prints about every line. -/
def Prints (label value : String) (run : Run) (text : String) : Prop :=
  (execute label value run).stdout = run.stdout ++ Run.text (output label value ++ [text])

/-- The command gives the warning, and no other. -/
def Warns (label value : String) (run : Run) (warning : String) : Prop :=
  (execute label value run).stderr = run.stderr ++ Run.text [warning]

section Outputs

variable {run : Run}

/-- The exit code tells what the command accepts. -/
theorem exitCode_execute (label value : String) (hrun : run.exitCode = 0) :
    ((execute label value run).exitCode = 0 ↔ problem? label value = none) ∧
      ((execute label value run).exitCode = Run.refused ↔ problem? label value ≠ none) := by
  have hne : Run.refused ≠ 0 := by decide
  unfold execute
  cases problem? label value with
  | some refusal => simp [Run.refuse, hne]
  | none => cases meaning label value <;> simp [Run.say, Run.report, hrun, hne.symm]

variable (h : problem? label value = none)

include h

theorem execute_eq :
    execute label value run =
      match meaning label value with
      | .ok text => { run with stdout := run.stdout ++ Run.text (output label value ++ [text]) }
      | .error warning =>
          { run.say [warning] with stdout := run.stdout ++ Run.text (output label value) } := by
  have hline : "line: " ++ label ++ " " ++ value ++ " " ++
      Text.ofAscii [Checksum.compute label value] = "line: " ++ line label value := by
    simp [line, String.append_assoc]
  unfold execute
  rw [h]
  simp only [hline]
  rfl

/-- Whatever the value means, the checksum and the line are printed. -/
theorem stdout_execute :
    ∃ more, (execute label value run).stdout =
      run.stdout ++ Run.text (output label value ++ more) := by
  rw [execute_eq h]
  cases meaning label value with
  | ok text => exact ⟨[text], rfl⟩
  | error warning => exact ⟨[], rfl⟩

theorem prints_iff {text : String} :
    Prints label value run text ↔ meaning label value = .ok text := by
  unfold Prints
  rw [execute_eq h]
  cases meaning label value with
  | ok said => simp [Run.text_append, Run.text_singleton, String.append_right_inj]
  | error warning =>
    have hmore := Run.append_text_ne (run.stdout ++ Run.text (output label value)) text
    rw [Run.text_append, ← String.append_assoc]
    simpa using hmore.symm

theorem warns_iff {warning : String} :
    Warns label value run warning ↔ meaning label value = .error warning := by
  unfold Warns
  rw [execute_eq h]
  cases meaning label value with
  | ok said => simpa using (Run.append_text_ne run.stderr warning).symm
  | error said => simp [Run.say, Run.report, Run.text_singleton, String.append_right_inj]

end Outputs

end ChecksumRequest

/-! ## The receiver -/

def Receiver.fields? (r : Receiver) : Option FieldMap :=
  match r.phase with
  | .reading frame => some frame.fields
  | _ => none

theorem Receiver.fields?_inFrame (r : Receiver) (start : Nat) (interior : List UInt8) :
    (r.inFrame start interior).fields? =
      some (Gathered.ofLines r.repair (Wire.closedLines interior)).fields := rfl

namespace ChecksumRequest

variable {label value : String}

/-- A receiver finds the label and the value in the line, and nothing to repair. -/
theorem ofBytes_content (h : problem? label value = none) (repair : AdpsRepair) :
    LineReading.ofBytes repair (GroupLine.content label value) =
      ⟨LineReading.ofContent label value, false⟩ := by
  unfold LineReading.ofBytes
  rw [parse_content h]
  simp only [Checksum.verify_compute]

theorem isPlain_content (hlabel : IsLabel label) (hvalue : Wire.IsPlain (Text.bytes value)) :
    Wire.IsPlain (GroupLine.content label value) := by
  have hempty : GroupLine.IsPlain (label, "") := GroupLine.isPlain_of_all_isGraphic hlabel.2 rfl
  have hline : GroupLine.IsPlain (label, value) := by
    intro b hb
    rcases List.mem_append.1 hb with hb | hb
    · exact hempty b (List.mem_append_left _ hb)
    · rcases List.mem_cons.1 hb with rfl | hb
      · decide
      · exact hvalue b hb
  exact hline.plain_content

/-- What a fresh receiver makes of the line alone in a frame, before the frame is closed and after
it. -/
theorem receiver_line (h : problem? label value = none)
    (hvalue : Wire.IsPlain (Text.bytes value)) (repair : AdpsRepair) :
    let bytes := GroupLine.content label value
    let reading : LineReading := ⟨LineReading.ofContent label value, false⟩
    let fields := reading.update .empty
    ((Receiver.fresh repair).after (Wire.stx :: Wire.delimited [bytes])).fields? = some fields ∧
      ∃ read, (Session.onBytes repair (Wire.frame [bytes])).drain.session.receiver.stats =
        { bytesRead := read } + reading.count .empty 0 + .ofFields fields := by
  intro bytes reading fields
  have hplain : Wire.IsPlain bytes := isPlain_content (problem?_eq_none_iff.1 h).1 hvalue
  have hne : bytes ≠ [] := by simp [bytes, GroupLine.content]
  have hboundary : ∀ b ∈ Wire.delimited [bytes], Wire.isBoundary b = false :=
    Wire.isBoundary_of_mem_delimited (by simpa using hplain)
  have hsum : Gathered.ofLines repair [bytes] = ⟨fields, reading.count .empty 0⟩ := by
    have htake : Gathered.ofLines repair [bytes] = Gathered.take repair ⟨.empty, 0⟩ bytes := rfl
    rw [htake, Gathered.take, ofBytes_content h]
  -- the `cr` behind the line closes it before the frame is closed
  rcases Wire.lines_delimited_singleton hne hplain with ⟨hlines, hclosed⟩
  constructor
  · have hrepair : (Receiver.freshOpened repair).repair = repair := rfl
    rw [(Receiver.run_freshOpened repair hboundary).1, Receiver.fields?_inFrame, hrepair, hclosed,
      hsum]
  · have hstats := (Session.drain_frame repair hboundary).2.2
    rw [hlines, hsum] at hstats
    exact ⟨_, hstats⟩

/-- The checksum command agrees with a receiver. The line that it prints is short enough and is
taken apart into the label, the value and the checksum; of the value it says what a fresh receiver
stores or counts; and what it refuses is too long for a receiver, unless the label or the value is
no ASCII or the label no name. -/
theorem execute_agrees (label value : String) (run : Run) (hrun : run.exitCode = 0) :
    let bytes := Text.bytes (line label value)
    let accepted := (execute label value run).exitCode = 0
    (accepted →
      (∃ more, (execute label value run).stdout =
        run.stdout ++ Run.text (output label value ++ more)) ∧
      bytes.length ≤ 64 ∧
      GroupLine.parse bytes = .ok ⟨label, value, Checksum.compute label value⟩ ∧
      ∀ repair, Checksum.verify label value (Checksum.compute label value) repair = .valid) ∧
    (accepted → Wire.IsPlain (Text.bytes value) → ∀ repair, ∃ fields,
      ((Receiver.fresh repair).after (Wire.stx :: Wire.delimited [bytes])).fields? = some fields ∧
      let stats := (Session.onBytes repair (Wire.frame [bytes])).drain.session.receiver.stats
      (stats.linesTotal = 1 ∧ stats.linesUnreadable = 0 ∧ stats.checksumMismatches = 0) ∧
      (∀ d, (Prints label value run ("decoded: " ++ d) ∧ d ≠ "(not applicable)") ↔
        ∃ known decoded, fields.entries = [(known, decoded)] ∧ decoded.display = d) ∧
      (Prints label value run "decoded: (not applicable)" ↔
        fields.entries = [] ∧ stats.conversionFailures = 0 ∧ stats.unknownLabels = 0) ∧
      ((∃ why : ValueError, (∀ text, why ≠ .unknownLabel text) ∧
          Warns label value run ("warning: " ++ why.message)) ↔ stats.conversionFailures = 1) ∧
      (Warns label value run
          ("warning: " ++ label ++ " is not part of the historic label set") ↔
        stats.unknownLabels = 1)) ∧
    (IsLabel label → Text.IsAscii value →
      ((execute label value run).exitCode = Run.refused ↔
        GroupLine.parse bytes = .error (.tooLong bytes.length 64))) := by
  intro bytes accepted
  have hbytes : bytes = GroupLine.content label value := bytes_line label value
  rcases exitCode_execute label value hrun with ⟨haccepted, hrefused⟩
  refine ⟨?_, ?_, ?_⟩
  · intro h
    have hnone := haccepted.1 h
    rw [hbytes]
    exact ⟨stdout_execute hnone, (problem?_eq_none_iff.1 hnone).2.2, parse_content hnone,
      Checksum.verify_compute label value⟩
  · intro h hvalue repair
    have hnone := haccepted.1 h
    rcases receiver_line hnone hvalue repair with ⟨hfields, read, hstats⟩
    rw [hbytes]
    refine ⟨_, hfields, ?_⟩
    -- closing the frame adds to counters of frames only, so those of lines are the line's own
    rcases Stats.ofFields_eq
      ((⟨LineReading.ofContent label value, false⟩ : LineReading).update .empty) with
      ⟨decoded, rejected, hclosing, -⟩
    rw [hclosing] at hstats
    simp only [hstats, Stats.add_def, Stats.add, Nat.zero_add, Nat.add_zero, prints_iff hnone,
      warns_iff hnone]
    exact (tells_meaning label value).agrees
  · intro hlabel hvalue
    rw [hrefused, hbytes]
    exact problem?_ne_none_iff hlabel hvalue

/-- A line that says that there is no colour. -/
theorem execute_agrees_void :
    let run : Run := ⟨⟨[], []⟩, 0, "", ""⟩
    let bytes := Text.bytes (line "DEMAIN" "----")
    run.exitCode = 0 ∧ (execute "DEMAIN" "----" run).exitCode = 0 ∧
      Prints "DEMAIN" "----" run "decoded: (not applicable)" ∧
      GroupLine.parse bytes = .ok ⟨"DEMAIN", "----", 0x22⟩ ∧
      (Session.onBytes .disabled (Wire.frame [bytes])).drain.session.receiver.stats.linesTotal = 1 ∧
      ((Receiver.fresh .disabled).after (Wire.stx :: Wire.delimited [bytes])).fields?.map
        FieldMap.entries = some [] := by
  intro run bytes
  have hrun : run.exitCode = 0 := rfl
  have haccepted : (execute "DEMAIN" "----" run).exitCode = 0 := by decide +kernel
  have hprints : Prints "DEMAIN" "----" run "decoded: (not applicable)" := by
    unfold Prints
    decide +kernel
  have hplain : Wire.IsPlain (Text.bytes "----") := by decide +kernel
  rcases execute_agrees "DEMAIN" "----" run hrun with ⟨hline, hreceiver, -⟩
  rcases hreceiver haccepted hplain .disabled with ⟨fields, hfields, hcounted, -, hvoid, -⟩
  refine ⟨hrun, haccepted, hprints, (hline haccepted).2.2.1, hcounted.1, ?_⟩
  rw [hfields, Option.map_some, (hvoid.1 hprints).1]

end ChecksumRequest

end TicMeter
