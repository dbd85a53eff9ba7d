import TicMeter.Proofs.Overwriting
import TicMeter.Proofs.Place
import TicMeter.Proofs.Storing

/-!
# Presentation — how a report is presented does not change what it says

What a request opens depends on its input alone, as long as its report goes somewhere in order
(`DecodeRequest.Destined`). From then on the flags decide where the text goes and how the run ends,
and nothing else.

* `DecodeRequest.openInput_eq`: the comparison of the report with the input passes.
* `DecodeRequest.HandsOver`: a text is on standard output or in the file at the report's path, and
  nowhere else.
* `Program.run?_destined`: one run refuses its input, or hands over the report on it.
* `Program.presentation`: so two runs that differ in presentation only report alike.
-/

namespace TicMeter

/-! ## The time stamp -/

namespace Json

/-- The text of one member stands in one spot of the text of an object. -/
theorem exists_render_member (layout : Layout) (first : String × Json)
    (before after : List (String × Json)) (key : String) :
    ∃ front back, ∀ text,
      (render layout (.object (first :: (before ++ (key, .string text) :: after)))).toList =
        front ++ literal text ++ back := by
  cases layout with
  | compact =>
    refine ⟨'\x7b' :: literal first.1 ++ ':' :: compact first.2 ++ compactMembers before ++
      ',' :: literal key ++ [':'], compactMembers after ++ ['\x7d'], fun text => ?_⟩
    simp [render, compact, compactMembers_eq, scalar]
  | pretty =>
    refine ⟨'\x7b' :: newLine 1 ++ literal first.1 ++ ':' :: ' ' :: indented 1 first.2 ++
      indentedMembers 1 before ++ ',' :: newLine 1 ++ literal key ++ [':', ' '],
      indentedMembers 1 after ++ newLine 0 ++ ['\x7d'], fun text => ?_⟩
    simp [render, indented, indentedMembers_eq, scalar]

end Json

/-- The time stamp stands in one spot of the text of a report. -/
theorem Report.exists_render_stamped (report : Report) (layout : Json.Layout) :
    ∃ front back, ∀ now,
      (Report.render layout { report with generatedAt := now }).toList =
        front ++ Json.literal now ++ back := by
  rcases Json.exists_render_member layout ("report_version", .integer report.reportVersion)
    [("tool", report.tool.toJson)]
    [("input", report.input.toJson), ("options", report.options.toJson),
      ("summary", report.summary.toJson),
      ("frames", .array (report.frames.map FrameSummary.toJson)),
      ("errors", .array (report.errors.map RejectionSummary.toJson))] "generated_at" with
    ⟨front, back, hrender⟩
  refine ⟨front, back, fun now => ?_⟩
  rw [← hrender now, render, toJson]
  rfl

namespace DecodeRequest

variable {disk made after : Disk} {request : DecodeRequest} {path : String} {input : Place}

/-! ## Where a report goes -/

/-- A file can be written at the path once the directories above it are made. -/
def Writable (disk : Disk) (path : String) : Prop :=
  ∃ made, makeParents disk path = (made, none) ∧ ∀ bytes, ∃ after, made.write path bytes = .ok after

/-- A report goes to standard output, or to a path that can be written and does not lead to the
input. -/
def Destined (disk : Disk) (request : DecodeRequest) : Prop :=
  ∀ path, request.report = some path → Writable disk path ∧
    ∀ opened place, inputPath disk request.input = .ok opened → disk.resolve opened = .ok place →
      disk.destination path ≠ place

/-- A path that ends in a name passes the comparison unless it leads to the input. -/
theorem checkDistinct_ok {front : List String} {name : String} (hends : Path.Ends path front name)
    (hne : disk.destination path ≠ input) : checkDistinct disk path input = .ok () := by
  rcases hends.parent?_eq with ⟨parent, hparent, hisParent⟩
  simp only [checkDistinct, hparent, hends.fileName?_eq]
  split
  · -- a directory that cannot be resolved is compared with nothing
    rfl
  · next directory hresolve =>
    rw [disk.destination_parent hends hisParent, Disk.destination_of_resolve hresolve] at hne
    rw [if_neg hne]

/-- A report with somewhere to go passes the comparison with the input. -/
theorem Destined.checkReport (h : Destined disk request) {opened : String}
    (hpath : inputPath disk request.input = .ok opened)
    (hresolve : disk.resolve opened = .ok input) :
    checkReport disk request input = .ok () := by
  cases hreport : request.report with
  | none => simp [DecodeRequest.checkReport, hreport]
  | some path =>
    rcases h path hreport with ⟨⟨made, -, hwrite⟩, hne⟩
    -- what can be written at all ends in a name
    rcases hwrite [] with ⟨after, hafter⟩
    rcases Disk.write_ok hafter with ⟨front, name, place, hends, -⟩
    simpa [DecodeRequest.checkReport, hreport] using
      checkDistinct_ok hends (hne opened input hpath hresolve)

/-- What is opened depends on the input alone. -/
theorem openInput_eq (h : Destined disk request) :
    openInput disk request = openInput disk { input := request.input } := by
  unfold openInput
  cases hpath : inputPath disk request.input with
  | error why => rfl
  | ok opened =>
    simp only [bind, Except.bind]
    split_ifs
    · rfl
    · rfl
    · -- the report comes in only now, once the place of the input is known
      cases hresolve : disk.resolve opened with
      | error why => rfl
      | ok place =>
        simp only [h.checkReport hpath hresolve]
        rfl

/-! ## Handing over -/

/-- The text is on standard output, and no file has changed; or it is in the file to which the
report's path leads, and no other file has changed, and standard output is empty. -/
def HandsOver (request : DecodeRequest) (before : Disk) (text : String) (run : Run) : Prop :=
  match request.report with
  | none => run.stdout = text ∧ run.disk = before
  | some path =>
      run.stdout = "" ∧ run.disk.at? (before.destination path) = some (.file (Text.bytes text)) ∧
        ∀ place, place ≠ before.destination path → ∀ bytes,
          run.disk.at? place = some (.file bytes) ↔ before.at? place = some (.file bytes)

/-- Writing below directories that are made for it changes one file. -/
theorem write_only (hmade : makeParents disk path = (made, none)) {bytes : List UInt8}
    (hwrite : made.write path bytes = .ok after) :
    after.at? (disk.destination path) = some (.file bytes) ∧
      ∀ place, place ≠ disk.destination path → ∀ other,
        after.at? place = some (.file other) ↔ disk.at? place = some (.file other) := by
  have hbuilds := makeParents_builds disk path
  rw [hmade] at hbuilds
  rcases Disk.write_ok hwrite with ⟨front, name, place, hends, -, hwalk, rfl⟩
  -- the path was written to after the directories were made, but leads where it did before
  rw [hbuilds.grows.origin_eq] at hwalk
  rw [Disk.destination_eq hends hwalk]
  constructor
  · exact Disk.at?_put_self _ _ (by simp)
  · intro other hother content
    rw [Disk.at?_put_of_ne _ _ hother]
    exact hbuilds.at?_file

/-- A report with somewhere to go is handed over. -/
theorem handOver_destined (filter : LogFilter) {run : Run} (h : Destined run.disk request)
    (hout : run.stdout = "") (text : String) :
    ∃ handed, request.handOver filter run text = (handed, none) ∧
      request.HandsOver run.disk text handed ∧ handed.exitCode = run.exitCode := by
  unfold handOver HandsOver
  cases hreport : request.report with
  | none => exact ⟨_, rfl, ⟨by simp [hout], rfl⟩, rfl⟩
  | some path =>
    rcases h path hreport with ⟨⟨made, hmade, hwrite⟩, -⟩
    rcases hwrite (Text.bytes text) with ⟨after, hafter⟩
    have hwritten : writeReport run path text = ({ run with disk := after }, none) := by
      simp [writeReport, hmade, hafter]
    simp only [hwritten]
    exact ⟨_, rfl, ⟨hout, write_only hmade hafter⟩, rfl⟩

theorem stdout_conclude (request : DecodeRequest) (run : Run) (found : Report) :
    (request.conclude run found).stdout = run.stdout := by
  cases hreport : request.report <;> simp only [conclude, hreport] <;> split_ifs <;> rfl

/-- Rejected frames fail a strict request. -/
theorem exitCode_conclude (request : DecodeRequest) (run : Run) (found : Report) :
    (request.conclude run found).exitCode =
      if request.strict && !found.errors.isEmpty then 2 else run.exitCode := by
  cases hreport : request.report <;> simp only [conclude, hreport] <;> split_ifs <;> rfl

theorem HandsOver.conclude {run : Run} {text : String} (h : request.HandsOver disk text run)
    (found : Report) : request.HandsOver disk text (request.conclude run found) := by
  unfold HandsOver at h ⊢
  rwa [stdout_conclude, disk_conclude]

/-! ## One run -/

/-- The run refuses before a report is made. -/
structure Refuses (before : Disk) (run : Run) : Prop where
  exitCode : run.exitCode = 2
  stdout : run.stdout = ""
  disk : run.disk = before

/-- The run hands over the text of the report, and fails only if it is strict and frames were
rejected. -/
structure Reports (request : DecodeRequest) (before : Disk) (report : Report) (run : Run) :
    Prop where
  handsOver : request.HandsOver before (report.render request.layout) run
  exitCode : run.exitCode = if request.strict && !report.errors.isEmpty then 2 else 0

variable (filter : LogFilter) (now : String) (run : Run)

theorem execute_refused {refusal : Refusal} (hout : run.stdout = "")
    (hopen : openInput run.disk request = .error refusal) :
    Refuses run.disk (request.execute filter now run) := by
  rw [execute, hopen]
  exact ⟨rfl, hout, rfl⟩

theorem deliver_reports (h : Destined run.disk request) (hout : run.stdout = "")
    (hexit : run.exitCode = 0) (report : Report) :
    request.Reports run.disk report (request.deliver filter run report) := by
  rcases handOver_destined filter h hout (report.render request.layout) with
    ⟨handed, hhanded, hover, hcode⟩
  unfold deliver
  rw [hhanded]
  refine ⟨hover.conclude report, ?_⟩
  rw [exitCode_conclude, hcode, hexit]

theorem execute_reports {bytes : List UInt8} (h : Destined run.disk request)
    (hout : run.stdout = "") (hexit : run.exitCode = 0)
    (hopen : openInput run.disk request = .ok (path, bytes)) :
    request.Reports run.disk
      { Capture.reportOn path request.options bytes with generatedAt := now }
      (request.execute filter now run) := by
  unfold execute
  rw [hopen]
  dsimp only
  rw [Capture.decode_file]
  exact deliver_reports filter (run.report _) h hout hexit _

end DecodeRequest

namespace Program

open DecodeRequest

variable {arguments arguments' : List String} {environment environment' : Environment}
  {request request' : DecodeRequest} {verbosity verbosity' : Nat}

/-- What a run comes to is settled by what its input opens. -/
theorem run?_destined
    (hparse : CommandLine.parse? arguments = some ⟨verbosity, .decode request⟩)
    (h : Destined environment.disk request) :
    ∃ run, run? arguments environment = some run ∧
      match openInput environment.disk { input := request.input } with
      | .error _ => Refuses environment.disk run
      | .ok (path, bytes) =>
          request.Reports environment.disk
            { Capture.reportOn path request.options bytes with generatedAt := environment.now }
            run := by
  rcases run?_decode environment hparse with ⟨filter, said, hrun⟩
  refine ⟨_, hrun, ?_⟩
  let begun : Run := ⟨environment.disk, 0, "", said⟩
  rw [← openInput_eq h]
  split
  · next hopen => exact execute_refused filter environment.now begun rfl hopen
  · next hopen => exact execute_reports filter environment.now begun h rfl rfl hopen

/-- Two command lines that ask for the same input with the same repair, whatever their other flags,
the filter for notices and the time. Both are refused before a report is made; or both hand over a
text that is read back as the same report but for its time stamp, where it should be and with no
other file changed, and each succeeds unless it is strict and frames were rejected. Where both are
pretty or both are not, the texts differ in the time stamp only. -/
theorem reports_alike (environment environment' : Environment)
    (hparse : CommandLine.parse? arguments = some ⟨verbosity, .decode request⟩)
    (hparse' : CommandLine.parse? arguments' = some ⟨verbosity', .decode request'⟩)
    (hdisk : environment'.disk = environment.disk) (hinput : request'.input = request.input)
    (hrepair : request'.autoRepairAdps = request.autoRepairAdps)
    (h : Destined environment.disk request) (h' : Destined environment.disk request')
    (bounded : environment.disk.Bounded) :
    ∃ run run', run? arguments environment = some run ∧ run? arguments' environment' = some run' ∧
      ((Refuses environment.disk run ∧ Refuses environment.disk run') ∨
        ∃ (report : Report) (text text' : String),
          Report.parse? text = some { report with generatedAt := environment.now } ∧
          Report.parse? text' = some { report with generatedAt := environment'.now } ∧
          request.HandsOver environment.disk text run ∧
          request'.HandsOver environment.disk text' run' ∧
          run.exitCode = (if request.strict && !report.errors.isEmpty then 2 else 0) ∧
          run'.exitCode = (if request'.strict && !report.errors.isEmpty then 2 else 0) ∧
          (request.pretty = request'.pretty → ∃ front back,
            text.toList = front ++ Json.literal environment.now ++ back ∧
            text'.toList = front ++ Json.literal environment'.now ++ back)) := by
  rw [← hdisk] at h'
  rcases run?_destined hparse h with ⟨run, hrun, hcase⟩
  rcases run?_destined hparse' h' with ⟨run', hrun', hcase'⟩
  refine ⟨run, run', hrun, hrun', ?_⟩
  rw [hdisk, hinput] at hcase'
  have hoptions : request'.options = request.options := by
    rw [DecodeRequest.options, DecodeRequest.options, hrepair]
  cases hopen : openInput environment.disk { input := request.input } with
  | error refusal =>
    rw [hopen] at hcase hcase'
    exact .inl ⟨hcase, hcase'⟩
  | ok opened =>
    rcases opened with ⟨path, bytes⟩
    rw [hopen] at hcase hcase'
    rw [hoptions] at hcase'
    rcases openInput_ok hopen with ⟨place, -, -, -, hfile⟩
    -- a longer file could have numbers in its report that are not read back
    have hstorable := Capture.storable_reportOn path request.options (bounded.length_lt hfile)
    refine .inr ⟨_, _, _, (hstorable.stamp _).parse?_render _, (hstorable.stamp _).parse?_render _,
      hcase.handsOver, hcase'.handsOver, hcase.exitCode, hcase'.exitCode, ?_⟩
    intro hpretty
    have hlayout : request'.layout = request.layout := by
      rw [DecodeRequest.layout, DecodeRequest.layout, hpretty]
    rcases Report.exists_render_stamped (Capture.reportOn path request.options bytes)
      request.layout with ⟨front, back, hrender⟩
    rw [hlayout]
    exact ⟨front, back, hrender _, hrender _⟩

/-- A capture with an empty frame, asked for on standard output, and strictly for a file in a
directory that is not there. -/
theorem reports_alike_empty :
    let disk : Disk := ⟨[(["empty.raw"], .file [Wire.stx, Wire.etx])], []⟩
    ∃ run run', run? ["capture", "decode", "--stdout", "empty.raw"] ⟨disk, none, "now"⟩ = some run ∧
      run? ["-v", "capture", "decode", "empty.raw", "-o", "out/empty.json", "--pretty", "--strict"]
        ⟨disk, some "info", "later"⟩ = some run' ∧
      ∃ (report : Report) (text : String),
        Report.parse? run.stdout = some { report with generatedAt := "now" } ∧ run.exitCode = 0 ∧
        run'.disk.at? ["out", "empty.json"] = some (.file (Text.bytes text)) ∧
        Report.parse? text = some { report with generatedAt := "later" } ∧ run'.exitCode = 2 := by
  intro disk
  let request : DecodeRequest := { input := "empty.raw" }
  let request' : DecodeRequest :=
    { input := "empty.raw", report := some "out/empty.json", pretty := true, strict := true }
  have hparse : CommandLine.parse? ["capture", "decode", "--stdout", "empty.raw"] =
      some ⟨0, .decode request⟩ := by
    decide
  have hparse' : CommandLine.parse? ["-v", "capture", "decode", "empty.raw", "-o", "out/empty.json",
      "--pretty", "--strict"] = some ⟨1, .decode request'⟩ := by
    decide
  have h : Destined disk request := by
    intro path hpath
    cases hpath
  have h' : Destined disk request' := by
    intro path hpath
    cases hpath
    have hmade : makeParents disk "out/empty.json" = (disk.put ["out"] .directory, none) := by
      decide +kernel
    refine ⟨⟨_, hmade, fun bytes => ⟨_, rfl⟩⟩, ?_⟩
    intro opened place hopened hplace
    have hinput : inputPath disk "empty.raw" = .ok "empty.raw" := by decide +kernel
    cases hinput.symm.trans hopened
    cases hplace
    decide
  have bounded : disk.Bounded := by decide
  rcases reports_alike ⟨disk, none, "now"⟩ ⟨disk, some "info", "later"⟩ hparse hparse' rfl rfl rfl
    h h' bounded with ⟨run, run', hrun, hrun', hcase⟩
  have hexit : (run? ["capture", "decode", "--stdout", "empty.raw"] ⟨disk, none, "now"⟩).map
      (·.exitCode) = some 0 := by
    decide +kernel
  have hexit' : (run? ["-v", "capture", "decode", "empty.raw", "-o", "out/empty.json", "--pretty",
      "--strict"] ⟨disk, some "info", "later"⟩).map (·.exitCode) = some 2 := by
    decide +kernel
  rw [hrun] at hexit
  rw [hrun'] at hexit'
  refine ⟨run, run', hrun, hrun', ?_⟩
  rcases hcase with ⟨hrefuses, -⟩ | ⟨report, text, text', hread, hread', hover, hover', -⟩
  · cases hrefuses.exitCode.symm.trans (Option.some.inj hexit)
  · rw [← hover.1] at hread
    exact ⟨report, text', hread, Option.some.inj hexit, hover'.2.1, hread', Option.some.inj hexit'⟩

end Program
end TicMeter
