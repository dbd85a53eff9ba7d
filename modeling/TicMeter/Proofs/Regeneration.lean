import TicMeter.Golden
import TicMeter.Proofs.Place
import TicMeter.Proofs.Storing

/-!
# Regeneration — stored reports are made anew once and for all

Every stored report is made from its own capture and its own options, so making one leaves what the
others are made from as it was.

* `Golden.regenerateOne_ok_iff`: when one report can be made, and what is then written.
* `Golden.Renews`: a disk on which the reports of some directories are new and everything else is as
  it was. The reports to be made there are the ones to be made before (`Renews.renewed_eq`), since
  what is written is read back with its options (`Renews.optionsIn_eq`).
* `Golden.regenerateEach_renews`, `Golden.renewable_of_regenerateEach`: going through names ends
  with their reports new, exactly if every one of these can be made; the order of the names does not
  matter (`Renews.at?_eq`).
* `Golden.Runs`: the runs of the program, whichever order the names are listed in.
* `Golden.regenerate_settles`: so one run makes every report anew, and the next changes nothing.
-/

namespace TicMeter

/-- A file that cannot be read has no report. -/
theorem Capture.decode_failed (path why : String) (options : Options) :
    (decode path (BufferedFeed.ofScript [.fail why] Wire.readSize) options).result =
      .error (.source (.io why)) := by
  let feed := BufferedFeed.ofScript [.fail why] Wire.readSize
  have hpull : ∃ rest, ByteSource.pull feed = (.failed (.io why), rest) := ⟨_, rfl⟩
  rcases hpull with ⟨rest, hpull⟩
  have hphase : (Session.start options.repair feed).receiver.phase ≠ .faulted :=
    Receiver.phase_fresh_ne_faulted options.repair
  rcases Session.drain_run hphase with ⟨bytes, source, hyields, -, hends⟩
  -- the first pull fails already, so nothing is yielded before it
  have hending : (Session.start options.repair feed).drain.ending = .failed (.io why) := by
    cases hyields with
    | byte hbyte _ => cases hpull.symm.trans hbyte
    | none =>
      unfold Session.EndsAs at hends
      split at hends
      · rcases hends with ⟨_, hdry, -⟩
        cases hpull.symm.trans hdry
      · next failed hfailed =>
        rcases hends with ⟨_, hagain, -⟩
        cases hpull.symm.trans hagain
        exact hfailed
  simp only [decode]
  rw [hending]

namespace Golden

variable {disk before after : Disk} {name : String} {names done : List String}

/-! ## Places -/

def rootPlace (disk : Disk) : Place :=
  disk.workingDir ++ ["tests", "golden"]

def directoryPlace (disk : Disk) (name : String) : Place :=
  rootPlace disk ++ [name]

def capturePlace (disk : Disk) (name : String) : Place :=
  directoryPlace disk name ++ ["input.raw"]

def reportPlace (disk : Disk) (name : String) : Place :=
  directoryPlace disk name ++ ["expected_report.json"]

/-- The path by which a capture is named in its report. -/
def capturePath (name : String) : String :=
  Path.join (Samples.directoryOf name) "input.raw"

def reportPath (name : String) : String :=
  Path.join (Samples.directoryOf name) "expected_report.json"

/-- There is a directory of this name in the root, and something in it that is called a capture. -/
structure HoldsCapture (disk : Disk) (name : String) : Prop where
  directory : disk.at? (directoryPlace disk name) = some .directory
  capture : disk.at? (capturePlace disk name) ≠ none

theorem reportPlace_inj {other : String} (h : reportPlace disk name = reportPlace disk other) :
    name = other := by
  simpa [reportPlace, directoryPlace] using h

theorem directoryPlace_ne (disk : Disk) (name other : String) :
    directoryPlace disk name ≠ reportPlace disk other := by
  intro h
  simpa [reportPlace, directoryPlace] using congrArg List.length h

theorem capturePlace_ne (disk : Disk) (name other : String) :
    capturePlace disk name ≠ reportPlace disk other := by
  simp [reportPlace, capturePlace]

theorem steps_root : Path.steps Samples.root = ["tests", "golden"] := by
  decide

theorem leads_root_iff : disk.Leads Samples.root (rootPlace disk) ↔
    disk.at? disk.workingDir = some .directory ∧
      disk.at? (disk.workingDir ++ ["tests"]) = some .directory ∧
      disk.at? (rootPlace disk) = some .directory := by
  have horigin : disk.origin Samples.root = disk.workingDir := rfl
  have htests : Disk.next disk.workingDir "tests" = disk.workingDir ++ ["tests"] := rfl
  have hgolden : Disk.next (disk.workingDir ++ ["tests"]) "golden" = rootPlace disk := by
    simp [Disk.next, rootPlace]
  constructor
  · intro h
    have hwalk := h.walk
    rw [steps_root, horigin, Disk.walk_cons_ok, htests, Disk.walk_cons_ok] at hwalk
    exact ⟨hwalk.1, hwalk.2.2.2.1, h.directory⟩
  · rintro ⟨hworking, houter, hroot⟩
    refine ⟨by decide, ?_, hroot⟩
    rw [steps_root, horigin, Disk.walk_cons_ok, htests, Disk.walk_cons_ok, hgolden]
    simp [hworking, houter, hroot, Disk.walk]
    decide

theorem byteLength_directoryOf (hname : Disk.IsName name) :
    Text.byteLength (Samples.directoryOf name) + Disk.maxNameLength < Disk.maxPathLength := by
  have hroot : Text.byteLength Samples.root = 12 := by decide
  have hlength := Path.byteLength_join Samples.root name
  have hle := hname.byteLength_le
  simp only [Samples.directoryOf, Disk.maxNameLength, Disk.maxPathLength] at hlength hle ⊢
  omega

section Leads

variable (hroot : disk.Leads Samples.root (rootPlace disk)) (hname : Disk.IsName name)

include hroot hname

theorem lookup?_directoryOf :
    disk.lookup? (Samples.directoryOf name) = disk.at? (directoryPlace disk name) :=
  hroot.lookup?_join hname (by decide)

theorem leads_directoryOf (hdirectory : disk.at? (directoryPlace disk name) = some .directory) :
    disk.Leads (Samples.directoryOf name) (directoryPlace disk name) :=
  hroot.join hname (by decide) hdirectory

/-- A name is gone through exactly if it holds a capture. -/
theorem holdsCapture_iff :
    (disk.isDirectory (Samples.directoryOf name) && disk.reaches (capturePath name)) = true ↔
      HoldsCapture disk name := by
  rw [Bool.and_eq_true, Disk.isDirectory, Disk.reaches, lookup?_directoryOf hroot hname,
    decide_eq_true_iff]
  -- the path of the capture is followed only through a directory
  have hcapture (h : disk.at? (directoryPlace disk name) = some .directory) :
      disk.lookup? (capturePath name) = disk.at? (capturePlace disk name) :=
    (leads_directoryOf hroot hname h).lookup?_join (by decide) (byteLength_directoryOf hname)
  constructor
  · rintro ⟨hdirectory, hreaches⟩
    rw [hcapture hdirectory, Option.isSome_iff_ne_none] at hreaches
    exact ⟨hdirectory, hreaches⟩
  · rintro ⟨hdirectory, hthere⟩
    rw [hcapture hdirectory, Option.isSome_iff_ne_none]
    exact ⟨hdirectory, hthere⟩

end Leads

/-! ## One report -/

/-- The options of the report in an entry, or the usual ones if there is no report in it. -/
def optionsIn : Option Entry → Options
  | some (.file bytes) =>
      match (Text.ofBytes? bytes).bind Report.parse? with
      | some report => report.options
      | none => {}
  | _ => {}

def bytesIn : Option Entry → List UInt8
  | some (.file bytes) => bytes
  | _ => []

/-- The report on a capture, with the options of the report that stands beside it. -/
def reportFor (disk : Disk) (name : String) : Report :=
  Capture.reportOn (capturePath name) (optionsIn (disk.at? (reportPlace disk name)))
    (bytesIn (disk.at? (capturePlace disk name)))

def renewed (disk : Disk) (name : String) : Entry :=
  .file (Text.bytes ((reportFor disk name).render .compact))

/-- The capture is a file, and no directory is where its report goes. -/
structure Renewable (disk : Disk) (name : String) : Prop where
  capture : ∃ bytes, disk.at? (capturePlace disk name) = some (.file bytes)
  free : disk.at? (reportPlace disk name) ≠ some .directory

theorem recordedOptions_eq (disk : Disk) (path : String) :
    recordedOptions disk path = optionsIn (disk.lookup? path) := by
  unfold recordedOptions Disk.read Disk.lookup?
  cases disk.resolve path with
  | error why => rfl
  | ok place =>
    cases hthere : disk.at? place with
    | none => simp [hthere, Except.toOption, optionsIn]
    | some entry =>
      cases entry with
      | directory => simp [hthere, Except.toOption, optionsIn]
      | file bytes =>
        simp only [hthere, Except.toOption, optionsIn]
        rfl

section Directory

variable (leads : disk.Leads (Samples.directoryOf name) (directoryPlace disk name))
  (hname : Disk.IsName name)

include leads hname

/-- A capture that is a file has a report, and no other has. -/
theorem decode_capture (options : Options) :
    (Capture.decode (capturePath name)
        (BufferedFeed.ofScript (scriptOf disk (capturePath name)) Wire.readSize) options).result =
      match disk.at? (capturePlace disk name) with
      | some (.file bytes) => .ok (Capture.reportOn (capturePath name) options bytes)
      | some .directory => .error (.source (.io OsError.isDirectory.message))
      | none => .error (.source (.io OsError.notFound.message)) := by
  have hread : disk.read (capturePath name) =
      match disk.at? (capturePlace disk name) with
      | some (.file bytes) => .ok bytes
      | some .directory => .error .isDirectory
      | none => .error .notFound :=
    leads.read_join (by decide) (byteLength_directoryOf hname)
  rw [scriptOf, hread]
  cases disk.at? (capturePlace disk name) with
  | none => exact Capture.decode_failed _ _ _
  | some entry =>
    cases entry with
    | directory => exact Capture.decode_failed _ _ _
    | file bytes => exact Capture.decode_file _ _ _

theorem recordedOptions_report :
    recordedOptions disk (reportPath name) = optionsIn (disk.at? (reportPlace disk name)) := by
  rw [recordedOptions_eq]
  exact congrArg optionsIn (leads.lookup?_join (by decide) (byteLength_directoryOf hname))

theorem write_report (bytes : List UInt8) :
    disk.write (reportPath name) bytes =
      if disk.at? (reportPlace disk name) = some .directory then .error .isDirectory
      else .ok (disk.put (reportPlace disk name) (.file bytes)) :=
  leads.write_join (by decide) (byteLength_directoryOf hname) bytes

/-- A report is made anew exactly if its capture is a file and it can be written. -/
theorem regenerateOne_ok_iff :
    regenerateOne disk (capturePath name) (reportPath name) = .ok after ↔
      Renewable disk name ∧ after = disk.put (reportPlace disk name) (renewed disk name) := by
  simp only [regenerateOne, decode_capture leads hname, recordedOptions_report leads hname,
    write_report leads hname]
  -- the capture decides whether there is a report, and then its place whether it is written
  by_cases hcapture : ∃ bytes, disk.at? (capturePlace disk name) = some (.file bytes)
  · rcases hcapture with ⟨bytes, hfile⟩
    by_cases hfree : disk.at? (reportPlace disk name) = some .directory
    · have hnot : ¬Renewable disk name := fun h => h.free hfree
      simp [hfile, hfree, hnot]
    · have hrenewable : Renewable disk name := ⟨⟨bytes, hfile⟩, hfree⟩
      simp [hfile, hfree, hrenewable, renewed, reportFor, bytesIn, eq_comm]
  · have hnot : ¬Renewable disk name := fun h => hcapture h.capture
    cases hthere : disk.at? (capturePlace disk name) with
    | none => simp [hnot]
    | some entry =>
      cases entry with
      | directory => simp [hnot]
      | file bytes => exact absurd ⟨bytes, hthere⟩ hcapture

end Directory

/-- What is written is read back with its options. -/
theorem optionsIn_render {report : Report} (h : report.Storable) (layout : Json.Layout) :
    optionsIn (some (.file (Text.bytes (report.render layout)))) = report.options := by
  have hread : (Text.ofBytes? (Text.bytes (report.render layout))).bind Report.parse? =
      some report := by
    rw [Text.ofBytes?_bytes, Option.bind_some, h.parse?_render]
  simp only [optionsIn, hread]

/-- So a report that is made anew has the options of the one before it. -/
theorem optionsIn_renewed (bounded : disk.Bounded) (name : String) :
    optionsIn (some (renewed disk name)) = optionsIn (disk.at? (reportPlace disk name)) := by
  have hlength : (bytesIn (disk.at? (capturePlace disk name))).length < UInt64.size := by
    unfold bytesIn
    split
    · next hfile => exact bounded.length_lt hfile
    · decide
  have hstorable : (reportFor disk name).Storable := Capture.storable_reportOn _ _ hlength
  exact optionsIn_render hstorable .compact

/-! ## A disk with new reports -/

/-- The reports of these directories have been made anew, and everything else is as it was. -/
structure Renews (before : Disk) (names : List String) (after : Disk) : Prop where
  workingDir : after.workingDir = before.workingDir
  renewable : ∀ name ∈ names, HoldsCapture before name → Renewable before name
  renewed : ∀ name ∈ names, HoldsCapture before name →
    after.at? (reportPlace before name) = some (renewed before name)
  kept : ∀ place, (∀ name ∈ names, HoldsCapture before name → place ≠ reportPlace before name) →
    after.at? place = before.at? place

namespace Renews

theorem nil (disk : Disk) : Renews disk [] disk := by
  constructor <;> simp

/-- A name without a capture has no report to be made. -/
theorem skip (h : Renews before names after) (hnot : ¬HoldsCapture before name) :
    Renews before (names ++ [name]) after := by
  have hmem {other : String} (hother : other ∈ names ++ [name])
      (holds : HoldsCapture before other) : other ∈ names := by
    rcases List.mem_append.1 hother with hmem | hlast
    · exact hmem
    · rw [List.mem_singleton.1 hlast] at holds
      exact absurd holds hnot
  constructor
  · exact h.workingDir
  · exact fun other hother holds => h.renewable other (hmem hother holds) holds
  · exact fun other hother holds => h.renewed other (hmem hother holds) holds
  · intro place hplace
    exact h.kept place fun other hother => hplace other (List.mem_append_left _ hother)

/-- The report of one more name is put in its place. -/
theorem renew (h : Renews before names after) (holds : HoldsCapture before name)
    (renewable : Renewable before name) :
    Renews before (names ++ [name])
      (after.put (reportPlace before name) (Golden.renewed before name)) := by
  constructor
  · exact h.workingDir
  · intro other hother holds'
    rcases List.mem_append.1 hother with hmem | hlast
    · exact h.renewable other hmem holds'
    · rwa [List.mem_singleton.1 hlast]
  · intro other hother holds'
    by_cases hsame : other = name
    · rw [hsame]
      exact Disk.at?_put_self _ _ (by simp [reportPlace])
    · -- the reports of two names lie in two places
      have hmem : other ∈ names := by simpa [hsame] using hother
      rw [Disk.at?_put_of_ne _ _ fun hplace => hsame (reportPlace_inj hplace)]
      exact h.renewed other hmem holds'
  · intro place hplace
    rw [Disk.at?_put_of_ne _ _ (hplace name (by simp) holds)]
    exact h.kept place fun other hother => hplace other (List.mem_append_left _ hother)

/-- What is renewed does not depend on the order. -/
theorem at?_eq {names' : List String} {after' : Disk} (h : Renews before names after)
    (h' : Renews before names' after')
    (hmem : ∀ name, HoldsCapture before name → (name ∈ names ↔ name ∈ names')) (place : Place) :
    after'.at? place = after.at? place := by
  by_cases hplace : ∃ name ∈ names, HoldsCapture before name ∧ place = reportPlace before name
  · rcases hplace with ⟨name, hname, holds, rfl⟩
    rw [h.renewed name hname holds, h'.renewed name ((hmem name holds).1 hname) holds]
  · have hnot : ∀ name ∈ names, HoldsCapture before name → place ≠ reportPlace before name :=
      fun name hname holds hsame => hplace ⟨name, hname, holds, hsame⟩
    rw [h.kept place hnot, h'.kept place]
    exact fun name hname holds => hnot name ((hmem name holds).2 hname) holds

section Places

variable (h : Renews before names after)

include h

theorem rootPlace_eq : rootPlace after = rootPlace before := by
  rw [rootPlace, rootPlace, h.workingDir]

theorem directoryPlace_eq (name : String) :
    directoryPlace after name = directoryPlace before name := by
  rw [directoryPlace, directoryPlace, h.rootPlace_eq]

theorem capturePlace_eq (name : String) : capturePlace after name = capturePlace before name := by
  rw [capturePlace, capturePlace, h.directoryPlace_eq]

theorem reportPlace_eq (name : String) : reportPlace after name = reportPlace before name := by
  rw [reportPlace, reportPlace, h.directoryPlace_eq]

theorem at?_of_ne {place : Place} (hplace : ∀ name, place ≠ reportPlace before name) :
    after.at? place = before.at? place :=
  h.kept place fun name _ _ => hplace name

theorem at?_capturePlace (name : String) :
    after.at? (capturePlace after name) = before.at? (capturePlace before name) := by
  rw [h.capturePlace_eq]
  exact h.at?_of_ne (capturePlace_ne before name)

theorem holdsCapture_iff (name : String) : HoldsCapture after name ↔ HoldsCapture before name := by
  have hdirectory : after.at? (directoryPlace after name) =
      before.at? (directoryPlace before name) := by
    rw [h.directoryPlace_eq]
    exact h.at?_of_ne (directoryPlace_ne before name)
  constructor
  · rintro ⟨hdir, hcapture⟩
    exact ⟨hdirectory ▸ hdir, h.at?_capturePlace name ▸ hcapture⟩
  · rintro ⟨hdir, hcapture⟩
    exact ⟨hdirectory.trans hdir, h.at?_capturePlace name ▸ hcapture⟩

/-- A report that is new has the options of the one that it replaced. -/
theorem optionsIn_eq (bounded : before.Bounded) (name : String) :
    optionsIn (after.at? (reportPlace after name)) =
      optionsIn (before.at? (reportPlace before name)) := by
  rw [h.reportPlace_eq]
  -- the report is new and was made with these options, or it is the old one still
  by_cases hname : name ∈ names ∧ HoldsCapture before name
  · rw [h.renewed name hname.1 hname.2]
    exact optionsIn_renewed bounded name
  · rw [h.kept]
    intro other hother holds hsame
    rw [reportPlace_inj hsame] at hname
    exact hname ⟨hother, holds⟩

/-- What would be written now is what would have been written before. -/
theorem renewed_eq (bounded : before.Bounded) (name : String) :
    Golden.renewed after name = Golden.renewed before name := by
  rw [Golden.renewed, Golden.renewed, reportFor, reportFor, h.optionsIn_eq bounded,
    h.at?_capturePlace]

theorem renewable_iff (holds : HoldsCapture before name) :
    Renewable after name ↔ Renewable before name := by
  by_cases hname : name ∈ names
  · have hbefore := h.renewable name hname holds
    have hnew := h.renewed name hname holds
    simp only [hbefore, iff_true]
    constructor
    · rw [h.at?_capturePlace]
      exact hbefore.capture
    · rw [h.reportPlace_eq, hnew]
      simp [Golden.renewed]
  · have hreport : after.at? (reportPlace after name) = before.at? (reportPlace before name) := by
      rw [h.reportPlace_eq]
      apply h.kept
      intro other hother _ hsame
      exact hname (reportPlace_inj hsame ▸ hother)
    constructor
    · rintro ⟨hcapture, hfree⟩
      exact ⟨h.at?_capturePlace name ▸ hcapture, hreport ▸ hfree⟩
    · rintro ⟨hcapture, hfree⟩
      exact ⟨h.at?_capturePlace name ▸ hcapture, hreport ▸ hfree⟩

theorem leads_root (hroot : before.Leads Samples.root (rootPlace before)) :
    after.Leads Samples.root (rootPlace after) := by
  -- reports lie below the root, so the way to it is as it was
  have hlength {place : Place} (hplace : place.length ≤ (rootPlace before).length) :
      after.at? place = before.at? place := by
    apply h.at?_of_ne
    rintro name rfl
    have hlonger : (reportPlace before name).length = (rootPlace before).length + 2 := by
      simp [reportPlace, directoryPlace]
    omega
  rw [leads_root_iff] at hroot ⊢
  rw [h.rootPlace_eq, h.workingDir, hlength (by simp [rootPlace]), hlength (by simp [rootPlace]),
    hlength (Nat.le_refl _)]
  exact hroot

end Places

end Renews

/-! ## All reports -/

theorem regenerateEach_of_passed
    (h : ¬(disk.isDirectory (Samples.directoryOf name) && disk.reaches (capturePath name)) = true)
    (rest : List String) :
    regenerateEach disk (name :: rest) = regenerateEach disk rest := by
  unfold capturePath at h
  rw [regenerateEach]
  exact if_neg h

section Reached

variable
  (h : (disk.isDirectory (Samples.directoryOf name) && disk.reaches (capturePath name)) = true)

include h

theorem regenerateEach_of_ok
    (hone : regenerateOne disk (capturePath name) (reportPath name) = .ok after)
    (rest : List String) : regenerateEach disk (name :: rest) = regenerateEach after rest := by
  unfold capturePath at h hone
  unfold reportPath at hone
  simp only [regenerateEach, if_pos h, hone]

theorem regenerateEach_of_error {problem : String}
    (hone : regenerateOne disk (capturePath name) (reportPath name) = .error problem)
    (rest : List String) : regenerateEach disk (name :: rest) = (disk, some problem) := by
  unfold capturePath at h hone
  unfold reportPath at hone
  simp only [regenerateEach, if_pos h, hone]

end Reached

section Each

variable (hroot : before.Leads Samples.root (rootPlace before)) (bounded : before.Bounded)

include hroot bounded

/-- A name is passed over, or its report is made anew, or it cannot be. -/
theorem regenerateEach_cons (renews : Renews before done disk) (hname : Disk.IsName name)
    (rest : List String) :
    (¬HoldsCapture before name ∧ regenerateEach disk (name :: rest) = regenerateEach disk rest) ∨
    (HoldsCapture before name ∧ Renewable before name ∧
      regenerateEach disk (name :: rest) =
        regenerateEach (disk.put (reportPlace before name) (renewed before name)) rest) ∨
    (HoldsCapture before name ∧ ¬Renewable before name ∧
      (regenerateEach disk (name :: rest)).2 ≠ none) := by
  have leads := renews.leads_root hroot
  have hpassed := (holdsCapture_iff leads hname).trans (renews.holdsCapture_iff name)
  by_cases holds : HoldsCapture before name
  · have hdirectory := ((renews.holdsCapture_iff name).2 holds).directory
    have hone (after : Disk) :
        regenerateOne disk (capturePath name) (reportPath name) = .ok after ↔ _ :=
      regenerateOne_ok_iff (leads_directoryOf leads hname hdirectory) hname
    -- what one name comes to is told by the disk as it was at first
    simp only [renews.renewable_iff holds, renews.reportPlace_eq, renews.renewed_eq bounded] at hone
    by_cases hrenewable : Renewable before name
    · have hok := (hone _).2 ⟨hrenewable, rfl⟩
      exact .inr (.inl ⟨holds, hrenewable, regenerateEach_of_ok (hpassed.2 holds) hok rest⟩)
    · refine .inr (.inr ⟨holds, hrenewable, ?_⟩)
      cases hresult : regenerateOne disk (capturePath name) (reportPath name) with
      | ok after => exact absurd ((hone after).1 hresult).1 hrenewable
      | error problem =>
        rw [regenerateEach_of_error (hpassed.2 holds) hresult rest]
        exact Option.some_ne_none problem
  · exact .inl ⟨holds, regenerateEach_of_passed (mt hpassed.1 holds) rest⟩

/-- All the reports of these names are made anew if each can be. -/
theorem regenerateEach_renews (renews : Renews before done disk)
    (hnames : ∀ name ∈ names, Disk.IsName name)
    (hrenewable : ∀ name ∈ names, HoldsCapture before name → Renewable before name) :
    ∃ after, regenerateEach disk names = (after, none) ∧ Renews before (done ++ names) after := by
  -- on the names: those that were gone through move over to `done`
  induction names generalizing disk done with
  | nil => exact ⟨disk, rfl, by rwa [List.append_nil]⟩
  | cons name rest ih =>
    have hrest {disk : Disk} (renews : Renews before (done ++ [name]) disk) :=
      ih renews (fun other hother => hnames other (by simp [hother]))
        fun other hother => hrenewable other (by simp [hother])
    simp only [List.append_assoc, List.singleton_append] at hrest
    rcases regenerateEach_cons hroot bounded renews (hnames name (by simp)) rest with
      ⟨hnot, hcons⟩ | ⟨holds, hcan, hcons⟩ | ⟨holds, hcannot, -⟩
    · rw [hcons]
      exact hrest (renews.skip hnot)
    · rw [hcons]
      exact hrest (renews.renew holds hcan)
    · exact absurd (hrenewable name (by simp) holds) hcannot

/-- Going through names succeeds only if each report can be made. -/
theorem renewable_of_regenerateEach (renews : Renews before done disk)
    (hnames : ∀ name ∈ names, Disk.IsName name) (hdone : (regenerateEach disk names).2 = none) :
    ∀ name ∈ names, HoldsCapture before name → Renewable before name := by
  induction names generalizing disk done with
  | nil => simp
  | cons name rest ih =>
    have hrest {disk : Disk} (renews : Renews before (done ++ [name]) disk) :=
      ih renews fun other hother => hnames other (by simp [hother])
    rcases regenerateEach_cons hroot bounded renews (hnames name (by simp)) rest with
      ⟨hnot, hcons⟩ | ⟨holds, hcan, hcons⟩ | ⟨-, -, hfailed⟩
    · rw [hcons] at hdone
      intro other hother holds
      rcases List.mem_cons.1 hother with rfl | hmem
      · exact absurd holds hnot
      · exact hrest (renews.skip hnot) hdone other hmem holds
    · rw [hcons] at hdone
      intro other hother holds'
      rcases List.mem_cons.1 hother with rfl | hmem
      · exact hcan
      · exact hrest (renews.renew holds hcan) hdone other hmem holds'
    · exact absurd hdone hfailed

end Each

/-! ## Runs -/

theorem regenerateIn_eq (disk : Disk) (names : List String) :
    (regenerateIn disk names).disk = (regenerateEach disk names).1 ∧
      ((regenerateIn disk names).exitCode = 0 ↔ (regenerateEach disk names).2 = none) := by
  unfold regenerateIn
  cases heach : regenerateEach disk names with
  | mk after problem => cases problem <;> simp [failed]

/-- The runs of the program on a disk, one for each order in which the names may be listed. -/
inductive Runs (disk : Disk) : Run → Prop
  | fails {why : OsError} (hlist : disk.list Samples.root = .error why) :
      Runs disk (unlisted disk why)
  | goesThrough {listing names : List String} (hlist : disk.list Samples.root = .ok listing)
      (hperm : names.Perm listing) : Runs disk (regenerateIn disk names)

namespace Runs

/-- The names in rising order are one of them. -/
theorem regenerate (disk : Disk) : Runs disk (regenerate disk) := by
  unfold Golden.regenerate
  cases hlist : disk.list Samples.root with
  | error why => exact .fails hlist
  | ok names => exact .goesThrough hlist (.refl names)

theorem exists_names {run : Run} (h : Runs disk run) (hexit : run.exitCode = 0) :
    ∃ listing names, disk.list Samples.root = .ok listing ∧ names.Perm listing ∧
      regenerateEach disk names = (run.disk, none) := by
  cases h with
  | fails hlist => cases hexit
  | @goesThrough listing names hlist hperm =>
    rcases regenerateIn_eq disk names with ⟨hdisk, hdone⟩
    exact ⟨listing, names, hlist, hperm, Prod.ext hdisk.symm (hdone.1 hexit)⟩

end Runs

/-- The listing of the root has everything that stands in it. -/
theorem leads_of_list (hlist : disk.list Samples.root = .ok names) :
    disk.Leads Samples.root (rootPlace disk) ∧
      ∀ name, name ∈ names ↔ disk.at? (directoryPlace disk name) ≠ none := by
  rcases Disk.leads_of_list hlist with ⟨place, leads, rfl⟩
  have hplace : place = rootPlace disk := by
    rw [← Disk.walk_eq_foldl leads.walk]
    have horigin : disk.origin Samples.root = disk.workingDir := rfl
    simp [steps_root, horigin, Disk.next, rootPlace]
  rw [hplace] at leads ⊢
  exact ⟨leads, fun name => Disk.mem_children_iff⟩

/-- Every run on `disk` succeeds and leaves what is on `after`. -/
def RegeneratesTo (disk after : Disk) : Prop :=
  ∀ run, Runs disk run → run.exitCode = 0 ∧ ∀ place, run.disk.at? place = after.at? place

/-- Some reports being new already, the rest of them come out the same in every order. -/
theorem Renews.regeneratesTo (renews : Renews before done disk) (final : Renews before names after)
    (hroot : before.Leads Samples.root (rootPlace before)) (named : before.Named)
    (bounded : before.Bounded)
    (hall : ∀ name, HoldsCapture before name → name ∈ names) : RegeneratesTo disk after := by
  have hlist := (renews.leads_root hroot).list_eq
  have hmem (name : String) : name ∈ disk.children (rootPlace disk) ↔
      before.at? (directoryPlace before name) ≠ none := by
    rw [Disk.mem_children_iff, ← directoryPlace, renews.directoryPlace_eq,
      renews.at?_of_ne (directoryPlace_ne before name)]
  intro run hrun
  cases hrun with
  | fails hfails => cases hlist.symm.trans hfails
  | @goesThrough listing others hlisting hperm =>
    cases hlist.symm.trans hlisting
    have hnames : ∀ name ∈ others, Disk.IsName name := by
      intro name hname
      exact named.isName ((hmem name).1 (hperm.mem_iff.1 hname))
    have hrenewable : ∀ name ∈ others, HoldsCapture before name → Renewable before name :=
      fun name _ holds => final.renewable name (hall name holds) holds
    rcases regenerateEach_renews hroot bounded renews hnames hrenewable with
      ⟨found, heach, hfound⟩
    rcases regenerateIn_eq disk others with ⟨hdisk, hdone⟩
    rw [heach] at hdisk hdone
    refine ⟨hdone.2 rfl, ?_⟩
    rw [hdisk]
    -- both disks have the same reports new, since every capture is among either names
    refine final.at?_eq hfound ?_
    intro name holds
    have hlisted : name ∈ others := hperm.mem_iff.2 ((hmem name).2 (by simp [holds.directory]))
    simp [hall name holds, hlisted]

/-- A run that succeeds, in whatever order it takes the names, changes reports beside captures only.
Each of them is then the report on its capture with the options of the report that stood there
before, and these options are kept. Every other run on the same disk succeeds and leaves the same,
and so does every run after it. -/
theorem regenerate_settles {disk : Disk} {run : Run} (named : disk.Named) (bounded : disk.Bounded)
    (hrun : Runs disk run) (hexit : run.exitCode = 0) :
    let after := run.disk
    (∀ place, after.at? place ≠ disk.at? place →
      ∃ name, HoldsCapture disk name ∧ place = reportPlace disk name) ∧
    (∀ name, HoldsCapture disk name → ∃ bytes report,
      disk.at? (capturePlace disk name) = some (.file bytes) ∧
      (Capture.decode (capturePath name) (DecodeRequest.fileFeed bytes)
        (optionsIn (disk.at? (reportPlace disk name)))).result = .ok report ∧
      after.at? (reportPlace disk name) = some (.file (Text.bytes (report.render .compact))) ∧
      optionsIn (after.at? (reportPlace disk name)) =
        optionsIn (disk.at? (reportPlace disk name))) ∧
    RegeneratesTo disk after ∧
    RegeneratesTo after after ∧
    (regenerate after).exitCode = 0 ∧
    ∀ place, (regenerate after).disk.at? place = after.at? place := by
  intro after
  rcases hrun.exists_names hexit with ⟨listing, names, hlist, hperm, heach⟩
  rcases leads_of_list hlist with ⟨hroot, hlisting⟩
  have hmem (name : String) : name ∈ names ↔ disk.at? (directoryPlace disk name) ≠ none :=
    hperm.mem_iff.trans (hlisting name)
  have hnames : ∀ name ∈ names, Disk.IsName name :=
    fun name hname => named.isName ((hmem name).1 hname)
  have hrenewable := renewable_of_regenerateEach hroot bounded (.nil disk) hnames (by rw [heach])
  have renews : Renews disk names after := by
    rcases regenerateEach_renews hroot bounded (.nil disk) hnames hrenewable with
      ⟨found, hagain, hfound⟩
    cases heach.symm.trans hagain
    exact hfound
  have hall : ∀ name, HoldsCapture disk name → name ∈ names :=
    fun name holds => (hmem name).2 (by simp [holds.directory])
  -- on the new disk all reports are new already, so its own runs renew the same ones
  have again : RegeneratesTo after after :=
    renews.regeneratesTo renews hroot named bounded hall
  refine ⟨?_, ?_, (Renews.nil disk).regeneratesTo renews hroot named bounded hall, again,
    again _ (.regenerate after)⟩
  · intro place hchanged
    by_contra hnot
    refine hchanged (renews.kept place ?_)
    intro name _ holds hplace
    exact hnot ⟨name, holds, hplace⟩
  · intro name holds
    rcases (hrenewable name (hall name holds) holds).capture with ⟨bytes, hfile⟩
    have hnew := renews.renewed name (hall name holds) holds
    rw [renewed, reportFor, hfile] at hnew
    have hoptions := renews.optionsIn_eq bounded name
    rw [renews.reportPlace_eq] at hoptions
    exact ⟨bytes, _, hfile, Capture.decode_file _ _ _, hnew, hoptions⟩

def repairingReport : Report :=
  Capture.reportOn "old.raw" { autoRepairAdps := true } []

/-- Two captures. A report that was made with the repair switched on stands beside the first. -/
def repairing : Disk where
  entries :=
    [(["tests"], .directory), (["tests", "golden"], .directory),
      (["tests", "golden", "a"], .directory),
      (["tests", "golden", "a", "input.raw"], .file [Wire.stx]),
      (["tests", "golden", "a", "expected_report.json"],
        .file (Text.bytes (repairingReport.render .compact))),
      (["tests", "golden", "b"], .directory),
      (["tests", "golden", "b", "input.raw"], .file [])]
  workingDir := []

/-- The second capture is taken first. The new report beside the other one is made with the repair
switched on, as the old one was. -/
theorem regenerate_settles_repairing :
    let run := regenerateIn repairing ["b", "a"]
    repairing.Named ∧ repairing.Bounded ∧ Runs repairing run ∧ run.exitCode = 0 ∧
      (∃ report, (Capture.decode "tests/golden/a/input.raw" (DecodeRequest.fileFeed [Wire.stx])
          { autoRepairAdps := true }).result = .ok report ∧
        run.disk.at? ["tests", "golden", "a", "expected_report.json"] =
          some (.file (Text.bytes (report.render .compact)))) ∧
      (regenerate repairing).exitCode = 0 ∧
      ∀ place, (regenerate repairing).disk.at? place = run.disk.at? place := by
  intro run
  have named : repairing.Named := by decide +kernel
  have bounded : repairing.Bounded := by
    have hlength : (Text.bytes (repairingReport.render .compact)).length < UInt64.size := by
      rw [Text.bytes, Report.render, Json.render, String.toList_ofList]
      decide +kernel
    simp [Disk.Bounded, repairing, Disk.size, hlength, UInt64.size]
  have hreport : repairing.at? (reportPlace repairing "a") =
      some (.file (Text.bytes (repairingReport.render .compact))) := rfl
  have hroot : repairing.Leads Samples.root (rootPlace repairing) :=
    leads_root_iff.2 ⟨rfl, by decide, by decide⟩
  have hlisted : ["a", "b"].Perm (repairing.children (rootPlace repairing)) :=
    (List.mergeSort_perm _ _).symm
  have hrun : Runs repairing run := .goesThrough hroot.list_eq ((List.Perm.swap _ _ _).trans hlisted)
  have hexit : run.exitCode = 0 := by
    have hrenewable : ∀ name ∈ ["b", "a"],
        HoldsCapture repairing name → Renewable repairing name := by
      intro name hname _
      rcases List.mem_pair.1 hname with rfl | rfl
      · exact ⟨⟨[], rfl⟩, by decide⟩
      · exact ⟨⟨[Wire.stx], rfl⟩, by simp [hreport]⟩
    rcases regenerateEach_renews hroot bounded (.nil repairing) (by decide) hrenewable with
      ⟨after, heach, -⟩
    rw [(regenerateIn_eq repairing ["b", "a"]).2, heach]
  have hstorable : repairingReport.Storable := Capture.storable_reportOn _ _ (by decide)
  rcases regenerate_settles named bounded hrun hexit with ⟨-, hnew, hothers, -⟩
  have holds : HoldsCapture repairing "a" := ⟨rfl, by decide⟩
  rcases hnew "a" holds with ⟨bytes, report, hfile, hdecode, hrenewed, -⟩
  rw [hreport, optionsIn_render hstorable] at hdecode
  cases hfile
  exact ⟨named, bounded, hrun, hexit, ⟨report, hdecode, hrenewed⟩,
    hothers _ (.regenerate repairing)⟩

end Golden
end TicMeter
