import Mathlib.Data.List.Infix
import TicMeter.Disk
import TicMeter.Proofs.Path

/-!
# Tree — what making directories and writing a file leave as it was

* `Disk.Grows`: a disk that still has everything an earlier one had, so every path that led
  somewhere still leads there (`Disk.Grows.walk_ok`).
* `Disk.Builds`: making directories makes a disk grow (`Disk.createDirectories_builds`), by nothing
  but directories (`Disk.Builds.at?_file`).
* `Disk.IsTree`, `Disk.Retraceable`: everything lies in a directory; a path steps back out of places
  only that are there. On a tree such a path leads to an old place only if it led there before the
  disk grew (`Disk.IsTree.walk_before`).
* `Disk.write_ok`, `Disk.destination_eq`: a file is written where its path leads, in a directory
  that is there.
-/

namespace TicMeter
namespace Disk

variable {disk before after : Disk} {place start target : Place} {path : String}

/-! ## Putting -/

theorem at?_put_self (disk : Disk) (entry : Entry) (hplace : place ≠ []) :
    (disk.put place entry).at? place = some entry := by
  have hnone : (disk.entries.filter (·.1 != place)).find? (·.1 == place) = none := by
    simp [List.find?_eq_none]
  simp [at?, put, hplace, hnone]

theorem at?_put_of_ne (disk : Disk) (entry : Entry) {other : Place} (hne : other ≠ place) :
    (disk.put place entry).at? other = disk.at? other := by
  have hfind : (disk.entries.filter (·.1 != place)).find? (·.1 == other) =
      disk.entries.find? (·.1 == other) := by
    rw [List.find?_filter]
    congr 1
    funext entry
    grind
  simp [at?, put, hfind, Ne.symm hne]

/-! ## Growing -/

/-- Everything that was there is there still. -/
structure Grows (before after : Disk) : Prop where
  workingDir : after.workingDir = before.workingDir
  kept : ∀ place, before.at? place ≠ none → after.at? place = before.at? place

namespace Grows

theorem refl (disk : Disk) : disk.Grows disk :=
  ⟨rfl, fun _ _ => rfl⟩

theorem trans {later : Disk} (h : before.Grows after) (h' : after.Grows later) :
    before.Grows later := by
  constructor
  · exact h'.workingDir.trans h.workingDir
  · intro place hplace
    have hafter := h.kept place hplace
    rw [← hafter] at hplace ⊢
    exact h'.kept place hplace

theorem put (entry : Entry) (hfree : disk.at? place = none) :
    disk.Grows (disk.put place entry) := by
  constructor
  · rfl
  · intro other hother
    have hne : other ≠ place := by
      rintro rfl
      exact hother hfree
    exact at?_put_of_ne disk entry hne

theorem origin_eq (h : before.Grows after) (path : String) :
    after.origin path = before.origin path := by
  simp [origin, h.workingDir]

end Grows

/-- Directories are put one after the other, each where nothing was. -/
inductive Builds : Disk → Disk → Prop
  | none (disk : Disk) : Builds disk disk
  | directory {before after : Disk} {place : Place} (free : before.at? place = .none)
      (rest : Builds (before.put place .directory) after) : Builds before after

namespace Builds

theorem trans {later : Disk} (h : before.Builds after) (h' : after.Builds later) :
    before.Builds later := by
  induction h with
  | none => exact h'
  | directory free _ ih => exact .directory free (ih h')

theorem grows (h : before.Builds after) : before.Grows after := by
  induction h with
  | none disk => exact .refl disk
  | directory free _ ih => exact (Grows.put _ free).trans ih

/-- What was not there before is a directory. -/
theorem at?_file (h : before.Builds after) {bytes : List UInt8} :
    after.at? place = some (.file bytes) ↔ before.at? place = some (.file bytes) := by
  constructor
  · intro hfile
    induction h with
    | none => exact hfile
    | @directory before _ new free _ ih =>
      by_cases hplace : place = new
      · have hput := ih hfile
        have hne : new ≠ [] := by
          rintro rfl
          cases free
        rw [hplace, at?_put_self before _ hne] at hput
        cases hput
      · rw [← at?_put_of_ne before .directory hplace]
        exact ih hfile
  · intro hfile
    rw [h.grows.kept place (by simp [hfile]), hfile]

end Builds

theorem createDirectory_builds (h : disk.createDirectory path = .ok after) :
    disk.Builds after := by
  unfold createDirectory at h
  split at h
  · cases h
  · cases h
  · next place name hlocate =>
    split_ifs at h with hdots hlong hthere
    cases h
    exact .directory (by simpa using hthere) (.none _)

theorem missing_builds {paths rest : List String} (h : disk.missing paths = .ok (rest, after)) :
    disk.Builds after := by
  induction paths generalizing rest with
  | nil =>
    cases h
    exact .none disk
  | cons path parents ih =>
    unfold missing at h
    split at h
    · next made hmade =>
      cases h
      exact createDirectory_builds hmade
    -- a directory that misses its parent is not made yet, so the disk is the one at hand
    · cases hrest : disk.missing parents with
      | error why =>
        rw [hrest] at h
        cases h
      | ok found =>
        rw [hrest] at h
        cases h
        exact ih hrest
    · split_ifs at h
      cases h
      exact .none disk
    · cases h

theorem createEach_builds (disk : Disk) (paths : List String) :
    disk.Builds (disk.createEach paths).1 := by
  induction paths generalizing disk with
  | nil => exact .none disk
  | cons path rest ih =>
    unfold createEach
    split
    · next made hmade => exact (createDirectory_builds hmade).trans (ih made)
    · split_ifs
      · exact ih disk
      · exact .none disk
    · exact .none disk

theorem createDirectories_builds (disk : Disk) (path : String) :
    disk.Builds (disk.createDirectories path).1 := by
  unfold createDirectories
  split
  · exact .none disk
  · next rest made hmade => exact (missing_builds hmade).trans (createEach_builds made _)

/-! ## Following paths -/

theorem walk_cons_ok {name : String} {rest : List String} :
    disk.walk start (name :: rest) = .ok target ↔
      disk.at? start = some .directory ∧ isTooLong name = false ∧
        disk.at? (next start name) ≠ none ∧ disk.walk (next start name) rest = .ok target := by
  rw [walk]
  split
  · next hdir =>
    split_ifs with hlong hthere
    · simp [hlong]
    · rw [Option.isSome_iff_ne_none] at hthere
      simp [hdir, hlong, hthere]
    · rw [Option.isSome_iff_ne_none, not_ne_iff] at hthere
      simp [hthere]
  · next hdir =>
    constructor
    · intro h
      cases h
    · intro h
      exact absurd h.1 hdir

/-- Names are followed one after the other, up to the first error. -/
theorem walk_append (disk : Disk) (start : Place) (front back : List String) :
    disk.walk start (front ++ back) = (disk.walk start front).bind (disk.walk · back) := by
  induction front generalizing start with
  | nil => rfl
  | cons name front ih =>
    simp only [List.cons_append, walk]
    split
    · split_ifs
      · rfl
      · exact ih _
      · rfl
    · rfl

theorem walk_append_ok {front back : List String} :
    disk.walk start (front ++ back) = .ok target ↔
      ∃ place, disk.walk start front = .ok place ∧ disk.walk place back = .ok target := by
  rw [walk_append]
  cases disk.walk start front <;> simp [Except.bind]

/-- Where a path leads once every directory on its way is there. -/
def destination (disk : Disk) (path : String) : Place :=
  (Path.steps path).foldl next (disk.origin path)

theorem walk_eq_foldl {names : List String} (hwalk : disk.walk start names = .ok target) :
    names.foldl next start = target := by
  induction names generalizing start with
  | nil =>
    cases hwalk
    rfl
  | cons name rest ih =>
    rcases walk_cons_ok.1 hwalk with ⟨-, -, -, hrest⟩
    exact ih hrest

/-- Names lead only to what is there. -/
theorem at?_ne_none_of_walk {names : List String} (hwalk : disk.walk start names = .ok target)
    (hstart : disk.at? start ≠ none) : disk.at? target ≠ none := by
  induction names generalizing start with
  | nil =>
    cases hwalk
    exact hstart
  | cons name rest ih =>
    rcases walk_cons_ok.1 hwalk with ⟨-, -, hnext, hrest⟩
    exact ih hrest hnext

theorem walk_dots {dots : List String} (hdots : ∀ step ∈ dots, step = ".")
    (hwalk : disk.walk start dots = .ok target) : target = start := by
  induction dots with
  | nil =>
    cases hwalk
    rfl
  | cons step dots ih =>
    cases hdots step List.mem_cons_self
    rcases walk_cons_ok.1 hwalk with ⟨-, -, -, hrest⟩
    exact ih (fun step hstep => hdots step (List.mem_cons_of_mem _ hstep)) hrest

theorem Grows.walk_ok (h : before.Grows after) {names : List String}
    (hwalk : before.walk start names = .ok target) : after.walk start names = .ok target := by
  induction names generalizing start with
  | nil => exact hwalk
  | cons name rest ih =>
    rcases walk_cons_ok.1 hwalk with ⟨hdir, hshort, hnext, hrest⟩
    have hdir' : after.at? start = some .directory := by
      rw [h.kept start (by simp [hdir]), hdir]
    have hnext' : after.at? (next start name) ≠ none := by
      rwa [h.kept _ hnext]
    exact walk_cons_ok.2 ⟨hdir', hshort, hnext', ih hrest⟩

theorem resolve_ok (hrefusal : refusal? path = none)
    (hwalk : disk.walk (disk.origin path) (Path.steps path) = .ok place)
    (hdir : disk.at? place = some .directory) : disk.resolve path = .ok place := by
  simp [resolve, hrefusal, hwalk, hdir]

theorem walk_of_resolve (h : disk.resolve path = .ok place) :
    refusal? path = none ∧ disk.walk (disk.origin path) (Path.steps path) = .ok place := by
  unfold resolve at h
  split at h
  · cases h
  · next hrefusal =>
    split at h
    · cases h
    · next hwalk =>
      split_ifs at h
      cases h
      exact ⟨hrefusal, hwalk⟩

/-! ## Trees -/

/-- Everything lies in a directory, and the working directory is one. -/
structure IsTree (disk : Disk) : Prop where
  above : ∀ entry ∈ disk.entries, disk.at? entry.1.dropLast = some .directory
  workingDir : disk.at? disk.workingDir = some .directory

/-- Wherever the path steps back, there is something to step back from. -/
def Retraceable (disk : Disk) (path : String) : Prop :=
  ∀ front, front ++ [".."] <+: Path.steps path → (disk.walk (disk.origin path) front).isOk

instance (disk : Disk) : Decidable disk.IsTree :=
  decidable_of_iff
    ((∀ entry ∈ disk.entries, disk.at? entry.1.dropLast = some .directory) ∧
      disk.at? disk.workingDir = some .directory)
    ⟨fun h => ⟨h.1, h.2⟩, fun h => ⟨h.above, h.workingDir⟩⟩

instance (disk : Disk) (path : String) : Decidable (disk.Retraceable path) :=
  decidable_of_iff
    (∀ front ∈ (Path.steps path).inits, front ++ [".."] <+: Path.steps path →
      (disk.walk (disk.origin path) front).isOk)
    ⟨fun h front hfront =>
        h front ((List.mem_inits _ _).2 ((List.prefix_append _ _).trans hfront)) hfront,
      fun h front _ => h front⟩

namespace IsTree

theorem at?_of_child (h : disk.IsTree) {name : String}
    (hchild : disk.at? (place ++ [name]) ≠ none) : disk.at? place = some .directory := by
  unfold at? at hchild
  cases hfind : disk.entries.find? (·.1 == place ++ [name]) with
  | none => simp [hfind] at hchild
  | some entry =>
    have hplace : entry.1 = place ++ [name] := by
      simpa using List.find?_some hfind
    have habove := h.above entry (List.mem_of_find?_eq_some hfind)
    rwa [hplace, List.dropLast_concat] at habove

theorem at?_origin (h : disk.IsTree) (path : String) : disk.at? (disk.origin path) ≠ none := by
  unfold origin
  split_ifs
  · simp [at?]
  · simp [h.workingDir]

/-- Names that lead to an old place of a disk that has grown led there before, if each place from
which they step back was there. -/
theorem walk_before (tree : before.IsTree) (grows : before.Grows after) {names : List String}
    (hstart : before.at? start ≠ none)
    (hback : ∀ front, front ++ [".."] <+: names → (before.walk start front).isOk)
    (hwalk : after.walk start names = .ok target) (htarget : before.at? target ≠ none) :
    before.walk start names = .ok target := by
  -- on the last name: on a tree, an old place makes the place before it old
  induction names using List.reverseRecOn generalizing target with
  | nil => exact hwalk
  | append_singleton front name ih =>
    rcases walk_append_ok.1 hwalk with ⟨place, hfront, hname⟩
    rcases walk_cons_ok.1 hname with ⟨hdir, hshort, hnext, htarget'⟩
    cases htarget'
    have hbefore : before.walk start front = .ok place := by
      by_cases hdots : name = ".."
      · have hok := hback front (hdots ▸ List.prefix_rfl)
        cases hplace : before.walk start front with
        | error why =>
          rw [hplace] at hok
          cases hok
        | ok place' =>
          cases (grows.walk_ok hplace).symm.trans hfront
          rfl
      · have hthere : before.at? place ≠ none := by
          by_cases hdot : name = "."
          · simpa [next, hdot] using htarget
          · have hchild : before.at? (place ++ [name]) ≠ none := by
              simpa [next, hdot, hdots] using htarget
            simp [tree.at?_of_child hchild]
        refine ih (fun outer houter => hback outer ?_) hfront hthere
        exact houter.trans (List.prefix_append _ _)
    have hthere := at?_ne_none_of_walk hbefore hstart
    have hdir' : before.at? place = some .directory := by
      rw [← grows.kept place hthere, hdir]
    exact walk_append_ok.2 ⟨place, hbefore, walk_cons_ok.2 ⟨hdir', hshort, htarget, rfl⟩⟩

end IsTree

/-! ## Writing -/

/-- A path that ends in a name leads to that name in the directory before it. -/
theorem destination_of_ends (disk : Disk) {front : List String} {name : String}
    (hends : Path.Ends path front name) :
    disk.destination path = front.foldl next (disk.origin path) ++ [name] := by
  rw [destination, hends.steps_eq, List.foldl_concat]
  simp [next, hends.ne_dot, hends.ne_dots]

/-- The directory may be made only later. -/
theorem destination_eq {front : List String} {name : String} (hends : Path.Ends path front name)
    (hwalk : after.walk (disk.origin path) front = .ok place) :
    disk.destination path = place ++ [name] := by
  rw [disk.destination_of_ends hends, walk_eq_foldl hwalk]

theorem destination_of_resolve (h : disk.resolve path = .ok place) :
    disk.destination path = place :=
  walk_eq_foldl (walk_of_resolve h).2

/-- The name of a path lies in the directory to which its parent leads. -/
theorem destination_parent (disk : Disk) {parent : String} {front : List String} {name : String}
    (hends : Path.Ends path front name) (hparent : Path.IsParent parent path front) :
    disk.destination path =
      disk.destination (if parent.isEmpty then "." else parent) ++ [name] := by
  rcases hparent.steps_eq with ⟨dots, hfront, hdots⟩
  have hstay (place : Place) : dots.foldl next place = place := by
    clear hfront
    induction dots with
    | nil => rfl
    | cons step dots ih =>
      cases hdots step List.mem_cons_self
      exact ih fun step hstep => hdots step (List.mem_cons_of_mem _ hstep)
  have horigin : disk.origin path = disk.origin parent := by
    simp [origin, hparent.root]
  rw [disk.destination_of_ends hends, hfront, List.foldl_append, hstay, horigin]
  by_cases hempty : parent = ""
  · rw [hempty]
    rfl
  · simp [hempty, destination]

theorem locate_ok {name? : Option String} (h : disk.locate path = .ok (place, name?)) :
    refusal? path = none ∧
      disk.walk (disk.origin path) (Path.steps path).dropLast = .ok place ∧
      disk.at? place = some .directory ∧ name? = (Path.steps path).getLast? := by
  unfold locate at h
  split at h
  · cases h
  · next hrefusal =>
    dsimp only at h
    split at h
    · cases h
    · next place' hwalk =>
      split at h
      · next hdir =>
        cases h
        exact ⟨hrefusal, hwalk, hdir, rfl⟩
      · cases h

/-- A file is written under the last name of the path, in a directory to which the steps before it
lead. -/
theorem write_ok {bytes : List UInt8} (h : disk.write path bytes = .ok after) :
    ∃ front name place, Path.Ends path front name ∧ refusal? path = none ∧
      disk.walk (disk.origin path) front = .ok place ∧
      after = disk.put (place ++ [name]) (.file bytes) := by
  unfold write at h
  split at h
  · cases h
  · cases h
  · next place name hlocate =>
    split_ifs at h with hname hlong hdir
    cases h
    rcases not_or.1 hname with ⟨hdot, hname⟩
    rcases not_or.1 hname with ⟨hdots, hslash⟩
    rcases locate_ok hlocate with ⟨hrefusal, hwalk, -, hlast⟩
    have hsteps := List.dropLast_append_getLast? name hlast.symm
    exact ⟨_, name, place, ⟨hsteps.symm, by simpa using hslash, hdot, hdots⟩, hrefusal, hwalk, rfl⟩

end Disk
end TicMeter
