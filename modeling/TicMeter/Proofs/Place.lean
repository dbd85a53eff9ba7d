import TicMeter.Proofs.Tree

/-!
# Place — a name in a directory to which a path leads

* `Path.steps_join`: a path put together from a directory and a name passes through the directory's
  steps and then that name.
* `Disk.Leads`: a path that leads to a directory. A name put behind it leads to what stands under
  that name there: `Leads.lookup?_join`, `Leads.read_join`, `Leads.write_join`, and `Leads.join`.
* `Disk.Named`, `Disk.Bounded`: places are made of names, and the length of every file is a number
  of 64 bits. A directory is listed with everything that stands in it (`Disk.mem_children_iff`).
-/

namespace TicMeter

/-! ## Paths put together -/

namespace Path

theorem steps_append_slash (front back : String) :
    steps (front ++ "/" ++ back) = steps front ++ steps back := by
  have hsplit : segmentsOf (front ++ "/" ++ back).toList =
      segmentsOf front.toList ++ segmentsOf back.toList := by
    have htext : (front ++ "/" ++ back).toList = front.toList ++ '/' :: back.toList := by
      simp
    rw [htext, segmentsOf_eq_splitOn, segmentsOf_eq_splitOn, segmentsOf_eq_splitOn,
      List.splitOn_append_cons_self]
  rw [steps, hsplit, List.filter_append, List.map_append]
  rfl

theorem steps_of_noSlash {name : String} (hne : name ≠ "") (hslash : '/' ∉ name.toList) :
    steps name = [name] := by
  have hsplit : segmentsOf name.toList = [name.toList] := by
    rw [segmentsOf_eq_splitOn, List.splitOn_eq_singleton hslash]
  simp [steps, hsplit, hne]

/-- Whether or not the directory ends in a slash, there is one before the name. -/
theorem join_cases {directory : String} (name : String) (hne : directory ≠ "") :
    ∃ outer, steps directory = steps outer ∧ join directory name = outer ++ "/" ++ name ∧
      (outer ++ "/").toList.head? = directory.toList.head? := by
  by_cases hslash : endsWithSlash directory
  · -- the slash at the end is taken as the one before the name
    have hlast : directory.toList.getLast? = some '/' := by simpa [endsWithSlash] using hslash
    rcases List.getLast?_eq_some_iff.1 hlast with ⟨outer, houter⟩
    have hdirectory : directory = String.ofList outer ++ "/" := by
      apply String.toList_inj.1
      simp [houter]
    have hempty : steps "" = [] := rfl
    have hsteps := steps_append_slash (String.ofList outer) ""
    rw [hempty, List.append_nil, String.append_empty, ← hdirectory] at hsteps
    exact ⟨_, hsteps, by simp [join, hslash, ← hdirectory], by rw [hdirectory]⟩
  · refine ⟨directory, rfl, by simp [join, hslash, hne], ?_⟩
    cases htext : directory.toList with
    | nil => exact absurd (String.toList_inj.1 htext) hne
    | cons c rest => simp [htext]

theorem steps_join {directory name : String} (hdirectory : directory ≠ "") (hname : name ≠ "")
    (hslash : '/' ∉ name.toList) : steps (join directory name) = steps directory ++ [name] := by
  rcases join_cases name hdirectory with ⟨outer, houter, hjoin, -⟩
  rw [hjoin, steps_append_slash, steps_of_noSlash hname hslash, houter]

theorem isAbsolute_join {directory name : String} (hne : directory ≠ "") :
    isAbsolute (join directory name) = isAbsolute directory := by
  rcases join_cases name hne with ⟨outer, -, hjoin, hhead⟩
  cases htext : (outer ++ "/").toList with
  | nil => simp at htext
  | cons c rest =>
    rw [htext] at hhead
    simp [isAbsolute, hjoin, htext, ← hhead]

theorem endsWithSlash_join {directory name : String} (hdirectory : directory ≠ "")
    (hname : name ≠ "") (hslash : '/' ∉ name.toList) :
    endsWithSlash (join directory name) = false := by
  rcases join_cases name hdirectory with ⟨outer, -, hjoin, -⟩
  have hnil : name.toList ≠ [] := fun h => hname (String.toList_inj.1 h)
  have hlast : name.toList.getLast hnil ≠ '/' := fun h => hslash (h ▸ List.getLast_mem hnil)
  have htext : (outer ++ "/" ++ name).toList.getLast? = some (name.toList.getLast hnil) := by
    rw [String.toList_append, List.getLast?_append, List.getLast?_eq_some_getLast hnil]
    rfl
  simp [endsWithSlash, hjoin, -String.toList_append, htext, hlast]

theorem byteLength_join (directory name : String) :
    Text.byteLength (join directory name) ≤
      Text.byteLength directory + 1 + Text.byteLength name := by
  have hslash : Text.byteLength "/" = 1 := by decide
  have happend (a b : String) :
      Text.byteLength (a ++ b) = Text.byteLength a + Text.byteLength b := by
    simp [Text.byteLength, Text.bytes]
  unfold join
  split_ifs
  · rw [happend]
    omega
  · rw [happend, happend, hslash]

end Path

namespace Disk

variable {disk : Disk} {place start target : Place} {path name : String}

/-! ## Names -/

/-- A name under which something can lie in a directory. -/
structure IsName (name : String) : Prop where
  nonempty : name ≠ ""
  noSlash : '/' ∉ name.toList
  ne_dot : name ≠ "."
  ne_dots : name ≠ ".."
  short : isTooLong name = false

instance (name : String) : Decidable (IsName name) :=
  decidable_of_iff
    (name ≠ "" ∧ '/' ∉ name.toList ∧ name ≠ "." ∧ name ≠ ".." ∧ isTooLong name = false)
    ⟨fun h => ⟨h.1, h.2.1, h.2.2.1, h.2.2.2.1, h.2.2.2.2⟩,
      fun h => ⟨h.nonempty, h.noSlash, h.ne_dot, h.ne_dots, h.short⟩⟩

theorem IsName.next_eq (h : IsName name) (place : Place) : next place name = place ++ [name] := by
  simp [next, h.ne_dot, h.ne_dots]

theorem IsName.byteLength_le (h : IsName name) : Text.byteLength name ≤ maxNameLength := by
  simpa [isTooLong] using h.short

/-! ## Paths that lead to a directory -/

/-- The path leads to the directory at this place. -/
structure Leads (disk : Disk) (path : String) (place : Place) : Prop where
  refusal : refusal? path = none
  walk : disk.walk (disk.origin path) (Path.steps path) = .ok place
  directory : disk.at? place = some .directory

namespace Leads

theorem ne_empty (h : disk.Leads path place) : path ≠ "" := by
  rintro rfl
  cases h.refusal

theorem steps_join (h : disk.Leads path place) (hname : IsName name) :
    Path.steps (Path.join path name) = Path.steps path ++ [name] :=
  Path.steps_join h.ne_empty hname.nonempty hname.noSlash

theorem endsWithSlash_join (h : disk.Leads path place) (hname : IsName name) :
    Path.endsWithSlash (Path.join path name) = false :=
  Path.endsWithSlash_join h.ne_empty hname.nonempty hname.noSlash

theorem origin_join (h : disk.Leads path place) :
    disk.origin (Path.join path name) = disk.origin path := by
  simp [origin, Path.isAbsolute_join h.ne_empty]

theorem refusal?_join (h : disk.Leads path place) (hname : IsName name)
    (hshort : Text.byteLength path + maxNameLength < maxPathLength) :
    refusal? (Path.join path name) = none := by
  have hne : Path.join path name ≠ "" := by
    intro hempty
    have hsteps := h.steps_join hname
    rw [hempty] at hsteps
    exact List.append_ne_nil_of_right_ne_nil _ (List.cons_ne_nil _ _) hsteps.symm
  have hlength := Path.byteLength_join path name
  have hle := hname.byteLength_le
  have hfits : ¬maxPathLength < Text.byteLength (Path.join path name) := by omega
  simp [refusal?, hne, hfits]

section Join

variable (h : disk.Leads path place) (hname : IsName name)
  (hshort : Text.byteLength path + maxNameLength < maxPathLength)

include h hname hshort

theorem resolve_join :
    disk.resolve (Path.join path name) =
      if (disk.at? (place ++ [name])).isSome then .ok (place ++ [name]) else .error .notFound := by
  have hwalk : disk.walk place [name] =
      if (disk.at? (place ++ [name])).isSome then .ok (place ++ [name]) else .error .notFound := by
    simp [Disk.walk, h.directory, hname.short, hname.next_eq]
  rw [resolve, h.refusal?_join hname hshort, h.origin_join, h.steps_join hname,
    walk_append, h.walk, Except.bind, hwalk]
  split_ifs <;> simp [h.endsWithSlash_join hname]

theorem lookup?_join : disk.lookup? (Path.join path name) = disk.at? (place ++ [name]) := by
  rw [lookup?, h.resolve_join hname hshort]
  cases hthere : disk.at? (place ++ [name]) <;> simp [hthere]

theorem read_join :
    disk.read (Path.join path name) =
      match disk.at? (place ++ [name]) with
      | some (.file bytes) => .ok bytes
      | some .directory => .error .isDirectory
      | none => .error .notFound := by
  rw [read, h.resolve_join hname hshort]
  cases hthere : disk.at? (place ++ [name]) with
  | none => simp
  | some entry => cases entry <;> simp [hthere]

theorem locate_join : disk.locate (Path.join path name) = .ok (place, some name) := by
  simp [locate, h.refusal?_join hname hshort, h.steps_join hname, h.origin_join, h.walk,
    h.directory]

theorem write_join (bytes : List UInt8) :
    disk.write (Path.join path name) bytes =
      if disk.at? (place ++ [name]) = some .directory then .error .isDirectory
      else .ok (disk.put (place ++ [name]) (.file bytes)) := by
  simp [write, h.locate_join hname hshort, hname.ne_dot, hname.ne_dots, hname.short,
    h.endsWithSlash_join hname]

theorem join (hdirectory : disk.at? (place ++ [name]) = some .directory) :
    disk.Leads (Path.join path name) (place ++ [name]) := by
  refine ⟨h.refusal?_join hname hshort, ?_, hdirectory⟩
  rw [h.origin_join, h.steps_join hname, walk_append, h.walk, Except.bind]
  simp [Disk.walk, h.directory, hname.short, hname.next_eq, hdirectory]

end Join

theorem list_eq (h : disk.Leads path place) : disk.list path = .ok (disk.children place) := by
  simp [list, resolve_ok h.refusal h.walk h.directory, h.directory]

end Leads

theorem leads_of_list {names : List String} (h : disk.list path = .ok names) :
    ∃ place, disk.Leads path place ∧ names = disk.children place := by
  unfold list at h
  split at h
  · cases h
  · next place hresolve =>
    split at h
    · next hdirectory =>
      cases h
      rcases walk_of_resolve hresolve with ⟨hrefusal, hwalk⟩
      exact ⟨place, ⟨hrefusal, hwalk, hdirectory⟩, rfl⟩
    · cases h

/-! ## What every disk is like -/

def size : Entry → Nat
  | .file bytes => bytes.length
  | .directory => 0

/-- Places are made of names. -/
def Named (disk : Disk) : Prop :=
  ∀ entry ∈ disk.entries, ∀ name ∈ entry.1, IsName name

/-- The length of every file is a number of 64 bits. -/
def Bounded (disk : Disk) : Prop :=
  ∀ entry ∈ disk.entries, size entry.2 < UInt64.size

instance (disk : Disk) : Decidable disk.Named :=
  inferInstanceAs (Decidable (∀ entry ∈ disk.entries, ∀ name ∈ entry.1, IsName name))

instance (disk : Disk) : Decidable disk.Bounded :=
  inferInstanceAs (Decidable (∀ entry ∈ disk.entries, size entry.2 < UInt64.size))

/-- What stands at a place is an entry of the disk. -/
theorem mem_of_at? {entry : Entry} (hplace : place ≠ []) (h : disk.at? place = some entry) :
    (place, entry) ∈ disk.entries := by
  rw [at?, if_neg (by simpa using hplace)] at h
  rcases Option.map_eq_some_iff.1 h with ⟨⟨place', entry'⟩, hfind, hentry⟩
  have hplace' : place' = place := by simpa using List.find?_some hfind
  cases hplace'
  cases hentry
  exact List.mem_of_find?_eq_some hfind

theorem Named.isName (named : disk.Named) (h : disk.at? (place ++ [name]) ≠ none) :
    IsName name := by
  rcases Option.ne_none_iff_exists'.1 h with ⟨entry, hentry⟩
  exact named _ (mem_of_at? (by simp) hentry) name (by simp)

theorem Bounded.length_lt (bounded : disk.Bounded) {bytes : List UInt8}
    (h : disk.at? place = some (.file bytes)) : bytes.length < UInt64.size := by
  have hplace : place ≠ [] := by
    rintro rfl
    cases h
  exact bounded _ (mem_of_at? hplace h)

/-- A directory is listed with everything that stands in it. -/
theorem mem_children_iff : name ∈ disk.children place ↔ disk.at? (place ++ [name]) ≠ none := by
  have hfind : disk.at? (place ++ [name]) ≠ none ↔
      ∃ entry ∈ disk.entries, entry.1 = place ++ [name] := by
    simp [at?]
  rw [hfind, children, List.mem_mergeSort, List.mem_filterMap]
  constructor
  · rintro ⟨⟨found, entry⟩, hmem, hname⟩
    dsimp only at hname
    split_ifs at hname with hplace
    have hconcat := List.dropLast_append_getLast? name hname
    exact ⟨_, hmem, by rw [← hplace, hconcat]⟩
  · rintro ⟨entry, hmem, hentry⟩
    exact ⟨entry, hmem, by simp [hentry]⟩

end Disk
end TicMeter
