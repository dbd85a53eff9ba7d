import Mathlib.Data.List.DropRight
import TicMeter.Disk.Path
import TicMeter.Text.Bytes

/-!
# The parts of a path text

* `Path.ofSegments_marked`, `Path.steps_ofSegments`: a path text is the join of its segments, and
  the segments are found again in a join.
* `Path.Ends`: a path whose last step is a name. Its file name is that name (`Ends.fileName?_eq`),
  and its parent passes through the steps before it, up to single dots (`Ends.parent?_eq`).
-/

namespace TicMeter
namespace Path

/-! ## Segments and their join -/

theorem segmentsOf_eq_splitOn (cs : List Char) : segmentsOf cs = cs.splitOn '/' := by
  induction cs with
  | nil => rfl
  | cons c rest ih =>
    rcases List.exists_cons_of_ne_nil (List.splitOn_ne_nil '/' rest) with ⟨segment, more, hrest⟩
    simp [segmentsOf, ih, hrest, List.splitOn_cons_eq_if_modifyHead]

theorem slash_notMem_segmentsOf (cs : List Char) : ∀ segment ∈ segmentsOf cs, '/' ∉ segment := by
  induction cs with
  | nil => simp [segmentsOf]
  | cons c rest ih =>
    unfold segmentsOf
    cases hrest : segmentsOf rest with
    | nil =>
      rw [segmentsOf_eq_splitOn] at hrest
      exact absurd hrest (List.splitOn_ne_nil '/' rest)
    | cons segment more =>
      rw [hrest] at ih
      by_cases hslash : c = '/'
      · simpa [hslash] using ih
      · simpa [hslash, Ne.symm hslash] using ih

/-- The segments of a path are those behind its root; of a relative path only the first one may be
a dot with a meaning. -/
theorem marked_cases (path : String) :
    (∃ body, path.toList = '/' :: body ∧
      marked path = (segmentsOf body).map fun segment => (segment, isVoid false segment)) ∨
    (isAbsolute path = false ∧ ∃ first rest, segmentsOf path.toList = first :: rest ∧
      marked path =
        (first, isVoid true first) :: rest.map fun segment => (segment, isVoid false segment)) := by
  unfold marked isAbsolute
  split
  · next body hbody => exact .inl ⟨body, hbody, rfl⟩
  · next hroot =>
    refine .inr ⟨?_, ?_⟩
    · cases hcs : path.toList with
      | nil => rfl
      | cons c rest =>
        have hne : c ≠ '/' := fun hc => hroot rest (by rw [hcs, hc])
        simp [hne]
    · rcases List.exists_cons_of_ne_nil (List.splitOn_ne_nil '/' path.toList) with
        ⟨first, rest, hsplit⟩
      rw [← segmentsOf_eq_splitOn] at hsplit
      exact ⟨first, rest, hsplit, by rw [hsplit]⟩

def names (segments : List (List Char × Bool)) : List String :=
  ((segments.map (·.1)).filter (!·.isEmpty)).map String.ofList

theorem names_append (front back : List (List Char × Bool)) :
    names (front ++ back) = names front ++ names back := by
  simp [names]

theorem toList_ofSegments (root : Bool) (segments : List (List Char × Bool)) :
    (ofSegments root segments).toList =
      (if root then ['/'] else []) ++ ['/'].intercalate (segments.map (·.1)) := by
  have hroot : (if root then "/" else "").toList = if root then ['/'] else [] := by
    cases root <;> rfl
  have hnames : (segments.map fun segment => String.ofList segment.1).map String.toList =
      segments.map (·.1) := by
    simp
  rw [ofSegments, String.toList_append, hroot, String.toList_intercalate, hnames]
  rfl

theorem ofSegments_marked (path : String) : ofSegments (isAbsolute path) (marked path) = path := by
  apply String.toList_inj.1
  rw [toList_ofSegments]
  rcases marked_cases path with ⟨body, hbody, hmarked⟩ | ⟨hroot, first, rest, hsplit, hmarked⟩
  · have hroot : isAbsolute path = true := by simp [isAbsolute, hbody]
    have hsegments : (marked path).map (·.1) = body.splitOn '/' := by
      simp [hmarked, Function.comp_def, segmentsOf_eq_splitOn]
    simp [hroot, hsegments, hbody]
  · have hsegments : (marked path).map (·.1) = path.toList.splitOn '/' := by
      simp [hmarked, Function.comp_def, ← hsplit, segmentsOf_eq_splitOn]
    simp [hroot, hsegments]

theorem steps_ofSegments (root : Bool) {segments : List (List Char × Bool)}
    (hslash : ∀ text ∈ segments.map (·.1), '/' ∉ text) :
    steps (ofSegments root segments) = names segments := by
  have hjoin : (segmentsOf (['/'].intercalate (segments.map (·.1)))).filter (!·.isEmpty) =
      (segments.map (·.1)).filter (!·.isEmpty) := by
    cases segments with
    | nil => rfl
    | cons segment more =>
      rw [segmentsOf_eq_splitOn, List.splitOn_intercalate _ hslash (List.cons_ne_nil _ _)]
  -- the root adds an empty segment in front
  cases root with
  | false => simp [steps, names, toList_ofSegments, hjoin]
  | true =>
    rcases List.exists_cons_of_ne_nil
      (List.splitOn_ne_nil '/' (['/'].intercalate (segments.map (·.1)))) with ⟨first, rest, hsplit⟩
    rw [← segmentsOf_eq_splitOn] at hsplit
    rw [hsplit] at hjoin
    simp [steps, names, toList_ofSegments, segmentsOf, hsplit, ← hjoin]

theorem slash_notMem_marked (path : String) : ∀ text ∈ (marked path).map (·.1), '/' ∉ text := by
  rcases marked_cases path with ⟨body, -, hmarked⟩ | ⟨-, first, rest, hsplit, hmarked⟩
  · have htexts : (marked path).map (·.1) = segmentsOf body := by
      simp [hmarked, Function.comp_def]
    rw [htexts]
    exact slash_notMem_segmentsOf body
  · have htexts : (marked path).map (·.1) = segmentsOf path.toList := by
      simp [hmarked, hsplit, Function.comp_def]
    rw [htexts]
    exact slash_notMem_segmentsOf path.toList

theorem steps_eq_names (path : String) : steps path = names (marked path) := by
  calc
    steps path = steps (ofSegments (isAbsolute path) (marked path)) := by rw [ofSegments_marked]
    _ = names (marked path) := steps_ofSegments _ (slash_notMem_marked path)

theorem intercalate_append {front back : List (List Char)} (hfront : front ≠ [])
    (hback : back ≠ []) :
    ['/'].intercalate (front ++ back) =
      ['/'].intercalate front ++ '/' :: ['/'].intercalate back := by
  induction front with
  | nil => exact absurd rfl hfront
  | cons text front ih =>
    cases front with
    | nil => simp [List.intercalate_cons_of_ne_nil hback]
    | cons next front =>
      have hrest := ih (List.cons_ne_nil _ _)
      simp only [List.cons_append] at hrest ⊢
      simp [hrest]

/-- The text of an outer path begins the text of the path. -/
theorem ofSegments_outer (root : Bool) (front back : List (List Char × Bool)) :
    (ofSegments root front).toList <+: (ofSegments root (front ++ back)).toList := by
  rw [toList_ofSegments, toList_ofSegments, List.prefix_append_right_inj]
  by_cases hfront : front = []
  · simp [hfront]
  by_cases hback : back = []
  · simp [hback]
  rw [List.map_append, intercalate_append (by simpa using hfront) (by simpa using hback)]
  exact List.prefix_append _ _

theorem isAbsolute_of_outer {outer path : String} (houter : outer.toList <+: path.toList)
    (hroot : isAbsolute outer = true) : isAbsolute path = true := by
  rcases houter with ⟨rest, hpath⟩
  cases hcs : outer.toList with
  | nil => simp [isAbsolute, hcs] at hroot
  | cons c cs =>
    rw [hcs] at hpath
    have hc : c = '/' := by simpa [isAbsolute, hcs] using hroot
    simp [isAbsolute, ← hpath, hc]

/-! ## Segments without meaning -/

/-- What means nothing is empty or a dot, and what means something is not empty. -/
theorem void_of_mem_marked {path : String} {text : List Char} {void : Bool}
    (hmem : (text, void) ∈ marked path) :
    (void = true → text = [] ∨ text = ['.']) ∧ (void = false → text ≠ []) := by
  -- the mark is what `isVoid` says, of a first segment or of a later one
  have hvoid : ∃ opens, isVoid opens text = void := by
    rcases marked_cases path with ⟨body, -, hmarked⟩ | ⟨-, first, rest, -, hmarked⟩
    · rw [hmarked] at hmem
      rcases List.mem_map.1 hmem with ⟨_, -, hpair⟩
      cases hpair
      exact ⟨false, rfl⟩
    · rw [hmarked] at hmem
      rcases List.mem_cons.1 hmem with hpair | hrest
      · cases hpair
        exact ⟨true, rfl⟩
      · rcases List.mem_map.1 hrest with ⟨_, -, hpair⟩
        cases hpair
        exact ⟨false, rfl⟩
  rcases hvoid with ⟨opens, rfl⟩
  constructor
  · intro hvoid
    simp only [isVoid, Bool.or_eq_true, List.isEmpty_iff, Bool.and_eq_true] at hvoid
    grind
  · intro hmeans
    simp only [isVoid, Bool.or_eq_false_iff] at hmeans
    grind

theorem trimVoid_eq (segments : List (List Char × Bool)) :
    trimVoid segments = segments.rdropWhile (·.2) :=
  rfl

theorem trimVoid_concat (outer : List (List Char × Bool)) (text : List Char) :
    trimVoid (outer ++ [(text, false)]) = outer ++ [(text, false)] := by
  rw [trimVoid_eq]
  exact List.rdropWhile_concat_neg _ _ _ Bool.false_ne_true

/-- What is trimmed from the end of a path stands for single dots. -/
theorem names_trimVoid {path : String} {segments : List (List Char × Bool)}
    (hsegments : ∀ segment ∈ segments, segment ∈ marked path) :
    ∃ dots, names segments = names (trimVoid segments) ++ dots ∧ ∀ step ∈ dots, step = "." := by
  refine ⟨names (segments.rtakeWhile (·.2)), ?_, ?_⟩
  · rw [trimVoid_eq, ← names_append, List.rdropWhile_append_rtakeWhile]
  · intro step hstep
    simp only [names, List.mem_map, List.mem_filter] at hstep
    rcases hstep with ⟨text, ⟨⟨⟨_, void⟩, htake, rfl⟩, hfull⟩, rfl⟩
    have hvoid : void = true := List.mem_rtakeWhile_imp htake
    have hmem := hsegments _ ((List.rtakeWhile_suffix _ _).subset htake)
    rcases (void_of_mem_marked hmem).1 hvoid with rfl | rfl
    · cases hfull
    · rfl

/-! ## Paths that end in a name -/

/-- The last step of the path is a name, and no slash follows it. -/
structure Ends (path : String) (front : List String) (name : String) : Prop where
  steps_eq : steps path = front ++ [name]
  no_slash : endsWithSlash path = false
  ne_dot : name ≠ "."
  ne_dots : name ≠ ".."

/-- Following `parent` is following `front` from where `path` begins. -/
structure IsParent (parent path : String) (front : List String) : Prop where
  within : parent.toList <+: path.toList
  root : isAbsolute parent = isAbsolute path
  steps_eq : ∃ dots, front = steps parent ++ dots ∧ ∀ step ∈ dots, step = "."

namespace Ends

variable {path name : String} {front : List String}

/-- The last segment is the name. -/
theorem marked_eq (h : Ends path front name) :
    ∃ outer, marked path = outer ++ [(name.toList, false)] ∧ names outer = front := by
  have hsteps : names (marked path) = front ++ [name] := by
    rw [← steps_eq_names, h.steps_eq]
  rcases List.eq_nil_or_concat' (marked path) with hnone | ⟨outer, ⟨text, void⟩, hmarked⟩
  · rw [hnone] at hsteps
    simp [names] at hsteps
  have hfull : text ≠ [] := by
    rintro rfl
    have hpath := congrArg String.toList (ofSegments_marked path)
    rw [toList_ofSegments, hmarked] at hpath
    by_cases houter : outer = []
    · rw [hmarked, houter] at hsteps
      simp [names] at hsteps
    · -- an empty segment behind others leaves a slash at the end
      rw [List.map_append, intercalate_append (by simpa using houter) (by simp)] at hpath
      have hslash := h.no_slash
      simp [endsWithSlash, ← hpath] at hslash
  -- so the last segment is the last step
  have hlast : names outer ++ [String.ofList text] = front ++ [name] := by
    rw [← hsteps, hmarked, names_append]
    simp [names, hfull]
  rcases List.append_inj' hlast rfl with ⟨hfront, hname⟩
  have htext : name = String.ofList text := (List.cons.inj hname).1.symm
  have hmem : (text, void) ∈ marked path := by
    rw [hmarked]
    exact List.mem_append_right _ (List.mem_singleton_self _)
  have hvoid : void = false := by
    apply Bool.eq_false_iff.2
    intro hvoid
    rcases (void_of_mem_marked hmem).1 hvoid with rfl | rfl
    · exact hfull rfl
    · exact h.ne_dot htext
  refine ⟨outer, ?_, hfront⟩
  rw [hmarked, htext, hvoid, String.toList_ofList]

theorem fileName?_eq (h : Ends path front name) : fileName? path = some name := by
  rcases h.marked_eq with ⟨outer, hmarked, -⟩
  have hdot : name.toList ≠ ['.'] := fun htext =>
    h.ne_dot (String.toList_inj.1 (htext.trans rfl))
  have hdots : name.toList ≠ ['.', '.'] := fun htext =>
    h.ne_dots (String.toList_inj.1 (htext.trans rfl))
  simp [fileName?, hmarked, trimVoid_concat, hdot, hdots]

theorem parent?_eq (h : Ends path front name) :
    ∃ parent, parent? path = some parent ∧ IsParent parent path front := by
  rcases h.marked_eq with ⟨outer, hmarked, hfront⟩
  have hmem : ∀ segment ∈ outer, segment ∈ marked path := by
    intro segment hsegment
    rw [hmarked]
    exact List.mem_append_left _ hsegment
  have hkept : trimVoid outer <+: outer := List.rdropWhile_prefix _ _
  rcases hkept with ⟨rest, houter⟩
  -- the parent's text is a beginning of the path's, and so has its root
  have hwithin : (ofSegments (isAbsolute path) (trimVoid outer)).toList <+: path.toList := by
    have h := ofSegments_outer (isAbsolute path) (trimVoid outer) (rest ++ [(name.toList, false)])
    rwa [← List.append_assoc, houter, ← hmarked, ofSegments_marked] at h
  refine ⟨ofSegments (isAbsolute path) (trimVoid outer), ?_, hwithin, ?_, ?_⟩
  · simp [parent?, hmarked, trimVoid_concat]
  · cases hroot : isAbsolute path with
    | true => simp [isAbsolute, toList_ofSegments]
    | false =>
      rw [hroot] at hwithin
      apply Bool.eq_false_iff.2
      intro habsolute
      rw [isAbsolute_of_outer hwithin habsolute] at hroot
      cases hroot
  · have hslash : ∀ text ∈ (trimVoid outer).map (·.1), '/' ∉ text := by
      intro text htext
      apply slash_notMem_marked path
      rw [hmarked, ← houter, List.append_assoc, List.map_append]
      exact List.mem_append_left _ htext
    rcases names_trimVoid hmem with ⟨dots, hnames, hdots⟩
    rw [steps_ofSegments _ hslash, ← hfront]
    exact ⟨dots, hnames, hdots⟩

end Ends

end Path
end TicMeter
