import Mathlib.Data.List.Dedup
import TicMeter.Frame

/-!
# Fields — listings and restrictions of field maps, and their classification

* `FieldMap.mem_labels` and `FieldMap.ordered_labels`: a map lists the labels that it contains, each
  once and in the order of the vocabulary.
* `FieldMap.size_insert`, `FieldMap.size_restrict`: the number of labels of a map, and what changes
  it.
* `FieldMap.get?_insertAll`: when entries are inserted one after the other, the last one of each
  label stays; so a map is what its entries make of the empty one, in any order.
* `FrameKind.classify_eq_none`: fields go unclassified when every kind misses a mandatory label.
* `FrameKind.classify_congr`: other labels do not matter.
-/

namespace TicMeter

namespace Label

/-- The labels stand in the order of the vocabulary, each at most once. -/
def Ordered (labels : List Label) : Prop :=
  labels.Pairwise (·.index < ·.index)

theorem mem_all (label : Label) : label ∈ all := by
  cases label <;> decide

theorem ordered_all : Ordered all := by
  unfold Ordered
  decide

end Label

/-! ## Listings -/

namespace FieldMap

variable {m : FieldMap} {label : Label}

theorem contains_iff : m.contains label ↔ ∃ value, m.get? label = some value :=
  Option.isSome_iff_exists

@[simp] theorem mem_labels : label ∈ m.labels ↔ m.contains label := by
  simp [labels, Label.mem_all]

theorem ordered_labels (m : FieldMap) : Label.Ordered m.labels :=
  List.Pairwise.filter _ Label.ordered_all

@[simp] theorem contains_restrict (keep : Label → Bool) :
    (m.restrict keep).contains label = (keep label && m.contains label) := by
  unfold contains
  rw [get?_restrict]
  cases keep label <;> simp

theorem contains_insert (m : FieldMap) (label other : Label) (value : Value) :
    (m.insert label value).contains other = (decide (label = other) || m.contains other) := by
  unfold contains
  rw [get?_insert]
  by_cases hsame : label = other <;> simp [hsame]

theorem nodup_labels (m : FieldMap) : m.labels.Nodup := by
  refine List.Pairwise.imp (fun hlt heq => ?_) m.ordered_labels
  rw [heq] at hlt
  exact Fin.lt_irrefl _ hlt

/-- The size is the length of any listing without repetition. -/
theorem size_eq_length {labels : List Label} (hnodup : labels.Nodup)
    (h : ∀ label, label ∈ labels ↔ m.contains label) : m.size = labels.length := by
  have hperm : m.labels.Perm labels := by
    refine (List.perm_ext_iff_of_nodup m.nodup_labels hnodup).2 fun label => ?_
    rw [mem_labels, h]
  exact hperm.length_eq

/-- A value in place of another one takes no more room. -/
theorem size_insert (m : FieldMap) (label : Label) (value : Value) :
    (m.insert label value).size = if m.contains label then m.size else m.size + 1 := by
  by_cases hpresent : m.contains label
  · rw [if_pos hpresent]
    refine size_eq_length m.nodup_labels fun other => ?_
    have hsame : label = other → m.contains other := fun heq => heq ▸ hpresent
    simpa [contains_insert] using hsame
  · rw [if_neg hpresent]
    have hnew : (label :: m.labels).Nodup := by
      simpa [hpresent] using m.nodup_labels
    refine size_eq_length hnew fun other => ?_
    simp [contains_insert, @eq_comm _ label]

@[simp] theorem size_empty : empty.size = 0 :=
  size_eq_length List.nodup_nil (by simp [contains])

/-- Restricting a map splits its labels into those that stay and those that go. -/
theorem size_restrict (m : FieldMap) (keep : Label → Bool) :
    (m.restrict keep).size + (m.labels.filter (!keep ·)).length = m.size := by
  have hkept : (m.restrict keep).size = (m.labels.filter keep).length := by
    refine size_eq_length (m.nodup_labels.filter _) fun label => ?_
    simp [and_comm]
  rw [hkept]
  exact (List.length_eq_length_filter_add keep).symm

/-! ## Entries -/

theorem mem_entries {value : Value} : (label, value) ∈ m.entries ↔ m.get? label = some value := by
  simp [entries, Label.mem_all]

theorem map_fst_entries (m : FieldMap) : m.entries.map Prod.fst = m.labels := by
  unfold entries labels
  induction Label.all with
  | nil => rfl
  | cons label rest ih =>
    cases hget : m.get? label <;> simp [contains, hget, ih]

theorem nodup_map_fst {entries : List (Label × Value)} (h : entries.Perm m.entries) :
    (entries.map Prod.fst).Nodup := by
  have hlabels : (entries.map Prod.fst).Perm m.labels := by
    simpa [map_fst_entries] using h.map Prod.fst
  exact hlabels.nodup_iff.2 m.nodup_labels

def insertAll (m : FieldMap) (entries : List (Label × Value)) : FieldMap :=
  entries.foldl (fun m (label, value) => m.insert label value) m

theorem insertAll_cons (m : FieldMap) (entry : Label × Value) (rest : List (Label × Value)) :
    m.insertAll (entry :: rest) = (m.insert entry.1 entry.2).insertAll rest := rfl

theorem get?_insertAll (m : FieldMap) (entries : List (Label × Value)) (label : Label) :
    (m.insertAll entries).get? label = (entries.reverse.lookup label).or (m.get? label) := by
  induction entries generalizing m with
  | nil => simp [insertAll]
  | cons entry rest ih =>
    rcases entry with ⟨other, value⟩
    rw [insertAll_cons, ih, get?_insert, List.reverse_cons, List.lookup_append, Option.or_assoc]
    congr 1
    by_cases hsame : other = label
    · simp [hsame]
    · have hne : (label == other) = false := by simpa using Ne.symm hsame
      simp [hsame, List.lookup_cons, hne]

theorem contains_insertAll (m : FieldMap) (entries : List (Label × Value)) (label : Label) :
    (m.insertAll entries).contains label ↔ label ∈ entries.map Prod.fst ∨ m.contains label := by
  induction entries generalizing m with
  | nil => simp [insertAll]
  | cons entry rest ih =>
    rw [insertAll_cons, ih, contains_insert]
    simp only [Bool.or_eq_true, decide_eq_true_eq, List.map_cons, List.mem_cons]
    tauto

/-- Values inserted under one label count once. -/
theorem size_insertAll_empty (entries : List (Label × Value)) :
    (empty.insertAll entries).size = (entries.map Prod.fst).dedup.length := by
  refine size_eq_length (List.nodup_dedup _) fun label => ?_
  rw [List.mem_dedup, contains_insertAll]
  simp [contains]

theorem insertAll_of_perm {entries : List (Label × Value)} (h : entries.Perm m.entries) :
    empty.insertAll entries = m := by
  refine ext_get? fun label => ?_
  rw [get?_insertAll, get?_empty, Option.or_none]
  cases hlookup : entries.reverse.lookup label with
  | some value =>
    -- what the list says last of a label is one of its entries, and so an entry of the map
    rcases List.lookup_eq_some_iff.1 hlookup with ⟨front, back, hsplit, -⟩
    have hmem : (label, value) ∈ entries.reverse := by simp [hsplit]
    exact (mem_entries.1 (h.mem_iff.1 (List.mem_reverse.1 hmem))).symm
  | none =>
    have hmissing := List.lookup_eq_none_iff.1 hlookup
    cases hget : m.get? label with
    | none => rfl
    | some value =>
      have hmem : (label, value) ∈ entries.reverse :=
        List.mem_reverse.2 (h.mem_iff.2 (mem_entries.2 hget))
      simpa using hmissing _ hmem

end FieldMap

/-! ## Classification -/

namespace FrameKind

theorem mem_bySpecificity (kind : FrameKind) : kind ∈ bySpecificity := by
  rcases kind with option | option | option | _
  all_goals first | decide | (cases option <;> decide)

theorem accepts_of_mem_mandatory {kind : FrameKind} {label : Label}
    (h : label ∈ kind.mandatory) : kind.accepts label := by
  simp [accepts, h]

/-- A kind is found only when all of its mandatory labels have been seen. -/
theorem seen_of_classify {seen : Label → Bool} {kind : FrameKind}
    (h : classify seen = some kind) : ∀ label ∈ kind.mandatory, seen label := by
  unfold classify at h
  have hall := List.find?_some h
  simpa using hall

theorem classify_eq_none {seen : Label → Bool} :
    classify seen = none ↔ ∀ kind : FrameKind, ∃ label ∈ kind.mandatory, seen label = false := by
  constructor
  · intro h kind
    have hnone := List.find?_eq_none.1 h kind (mem_bySpecificity kind)
    simpa using hnone
  · intro h
    refine List.find?_eq_none.2 fun kind _ => ?_
    simpa using h kind

/-- Only the mandatory labels decide. -/
theorem classify_congr {seen seen' : Label → Bool}
    (h : ∀ kind : FrameKind, ∀ label ∈ kind.mandatory, seen label = seen' label) :
    classify seen = classify seen' := by
  have hall (kind : FrameKind) : kind.mandatory.all seen = kind.mandatory.all seen' := by
    rw [Bool.eq_iff_iff, List.all_eq_true, List.all_eq_true]
    refine forall₂_congr fun label hlabel => ?_
    rw [h kind label hlabel]
  unfold classify
  simp only [hall]

end FrameKind
end TicMeter
