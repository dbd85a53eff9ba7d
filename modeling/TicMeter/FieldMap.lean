import TicMeter.Value

/-!
# FieldMap — the values decoded in one frame

A map from labels to values with one slot per label of the vocabulary, so that two maps with the
same values are equal however they came about. Its listings follow the order of the vocabulary.
-/

namespace TicMeter

/-- A value, or none, for every label. -/
structure FieldMap where
  slots : Vector (Option Value) 35
  deriving DecidableEq

namespace FieldMap

def empty : FieldMap :=
  ⟨Vector.replicate 35 none⟩

def get? (m : FieldMap) (label : Label) : Option Value :=
  m.slots[label.index]

def contains (m : FieldMap) (label : Label) : Bool :=
  (m.get? label).isSome

def insert (m : FieldMap) (label : Label) (value : Value) : FieldMap :=
  ⟨m.slots.set label.index (some value)⟩

def ofFn (f : Label → Option Value) : FieldMap :=
  ⟨Vector.ofFn fun i => f (Label.ofIndex i)⟩

def restrict (m : FieldMap) (keep : Label → Bool) : FieldMap :=
  ofFn fun label => if keep label then m.get? label else none

def labels (m : FieldMap) : List Label :=
  Label.all.filter m.contains

def size (m : FieldMap) : Nat :=
  m.labels.length

def entries (m : FieldMap) : List (Label × Value) :=
  Label.all.filterMap fun label => (m.get? label).map (label, ·)

/-! ## The view `get?` -/

@[simp] theorem get?_empty (label : Label) : empty.get? label = none := by
  simp [get?, empty]

@[simp] theorem get?_ofFn (f : Label → Option Value) (label : Label) :
    (ofFn f).get? label = f label := by
  simp [get?, ofFn]

theorem get?_insert (m : FieldMap) (label other : Label) (value : Value) :
    (m.insert label value).get? other = if label = other then some value else m.get? other := by
  simp only [get?, insert, Fin.getElem_fin, Vector.getElem_set]
  simp only [← Fin.ext_iff, Label.index_inj]

@[simp] theorem get?_restrict (m : FieldMap) (keep : Label → Bool) (label : Label) :
    (m.restrict keep).get? label = if keep label then m.get? label else none := by
  simp [restrict]

/-- Maps are equal when they hold the same values. -/
theorem ext_get? {m n : FieldMap} (h : ∀ label, m.get? label = n.get? label) : m = n := by
  obtain ⟨m⟩ := m
  obtain ⟨n⟩ := n
  congr 1
  ext i hi : 1
  have key := h (Label.ofIndex ⟨i, hi⟩)
  simpa [get?] using key

end FieldMap
end TicMeter
