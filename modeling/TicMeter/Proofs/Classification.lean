import TicMeter.Proofs.Fields

/-!
# Classification — which kind is found for a set of labels

Kinds share labels, so that several may suit the labels of one frame. They are tried in an order
that is written down by hand (`FrameKind.bySpecificity`); here it is tied to what it is meant to be.

* `FrameKind.pairwise_bySpecificity`: every kind stands before those that it outranks.
* `FrameKind.classify_eq_some_iff`: the kind that is found suits the labels and outranks every other
  one that does.
* `FrameKind.classify_of_fewer`: it stays the one that is found when labels that it does not need
  are gone.
* `FrameKind.classify_optimal`: what these come to for any set of labels.
-/

namespace TicMeter

theorem Label.mem_inOrder {label : Label} {labels : List Label} :
    label ∈ inOrder labels ↔ label ∈ labels := by
  simp [inOrder, mem_all]

namespace FrameKind

def specificity (kind : FrameKind) : Nat :=
  (Label.inOrder kind.mandatory).length

/-- All the labels that a frame of the kind must carry have been seen. -/
def Suits (kind : FrameKind) (seen : Label → Bool) : Prop :=
  ∀ label ∈ kind.mandatory, seen label

/-- One kind comes before another: it has more mandatory labels, or as many and an earlier place in
the table. -/
def Outranks (kind other : FrameKind) : Prop :=
  other.specificity < kind.specificity ∨
    kind.specificity = other.specificity ∧ all.idxOf kind < all.idxOf other

instance (kind other : FrameKind) : Decidable (kind.Outranks other) :=
  inferInstanceAs (Decidable (_ ∨ _))

/-- Of the kinds that suit the labels, the first of those with the most mandatory labels. -/
structure IsMostSpecific (kind : FrameKind) (seen : Label → Bool) : Prop where
  suits : kind.Suits seen
  most : ∀ other : FrameKind, other.Suits seen → other.specificity ≤ kind.specificity
  first : ∀ other : FrameKind, other.Suits seen → other.specificity = kind.specificity →
    all.idxOf kind ≤ all.idxOf other

section

variable {seen : Label → Bool} {kind other : FrameKind}

theorem mem_all (kind : FrameKind) : kind ∈ all := by
  rcases kind with option | option | option | _
  all_goals first | decide | (cases option <;> decide)

/-- Kinds with the same place in the table are the same. -/
theorem idxOf_all_inj (h : all.idxOf kind = all.idxOf other) : kind = other :=
  (List.idxOf_inj (mem_all kind)).1 h

theorem Outranks.not_outranks (h : kind.Outranks other) : ¬ other.Outranks kind := by
  unfold Outranks at *
  omega

/-- The order in which kinds are tried is the one that their labels and the table give. -/
theorem pairwise_bySpecificity : bySpecificity.Pairwise Outranks := by
  decide +kernel

theorem Suits.of_seen {more : Label → Bool} (h : kind.Suits seen)
    (hmore : ∀ label, seen label → more label) : kind.Suits more := by
  intro label hlabel
  exact hmore label (h label hlabel)

/-! ## The kind that is found -/

theorem classify_eq_none_iff : classify seen = none ↔ ∀ kind : FrameKind, ¬ kind.Suits seen := by
  rw [classify_eq_none]
  refine forall_congr' fun kind => ?_
  simp [Suits]

/-- The kinds that are tried before the one that is found do not suit the labels. -/
theorem split_of_classify (h : classify seen = some kind) :
    kind.Suits seen ∧ ∃ front back, bySpecificity = front ++ kind :: back ∧
      ∀ other ∈ front, ¬ other.Suits seen := by
  rcases List.find?_eq_some_iff_append.1 h with ⟨hsuits, front, back, hsplit, hfront⟩
  refine ⟨by simpa [Suits] using hsuits, front, back, hsplit, fun other hother => ?_⟩
  simpa [Suits] using hfront other hother

theorem outranks_of_classify (h : classify seen = some kind) (hother : other.Suits seen) :
    kind = other ∨ kind.Outranks other := by
  rcases split_of_classify h with ⟨-, front, back, hsplit, hfront⟩
  have hmem := mem_bySpecificity other
  have hpairwise := pairwise_bySpecificity
  rw [hsplit] at hmem hpairwise
  rcases List.mem_append.1 hmem with hmem | hmem
  · exact absurd hother (hfront other hmem)
  · rcases List.mem_cons.1 hmem with heq | hmem
    · exact .inl heq.symm
    · exact .inr ((List.pairwise_cons.1 (List.pairwise_append.1 hpairwise).2.1).1 other hmem)

theorem classify_eq_some_iff :
    classify seen = some kind ↔
      kind.Suits seen ∧ ∀ other : FrameKind, other.Suits seen →
        kind = other ∨ kind.Outranks other := by
  constructor
  · intro h
    exact ⟨(split_of_classify h).1, fun other hother => outranks_of_classify h hother⟩
  · rintro ⟨hsuits, houtranks⟩
    cases hfound : classify seen with
    | none => exact absurd hsuits (classify_eq_none_iff.1 hfound kind)
    | some found =>
      -- each of the two outranks the other one unless they are the same
      rcases outranks_of_classify hfound hsuits with heq | hbefore
      · exact congrArg some heq
      · rcases houtranks found (split_of_classify hfound).1 with heq | hafter
        · exact congrArg some heq.symm
        · exact absurd hafter hbefore.not_outranks

theorem isMostSpecific_iff :
    kind.IsMostSpecific seen ↔
      kind.Suits seen ∧ ∀ other : FrameKind, other.Suits seen →
        kind = other ∨ kind.Outranks other := by
  constructor
  · intro h
    refine ⟨h.suits, fun other hother => ?_⟩
    rcases Nat.lt_or_eq_of_le (h.most other hother) with hfewer | hequal
    · exact .inr (.inl hfewer)
    · rcases Nat.lt_or_eq_of_le (h.first other hother hequal) with hlater | hsame
      · exact .inr (.inr ⟨hequal.symm, hlater⟩)
      · exact .inl (idxOf_all_inj hsame)
  · rintro ⟨hsuits, houtranks⟩
    refine ⟨hsuits, fun other hother => ?_, fun other hother hequal => ?_⟩
    · rcases houtranks other hother with rfl | hfewer | ⟨hequal, -⟩
      · exact Nat.le_refl _
      · exact Nat.le_of_lt hfewer
      · exact Nat.le_of_eq hequal.symm
    · rcases houtranks other hother with rfl | hfewer | ⟨-, hlater⟩
      · exact Nat.le_refl _
      · exact absurd hequal (Nat.ne_of_lt hfewer)
      · exact Nat.le_of_lt hlater

/-! ## More labels, and fewer -/

/-- More labels lead to a kind that is tried no later. -/
theorem classify_of_more {more : Label → Bool} (h : classify seen = some kind)
    (hmore : ∀ label, seen label → more label) :
    ∃ found, classify more = some found ∧
      bySpecificity.idxOf found ≤ bySpecificity.idxOf kind := by
  -- the kind still suits, so whatever is found now comes before it or is the same
  have hsuits := (split_of_classify h).1.of_seen hmore
  cases hfound : classify more with
  | none => exact absurd hsuits (classify_eq_none_iff.1 hfound kind)
  | some found =>
    rcases split_of_classify hfound with ⟨hsuits', front, back, hsplit, hfront⟩
    have hfoundNotMem : found ∉ front := fun hmem => hfront found hmem hsuits'
    have hkindNotMem : kind ∉ front := fun hmem => hfront kind hmem hsuits
    refine ⟨found, rfl, ?_⟩
    rw [hsplit, List.idxOf_append, List.idxOf_append, if_neg hfoundNotMem, if_neg hkindNotMem]
    simp

/-- Of the kinds that suit the labels, fewer labels leave fewer; the one that was found among them
is found again if its own labels are still there. -/
theorem classify_of_fewer {fewer : Label → Bool} (h : classify seen = some kind)
    (hfewer : ∀ label, fewer label → seen label)
    (hmandatory : ∀ label ∈ kind.mandatory, fewer label) : classify fewer = some kind := by
  rw [classify_eq_some_iff] at h ⊢
  exact ⟨hmandatory, fun other hother => h.2 other (hother.of_seen hfewer)⟩

end

/-- For any set of labels: none is found exactly when no kind has all of its mandatory labels among
them, and else the first of those with the most. More labels lead to a kind that is tried no later;
fewer to the same one, as long as its mandatory labels are there, and so the labels that it accepts.
-/
theorem classify_optimal (seen : Label → Bool) :
    (classify seen = none ↔ ∀ kind : FrameKind, ¬ kind.Suits seen) ∧
    (∀ kind : FrameKind, classify seen = some kind ↔ kind.IsMostSpecific seen) ∧
    (∀ (kind : FrameKind) (label : Label), kind.accepts label ↔
      label ∈ Label.inOrder kind.mandatory ∨ label ∈ Label.inOrder kind.optional) ∧
    (∀ (kind : FrameKind) (more : Label → Bool), classify seen = some kind →
      (∀ label, seen label → more label) →
      ∃ found, classify more = some found ∧
        bySpecificity.idxOf found ≤ bySpecificity.idxOf kind) ∧
    (∀ (kind : FrameKind) (fewer : Label → Bool), classify seen = some kind →
      (∀ label ∈ kind.mandatory, fewer label) → (∀ label, fewer label → seen label) →
      classify fewer = some kind) ∧
    ∀ kind : FrameKind, classify seen = some kind →
      classify (fun label => seen label && kind.accepts label) = some kind := by
  refine ⟨classify_eq_none_iff, ?_, ?_, ?_, ?_, ?_⟩
  · intro kind
    rw [isMostSpecific_iff, classify_eq_some_iff]
  · intro kind label
    simp [accepts, Label.mem_inOrder]
  · intro kind more hkind hmore
    exact classify_of_more hkind hmore
  · intro kind fewer hkind hmandatory hfewer
    exact classify_of_fewer hkind hfewer hmandatory
  -- dropping what a kind does not accept is a case of having fewer labels
  · intro kind hkind
    refine classify_of_fewer hkind ?_ ?_
    · intro label hlabel
      exact (Bool.and_eq_true_iff.1 hlabel).1
    · intro label hlabel
      have hseen := seen_of_classify hkind label hlabel
      exact Bool.and_eq_true_iff.2 ⟨hseen, accepts_of_mem_mandatory hlabel⟩

/-- The registers of two billing options: the one with more of them decides. -/
example :
    classify (Label.papp :: singlePhase ++ BillingOption.base.mandatory ++
      BillingOption.hc.mandatory).contains = some (.cbemmIcc .hc) := by
  decide

end FrameKind
end TicMeter
