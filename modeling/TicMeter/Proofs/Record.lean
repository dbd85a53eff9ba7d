import Mathlib.Data.List.Basic
import TicMeter.Json.Record
import TicMeter.Proofs.KeyMap

/-!
# Record — records are read from the objects they are written as

An object written from fields (`Json.ofFields`) has the fields that are there as members. Read as a
record, it gives every field back, those that were left out as missing.

* `Json.asRecord?_ofFields`: fields under different keys.
* `Json.asList?_map`, `Json.asNat?_integer`: what stands in the fields.
* `Json.asKeyMap?_entries`: a map of values without containers is in normal form already.
-/

namespace TicMeter
namespace Json

/-! ## Lists -/

theorem mapM_map {α β γ : Type} {f : β → Option γ} {g : α → β} {h : α → γ} {as : List α}
    (hf : ∀ a ∈ as, f (g a) = some (h a)) : (as.map g).mapM f = some (as.map h) := by
  induction as with
  | nil => rfl
  | cons a rest ih =>
    rw [List.forall_mem_cons] at hf
    rw [List.map_cons, List.mapM_cons, hf.1, ih hf.2]
    rfl

theorem asList?_map {α : Type} {item? : Json → Option α} {write : α → Json} {as : List α}
    (h : ∀ a ∈ as, item? (write a) = some a) : asList? item? (.array (as.map write)) = some as := by
  have hitems := mapM_map (h := id) h
  rwa [List.map_id] at hitems

/-! ## Scalars -/

theorem asNat?_integer {bound n : Nat} (h : n < bound) : asNat? bound (.integer n) = some n := by
  have hn : (0 : Int) ≤ n ∧ (n : Int) < bound := by omega
  rw [asNat?, if_pos hn, Int.toNat_natCast]

theorem asWord?_integer {n : Nat} (h : n < UInt64.size) : asWord? (.integer n) = some n :=
  asNat?_integer h

/-! ## Objects -/

def present (fields : List (String × Option Json)) : List (String × Json) :=
  fields.filterMap fun field => field.2.map (field.1, ·)

/-- An object with the fields that are there. -/
def ofFields (fields : List (String × Option Json)) : Json :=
  .object (present fields)

theorem present_cons (field : String × Option Json) (rest : List (String × Option Json)) :
    present (field :: rest) = (field.2.map (field.1, ·)).toList ++ present rest := by
  rcases field with ⟨key, _ | j⟩ <;> rfl

theorem fst_mem_of_present {fields : List (String × Option Json)} {m : String × Json}
    (h : m ∈ present fields) : m.1 ∈ fields.map Prod.fst := by
  rcases List.mem_filterMap.1 h with ⟨field, hfield, hm⟩
  rcases Option.map_eq_some_iff.1 hm with ⟨j, -, rfl⟩
  exact List.mem_map_of_mem hfield

theorem filter_present {fields : List (String × Option Json)} {field : String × Option Json}
    (h : (fields.map Prod.fst).Nodup) (hfield : field ∈ fields) :
    (present fields).filter (·.1 == field.1) = (field.2.map (field.1, ·)).toList := by
  induction fields with
  | nil => cases hfield
  | cons head rest ih =>
    rw [List.map_cons, List.nodup_cons] at h
    rw [present_cons, List.filter_append]
    rcases List.mem_cons.1 hfield with rfl | hmem
    · have hrest : (present rest).filter (·.1 == field.1) = [] := by
        rw [List.filter_eq_nil_iff]
        intro m hm heq
        exact h.1 (eq_of_beq heq ▸ fst_mem_of_present hm)
      rcases field with ⟨key, _ | j⟩ <;> simp [hrest]
    · have hne : head.1 ≠ field.1 := fun heq => h.1 (heq ▸ List.mem_map_of_mem hmem)
      rcases head with ⟨key, _ | j⟩ <;> simpa [hne] using ih h.2 hmem

/-- Fields under different keys are read as they were written. -/
theorem asRecord?_ofFields {fields : List (String × Option Json)}
    (h : (fields.map Prod.fst).Nodup) :
    asRecord? (fields.map Prod.fst) (ofFields fields) = some (fields.map Prod.snd) := by
  refine mapM_map fun field hfield => ?_
  rw [filter_present h hfield]
  cases field.2 <;> rfl

/-! ## Maps -/

theorem normalMembers?_eq_self {depth : Nat} {members : List (String × Json)}
    (h : ∀ m ∈ members, normal? depth m.2 = some m.2) :
    normalMembers? depth members = some members := by
  induction members with
  | nil => rfl
  | cons m rest ih =>
    rcases m with ⟨key, j⟩
    rw [List.forall_mem_cons] at h
    simp [normalMembers?, h.1, ih h.2]

theorem asKeyMap?_entries {depth : Nat} {m : KeyMap Json}
    (h : ∀ entry ∈ m.entries, normal? depth entry.2 = some entry.2) :
    asKeyMap? depth (.object m.entries) = some m := by
  rw [asKeyMap?, normalMembers?_eq_self h, Option.map_some, KeyMap.ofList_entries]

end Json
end TicMeter
