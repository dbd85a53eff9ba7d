import Mathlib.Data.List.Perm.Basic
import TicMeter.KeyMap

/-!
# KeyMap — maps made from lists of entries

Entries that come with different keys are all kept, in the order of their keys.

* `KeyMap.entries_ofList_perm`: nothing is merged and nothing is lost.
* `KeyMap.ofList_entries`: a map is made from its own entries.
-/

namespace TicMeter
namespace KeyMap

variable {α : Type}

/-- Entries that are the same but for their order make one list when they are put in order. -/
theorem eq_of_perm {m n : KeyMap α} (h : m.entries.Perm n.entries) : m = n := by
  have hentries : m.entries = n.entries := by
    refine h.eq_of_pairwise (fun a b _ _ hab hba => ?_) m.rising n.rising
    exact absurd hba (String.lt_asymm hab)
  cases m
  cases n
  congr

theorem insertEntry_perm {key : String} {entries : List (String × α)}
    (h : key ∉ entries.map Prod.fst) (value : α) :
    (insertEntry key value entries).Perm ((key, value) :: entries) := by
  induction entries with
  | nil => exact .refl _
  | cons head rest ih =>
    rcases head with ⟨k, v⟩
    simp only [List.map_cons, List.mem_cons, not_or] at h
    unfold insertEntry
    rw [if_neg h.1]
    split
    · exact .refl _
    · exact ((ih h.2).cons (k, v)).trans (.swap _ _ _)

theorem foldl_insert_perm {entries : List (String × α)} {m : KeyMap α}
    (h : ((m.entries ++ entries).map Prod.fst).Nodup) :
    (entries.foldl (fun m (key, value) => m.insert key value) m).entries.Perm
      (m.entries ++ entries) := by
  induction entries generalizing m with
  | nil => simp
  | cons entry rest ih =>
    rcases entry with ⟨key, value⟩
    have hmiddle : (m.entries ++ (key, value) :: rest).Perm
        ((key, value) :: m.entries ++ rest) := List.perm_middle
    have hnodup := (hmiddle.map Prod.fst).nodup_iff.1 h
    have hnew : key ∉ m.entries.map Prod.fst := by
      simp only [List.cons_append, List.map_cons, List.nodup_cons, List.map_append,
        List.mem_append, not_or] at hnodup
      exact hnodup.1.1
    have hinsert : ((m.insert key value).entries ++ rest).Perm
        ((key, value) :: m.entries ++ rest) := (insertEntry_perm hnew value).append_right rest
    exact (ih ((hinsert.map Prod.fst).nodup_iff.2 hnodup)).trans (hinsert.trans hmiddle.symm)

/-- Entries under different keys are all there. -/
theorem entries_ofList_perm {entries : List (String × α)} (h : (entries.map Prod.fst).Nodup) :
    (ofList entries).entries.Perm entries :=
  foldl_insert_perm h

theorem nodup_keys (m : KeyMap α) : (m.entries.map Prod.fst).Nodup := by
  refine List.pairwise_map.2 (m.rising.imp fun hlt heq => ?_)
  rw [heq] at hlt
  exact String.lt_irrefl _ hlt

theorem ofList_entries (m : KeyMap α) : ofList m.entries = m :=
  eq_of_perm (entries_ofList_perm m.nodup_keys)

end KeyMap
end TicMeter
