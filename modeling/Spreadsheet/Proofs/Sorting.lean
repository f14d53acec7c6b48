import Mathlib.Data.List.Sort

/-!
# Sorting by distinct keys

Items with distinct keys are put into one order by sorting, whatever order they come in
(`merge_sort_eq_of_perm`).
-/

namespace Spreadsheet

variable {α κ : Type} [LinearOrder κ] {items sorted : List α}

/-- Sorting by keys gives the items as they are listed by ascending keys. -/
theorem merge_sort_eq_of_perm (key : α → κ) (hperm : items.Perm sorted)
    (hsorted : sorted.Pairwise fun left right => key left < key right) :
    (items.mergeSort fun left right => decide (key left ≤ key right)) = sorted := by
  have hascending : (items.mergeSort fun left right => decide (key left ≤ key right)).Pairwise
      fun left right => key left ≤ key right := by
    refine (List.pairwise_mergeSort ?_ ?_ items).imp of_decide_eq_true
    · intro left middle right hleft hright
      simp only [decide_eq_true_eq] at hleft hright ⊢
      exact le_trans hleft hright
    · intro left right
      simpa using le_total (key left) (key right)
  have hsame : (items.mergeSort fun left right => decide (key left ≤ key right)).Perm sorted :=
    (List.mergeSort_perm items _).trans hperm
  have hdistinct : (sorted.map key).Nodup := List.pairwise_map.mpr (hsorted.imp ne_of_lt)
  refine hsame.eq_of_pairwise ?_ hascending (hsorted.imp le_of_lt)
  intro left right hleft hright hle hge
  exact List.inj_on_of_nodup_map hdistinct (hsame.mem_iff.mp hleft) hright (le_antisymm hle hge)

end Spreadsheet
