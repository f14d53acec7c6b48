import Mathlib.Data.List.TakeWhile

/-!
# Lists cut by a test

A list in which all items that pass a test come first is cut by it where the first one fails: what
is taken is what passes (`take_while_eq_filter`), and what is left is what does not
(`drop_while_eq_filter`).
-/

namespace Spreadsheet

variable {α : Type} {holds : α → Bool} {items : List α}

/-- Where whatever passes comes before whatever does not, the longest passing beginning holds all
that passes. -/
theorem take_while_eq_filter
    (h : items.Pairwise fun earlier later => holds later → holds earlier) :
    items.takeWhile holds = items.filter holds := by
  induction items with
  | nil => rfl
  | cons item rest ih =>
      obtain ⟨first, others⟩ := List.pairwise_cons.mp h
      by_cases holding : holds item
      · rw [List.takeWhile_cons_of_pos holding, List.filter_cons_of_pos holding, ih others]
      · rw [List.takeWhile_cons_of_neg holding, List.filter_cons_of_neg holding]
        exact (List.filter_eq_nil_iff.mpr fun later among held =>
          holding (first later among held)).symm

/-- Behind that beginning stands all that does not pass. -/
theorem drop_while_eq_filter
    (h : items.Pairwise fun earlier later => holds later → holds earlier) :
    items.dropWhile holds = items.filter fun item => !holds item := by
  induction items with
  | nil => rfl
  | cons item rest ih =>
      obtain ⟨first, others⟩ := List.pairwise_cons.mp h
      by_cases holding : holds item
      · rw [List.dropWhile_cons_of_pos holding, ih others,
          List.filter_cons_of_neg (by simp [holding])]
      · have failing : ∀ later ∈ item :: rest, (!holds later) = true := by
          refine List.forall_mem_cons.mpr ⟨by simp [holding], fun later among => ?_⟩
          simpa using fun held => holding (first later among held)
        rw [List.dropWhile_cons_of_neg holding, List.filter_eq_self.mpr failing]

end Spreadsheet
