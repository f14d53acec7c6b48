import Spreadsheet.Address.CellId
import Spreadsheet.Address.Range

/-!
# Cells of ranges

Which positions belong to a range, by rows and columns, and that the key of a cell determines it.
-/

namespace Spreadsheet

namespace CellRange

/-- The columns of a range are those between its corners, both included. -/
theorem mem_columns_iff {range : CellRange} {column : Nat} :
    column ∈ range.columns ↔ range.first.column ≤ column ∧ column ≤ range.last.column := by
  have h := range.columns_ordered
  simp only [columns, columnCount, List.mem_range'_1]
  omega

/-- The rows of a range are those between its corners, both included. -/
theorem mem_rows_iff {range : CellRange} {row : Nat} :
    row ∈ range.rows ↔ range.first.row ≤ row ∧ row ≤ range.last.row := by
  have h := range.rows_ordered
  simp only [rows, rowCount, List.mem_range'_1]
  omega

/-- A range contains the positions in its rows and columns. -/
theorem contains_iff {range : CellRange} {position : Position} :
    range.contains position = true ↔
      position.row ∈ range.rows ∧ position.column ∈ range.columns := by
  simp [contains, mem_rows_iff, mem_columns_iff]

/-- A range contains its first corner. -/
theorem contains_first (range : CellRange) : range.contains range.first.position = true := by
  have hrows := range.rows_ordered
  have hcolumns := range.columns_ordered
  rw [contains_iff, mem_rows_iff, mem_columns_iff]
  exact ⟨⟨Nat.le_refl _, hrows⟩, ⟨Nat.le_refl _, hcolumns⟩⟩

end CellRange

/-- A key is determined by the cell it names. -/
theorem CellId.eq_of_place_eq {left right : CellId} (hsheet : left.sheet = right.sheet)
    (hposition : left.position = right.position) : left = right := by
  obtain ⟨left⟩ := left
  obtain ⟨right⟩ := right
  obtain ⟨hrow, hcolumn⟩ := Position.mk.inj hposition
  simp only [CellId.sheet, CellId.row, CellId.column] at hsheet hrow hcolumn
  have hupper : left / columnLimit = right / columnLimit := by
    rw [← Nat.div_add_mod (left / columnLimit) rowLimit,
      ← Nat.div_add_mod (right / columnLimit) rowLimit, hsheet, hrow]
  rw [← Nat.div_add_mod left columnLimit, ← Nat.div_add_mod right columnLimit, hupper, hcolumn]

end Spreadsheet
