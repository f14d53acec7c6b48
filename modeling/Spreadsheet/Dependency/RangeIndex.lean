import Std.Data.TreeMap
import Spreadsheet.Address.Range

/-!
# An index of cells by column

The index finds the numbers of cells in a range without looking at blank cells. A range with fewer
columns than the index is walked column by column; a wider one by walking the columns of the
index. Both walks give the numbers by column and then by row.
-/

namespace Spreadsheet.Dependency

/-- The columns of sheets are ordered by sheet and then by column. -/
def columnOrder (left right : Nat × Nat) : Ordering :=
  (compare left.1 right.1).then (compare left.2 right.2)

instance : Std.TransCmp columnOrder :=
  inferInstanceAs (Std.TransCmp
    (compareLex (compareOn fun column : Nat × Nat => column.1) (compareOn Prod.snd)))

instance : Std.LawfulEqCmp columnOrder where
  compare_self := by simp [columnOrder]
  eq_of_compare := by
    intro left right h
    obtain ⟨hsheet, hcolumn⟩ := Ordering.then_eq_eq.mp h
    simp only [Std.compare_eq_iff_eq] at hsheet hcolumn
    exact Prod.ext hsheet hcolumn

/-- The numbers of cells, by sheet and column and then by row. -/
structure RangeIndex where
  columns : Std.TreeMap (Nat × Nat) (Std.TreeMap Nat Nat) columnOrder

namespace RangeIndex

/-- The index of no cells. -/
def empty : RangeIndex := ⟨∅⟩

/-- Enters the number of a cell. -/
def insert (index : RangeIndex) (sheet : Nat) (position : Position) (number : Nat) : RangeIndex :=
  let column := (index.columns[(sheet, position.column)]?).getD ∅
  ⟨index.columns.insert (sheet, position.column) (column.insert position.row number)⟩

/-- The number of a cell. -/
def get? (index : RangeIndex) (sheet : Nat) (position : Position) : Option Nat := do
  (← index.columns[(sheet, position.column)]?)[position.row]?

/-- The numbers in the rows of a range, in one column. -/
def rowsIn (range : CellRange) (column : Std.TreeMap Nat Nat) : List Nat :=
  column.toList.filterMap fun (row, number) =>
    if range.first.row ≤ row ∧ row ≤ range.last.row then some number else none

/-- The numbers in a range, found by walking the columns of the index. -/
def wideWalk (index : RangeIndex) (sheet : Nat) (range : CellRange) : List Nat :=
  index.columns.toList.flatMap fun ((on, number), column) =>
    if on = sheet ∧ range.first.column ≤ number ∧ number ≤ range.last.column then
      rowsIn range column
    else []

/-- The numbers in a range, found by walking the columns of the range. -/
def narrowWalk (index : RangeIndex) (sheet : Nat) (range : CellRange) : List Nat :=
  range.columns.flatMap fun number =>
    ((index.columns[(sheet, number)]?).map (rowsIn range)).getD []

/-- The numbers in a range, by the shorter of the two walks. -/
def inRange (index : RangeIndex) (sheet : Nat) (range : CellRange) : List Nat :=
  if index.columns.size < range.columnCount then index.wideWalk sheet range
  else index.narrowWalk sheet range

end RangeIndex

end Spreadsheet.Dependency
