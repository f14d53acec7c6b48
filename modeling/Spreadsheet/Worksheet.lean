import Std.Data.ExtTreeMap
import Std.Data.ExtTreeSet
import Spreadsheet.Address.Range
import Spreadsheet.Cell

/-!
# Worksheets

A worksheet is a name, the cells that are not blank, and the rows that are hidden. Cells are kept
row by row, and every listing follows that order.
-/

namespace Spreadsheet

/-- Positions are ordered row by row, and by column inside a row. -/
def Position.order (left right : Position) : Ordering :=
  (compare left.row right.row).then (compare left.column right.column)

instance : Std.TransCmp Position.order :=
  inferInstanceAs (Std.TransCmp (compareLex (compareOn Position.row) (compareOn Position.column)))

instance : Std.LawfulEqCmp Position.order where
  compare_self := by simp [Position.order]
  eq_of_compare := by
    intro left right h
    obtain ⟨hrow, hcolumn⟩ := Ordering.then_eq_eq.mp h
    obtain ⟨row, column⟩ := left
    obtain ⟨row', column'⟩ := right
    simp only [Std.compare_eq_iff_eq] at hrow hcolumn
    rw [hrow, hcolumn]

/-- Whether a cell may be stored at a position: the position lies in the grid, and blanks are not
stored. -/
def Cell.FitsAt (content : Cell) (position : Position) : Prop :=
  position.InGrid ∧ content.isEmpty = false

/-- One sheet of a workbook. -/
structure Worksheet where
  name : String
  cells : Std.ExtTreeMap Position Cell Position.order
  hiddenRows : Std.ExtTreeSet Nat
  fits : ∀ (position : Position) (content : Cell),
    cells[position]? = some content → content.FitsAt position

namespace Worksheet

/-- A sheet without cells. -/
def blank (name : String) : Worksheet := ⟨name, ∅, ∅, by simp⟩

instance : Inhabited Worksheet := ⟨blank ""⟩

/-- The cell at a position; most positions hold nothing. -/
def cell (sheet : Worksheet) (position : Position) : Cell := sheet.cells[position]?.getD .empty

/-- Whether anything is stored at a position. -/
def isStored (sheet : Worksheet) (position : Position) : Bool := sheet.cells.contains position

/-- What the cell at a position shows. -/
def shown (sheet : Worksheet) (position : Position) : Cell := (sheet.cell position).effective

/-- The formula text at a position. -/
def formulaAt (sheet : Worksheet) (position : Position) : Option String :=
  (sheet.cell position).formulaText

/-- The cell at a written address. -/
def cellAt (sheet : Worksheet) (address : String) : Except DocumentError Cell := do
  return sheet.cell (← Address.parse address).position

/-- The sheet with a cell in place of what is stored at a position. -/
def insert (sheet : Worksheet) (position : Position) (content : Cell)
    (h : content.FitsAt position) : Worksheet where
  name := sheet.name
  cells := sheet.cells.insert position content
  hiddenRows := sheet.hiddenRows
  fits other stored hstored := by
    rw [Std.ExtTreeMap.getElem?_insert] at hstored
    split at hstored
    · cases hstored
      obtain rfl : position = other := Std.LawfulEqCmp.eq_of_compare ‹_›
      exact h
    · exact sheet.fits other stored hstored

/-- Takes away what is stored at a position. -/
def clear (sheet : Worksheet) (position : Position) : Worksheet where
  name := sheet.name
  cells := sheet.cells.erase position
  hiddenRows := sheet.hiddenRows
  fits other stored hstored := by
    rw [Std.ExtTreeMap.getElem?_erase] at hstored
    split at hstored
    · cases hstored
    · exact sheet.fits other stored hstored

/-- Writes a cell of the grid; a blank clears it. -/
def write (sheet : Worksheet) (position : Position) (content : Cell) :
    Except DocumentError Worksheet :=
  match h : position.check with
  | .error refusal => .error refusal
  | .ok () =>
    if hblank : content.isEmpty then .ok (sheet.clear position)
    else .ok (sheet.insert position content
      ⟨Position.check_eq_ok_iff.mp h, Bool.eq_false_iff.mpr hblank⟩)

/-- Writes a cell by its written address. -/
def writeAt (sheet : Worksheet) (address : String) (content : Cell) :
    Except DocumentError Worksheet := do
  sheet.write (← Address.parse address).position content

/-- Stores the result of a calculated formula; any other cell is refused. -/
def storeResult (sheet : Worksheet) (position : Position) (result : Cell) :
    Except DocumentError Worksheet :=
  match h : sheet.cells[position]? with
  | some (.formula source _) =>
    .ok (sheet.insert position (.formula source (some result)) ⟨(sheet.fits _ _ h).1, rfl⟩)
  | _ => .error (.notAFormula position.render)

/-- Every formula of the sheet, row by row. -/
def formulas (sheet : Worksheet) : List (Position × String) :=
  sheet.cells.toList.filterMap fun (position, content) =>
    content.formulaText.map fun source => (position, source)

/-- The stored cells from one position to another, row by row. -/
def cellsBetween (sheet : Worksheet) (first last : Position) : List (Position × Cell) :=
  let reached := sheet.cells.toList.dropWhile fun entry => Position.order entry.1 first == .lt
  reached.takeWhile fun entry => Position.order entry.1 last != .gt

/-- The stored cells inside a range, row by row: those in its columns, of all the cells of its
rows. -/
def cellsIn (sheet : Worksheet) (range : CellRange) : List (Position × Cell) :=
  let band := sheet.cellsBetween ⟨range.first.row, 0⟩ ⟨range.last.row, columnLimit - 1⟩
  band.filter fun entry =>
    range.first.column ≤ entry.1.column && entry.1.column ≤ range.last.column

/-- The smallest range that holds every stored cell: rows from the first and the last cell, columns
from all of them. -/
def usedRange (sheet : Worksheet) : Option CellRange :=
  let positions := sheet.cells.keys
  match positions.head?, positions.getLast? with
  | some first, some last =>
    let left := positions.foldl (fun column position => min column position.column) first.column
    let right := positions.foldl (fun column position => max column position.column) 0
    some (.ofPositions ⟨first.row, left⟩ ⟨last.row, right⟩)
  | _, _ => none

/-- Number of stored cells. -/
def cellCount (sheet : Worksheet) : Nat := sheet.cells.size

/-- Whether a row is hidden. -/
def isRowHidden (sheet : Worksheet) (row : Nat) : Bool := sheet.hiddenRows.contains row

/-- Hides a row or shows it again. -/
def setRowHidden (sheet : Worksheet) (row : Nat) (hidden : Bool) : Worksheet :=
  { sheet with
    hiddenRows := if hidden then sheet.hiddenRows.insert row else sheet.hiddenRows.erase row }

/-- Gives the sheet another name, whatever it is. -/
def rename (sheet : Worksheet) (name : String) : Worksheet := { sheet with name }

end Worksheet

end Spreadsheet
