import Spreadsheet.Proofs.Address.Corners
import Spreadsheet.Proofs.Address.Walk
import Spreadsheet.Proofs.Machine.Lookups

/-!
# Walks over ranges on a machine

Rows are counted in 32 bits, columns in 16 and cells in 64. A walk counts down what is left of its
range and steps to the right or down, once beyond the last row at its end. On ranges of the grid none
of this overflows, and the walk is the one over unbounded integers (`take_cursor_at_eq`). With it,
`cells_of_obtained` says that ranges behave as the sets of their cells.
-/

namespace Spreadsheet

/-- Ranges that are read, or spanned by two corners inside the grid. -/
inductive CellRange.Obtained : CellRange → Prop where
  | read {text : String} {range : CellRange} (h : parse text = .ok range) : Obtained range
  | spanned {left right : Address} (hleft : left.position.InGrid) (hright : right.position.InGrid) :
      Obtained (ofCorners left right)

/-- A range that is obtained lies in the grid. -/
theorem CellRange.Obtained.in_grid {range : CellRange} (h : range.Obtained) : range.InGrid := by
  cases h with
  | read h => exact in_grid_of_parse h
  | spanned hleft hright => exact in_grid_of_corners hleft hright

namespace Machine

open CellRange (Cursor)

/-- The number of cells of a range, of 64 bits. -/
def cellCount (range : CellRange) : Checked Nat := do
  let rows ← rowCount range
  let columns ← columnCount range
  unsigned 64 (rows * columns)

namespace Walk

/-- The walk over a whole range. -/
def start (range : CellRange) : Checked Cursor := do
  return ⟨range, range.first.position, ← cellCount range⟩

/-- The position of a range after another. -/
def nextPosition (range : CellRange) (position : Position) : Checked Position :=
  if position.column = range.last.column then do
    return ⟨← unsigned 32 (position.row + 1), range.first.column⟩
  else do
    return ⟨position.row, ← unsigned 16 (position.column + 1)⟩

/-- One step of a walk. -/
def step (cursor : Cursor) : Checked (Option (Position × Cursor)) :=
  if cursor.remaining = 0 then return none
  else do
    let remaining ← minus cursor.remaining 1
    let next ← nextPosition cursor.range cursor.next
    return some (cursor.next, ⟨cursor.range, next, remaining⟩)

/-- The next positions of a walk, at most `count` of them, and the walk after them. -/
def take : Nat → Cursor → Checked (List Position × Cursor)
  | 0, cursor => return ([], cursor)
  | count + 1, cursor => do
    match ← step cursor with
    | none => return ([], cursor)
    | some (position, rest) =>
      let (positions, final) ← take count rest
      return (position :: positions, final)

section Ranges

variable {range : CellRange} {index : Nat}

/-- The cells of a range of the grid are counted without being stopped. -/
theorem cell_count_eq (h : range.InGrid) : cellCount range = .ok range.cellCount := by
  have hlast := h _ range.contains_last
  have hrows : range.rowCount ≤ 2 ^ 20 := by
    have hlimit : range.last.row < 1048576 := hlast.1
    rw [CellRange.rowCount]
    omega
  have hcolumns : range.columnCount ≤ 2 ^ 14 := by
    have hlimit : range.last.column < 16384 := hlast.2
    rw [CellRange.columnCount]
    omega
  have hcells : range.rowCount * range.columnCount < 2 ^ 64 :=
    (Nat.mul_le_mul hrows hcolumns).trans_lt (by decide)
  rw [cellCount, row_count_eq h, column_count_eq h]
  exact unsigned_eq hcells

/-- A walk over a range of the grid starts without being stopped. -/
theorem start_eq (h : range.InGrid) : start range = .ok range.walk := by
  rw [start, cell_count_eq h]
  rfl

/-- After a cell of a range of the grid the next position fits, below the last row as well. -/
theorem next_position_eq (hgrid : range.InGrid) (h : index < range.cellCount) :
    nextPosition range (range.positionAt index) = .ok (range.positionAt (index + 1)) := by
  obtain ⟨hrow, hcolumn⟩ := hgrid _ (CellRange.contains_position_at h)
  have hrowSize : (range.positionAt index).row + 1 < 2 ^ 32 := by
    have hlimit : rowLimit < 2 ^ 32 := by decide
    omega
  have hcolumnSize : (range.positionAt index).column + 1 < 2 ^ 16 := by
    have hlimit : columnLimit < 2 ^ 16 := by decide
    omega
  rw [nextPosition, CellRange.position_at_succ]
  split
  · rw [unsigned_eq hrowSize]
    rfl
  · rw [unsigned_eq hcolumnSize]
    rfl

/-- A step in a range of the grid is taken without being stopped. -/
theorem step_cursor_at_eq (hgrid : range.InGrid) :
    step (range.cursorAt index) = .ok (range.cursorAt index).step := by
  by_cases h : index < range.cellCount
  · have hremaining : 1 ≤ (range.cursorAt index).remaining := Nat.sub_pos_of_lt h
    have hnext : nextPosition (range.cursorAt index).range (range.cursorAt index).next = _ :=
      next_position_eq hgrid h
    rw [step, if_neg (by omega), minus_eq hremaining, CellRange.step_cursor_at h, hnext]
    rfl
  · have hend := Nat.le_of_not_lt h
    have hremaining : (range.cursorAt index).remaining = 0 := Nat.sub_eq_zero_of_le hend
    rw [step, if_pos hremaining, CellRange.step_cursor_at_end hend]
    rfl

/-- Any number of cells is taken from a range of the grid without being stopped. -/
theorem take_cursor_at_eq (hgrid : range.InGrid) (count : Nat) :
    take count (range.cursorAt index) = .ok ((range.cursorAt index).take count) := by
  induction count generalizing index with
  | zero => rfl
  | succ count ih =>
      rw [take, step_cursor_at_eq hgrid, Cursor.take]
      by_cases h : index < range.cellCount
      · rw [CellRange.step_cursor_at h]
        show (take count (range.cursorAt (index + 1)) >>= _) = _
        rw [ih]
        rfl
      · rw [CellRange.step_cursor_at_end (Nat.le_of_not_lt h)]
        rfl

end Ranges

end Walk

/-- A range of the grid behaves as the set of its cells. It shares with another range the cells of
their intersection, and none if there is none. A walk over it gives each of its cells once, row by
row, knows at any time how many are left, and ends when there are none. No number on the way
overflows. -/
theorem cells_of_obtained {range : CellRange} (h : range.Obtained) :
    (∀ other : CellRange,
        (range.intersect other = none ↔
          ∀ position, ¬ (range.contains position = true ∧ other.contains position = true)) ∧
        ∀ shared, range.intersect other = some shared → ∀ position,
          shared.contains position = true ↔
            range.contains position = true ∧ other.contains position = true) ∧
      (∀ position, position ∈ range.cells ↔ range.contains position = true) ∧
      range.cells.Pairwise Position.Before ∧
      range.cells.length = range.cellCount ∧
      (∀ count,
        (range.walk.take count).1 = range.cells.take count ∧
          (range.walk.take count).2.remaining = range.cellCount - count ∧
          ((range.walk.take count).2.step = none ↔ range.cellCount ≤ count)) ∧
      rowCount range = .ok range.rowCount ∧
      columnCount range = .ok range.columnCount ∧
      cellCount range = .ok range.cellCount ∧
      Walk.start range = .ok range.walk ∧
      ∀ count, Walk.take count range.walk = .ok (range.walk.take count) := by
  have hgrid := h.in_grid
  refine ⟨fun other => ⟨CellRange.intersect_eq_none_iff, fun shared hshared => ?_⟩,
    fun position => CellRange.mem_cells_iff, range.cells_pairwise_before, range.length_cells,
    fun count => ⟨?_, range.remaining_take_walk count⟩, row_count_eq hgrid,
    column_count_eq hgrid, Walk.cell_count_eq hgrid, Walk.start_eq hgrid, fun count => ?_⟩
  · exact CellRange.contains_intersect_iff hshared
  · rw [CellRange.take_walk]
  · rw [CellRange.walk_eq_cursor_at]
    exact Walk.take_cursor_at_eq hgrid count

/-- The whole sheet, its corners the other way round. -/
theorem cells_of_obtained_of_whole_sheet :
    ∃ range : CellRange, CellRange.parse "XFD1048576:A1" = .ok range ∧
      (range.walk.take 17179869184).2.remaining = 0 ∧
      (range.walk.take 17179869184).2.step = none ∧
      ⟨1048575, 16383⟩ ∈ range.cells ∧
      cellCount range = .ok 17179869184 ∧
      ∀ count, Walk.take count range.walk = .ok (range.walk.take count) := by
  have h : CellRange.parse "XFD1048576:A1" =
      .ok (.ofCorners ⟨1048575, 16383, false, false⟩ ⟨0, 0, false, false⟩) := rfl
  obtain ⟨-, hcells, -, -, hwalk, -, -, hcount, -, htake⟩ := cells_of_obtained (.read h)
  obtain ⟨-, hremaining, hend⟩ := hwalk 17179869184
  exact ⟨_, h, hremaining, hend.mpr (by decide), (hcells _).mpr (by decide), hcount, htake⟩

end Machine

end Spreadsheet
