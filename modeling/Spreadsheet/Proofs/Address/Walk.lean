import Spreadsheet.Proofs.Formula.Grid

/-!
# Walking over a range

A walk that has given some positions of a range stands before the one of that index: its row and
its column are the quotient and the remainder of the index by the number of columns (`cursorAt`).
One step leads from an index to the next (`step_cursor_at`), so a walk of any length gives the
positions in the order of their indices (`take_walk`). These are the positions that the range
contains (`mem_cells_iff`), row by row (`cells_pairwise_before`, `cells_eq_rows`), and two ranges
share the cells of their intersection (`contains_intersect_iff`).
-/

namespace Spreadsheet

/-- The order row by row: an earlier row, or an earlier column of the same row. -/
def Position.Before (left right : Position) : Prop :=
  left.row < right.row ∨ left.row = right.row ∧ left.column < right.column

namespace CellRange

/-! ## Positions by their index -/

/-- The position that `index` others of the range come before. -/
def positionAt (range : CellRange) (index : Nat) : Position :=
  ⟨range.first.row + index / range.columnCount, range.first.column + index % range.columnCount⟩

section Positions

variable {range : CellRange} {position : Position} {index left right : Nat}

/-- A range has at least one column. -/
theorem column_count_pos (range : CellRange) : 0 < range.columnCount := Nat.succ_pos _

/-- The rows of a range follow its first row, as many as it has. -/
theorem mem_rows_iff_lt {row : Nat} :
    row ∈ range.rows ↔ ∃ offset < range.rowCount, row = range.first.row + offset := by
  simp only [rows, List.mem_range', Nat.one_mul]

/-- The columns of a range follow its first column, as many as it has. -/
theorem mem_columns_iff_lt {column : Nat} :
    column ∈ range.columns ↔
      ∃ offset < range.columnCount, column = range.first.column + offset := by
  simp only [columns, List.mem_range', Nat.one_mul]

/-- An index is a number of rows that are full and a place in the next one. -/
theorem position_at_eq (row : Nat) {column : Nat} (h : column < range.columnCount) :
    range.positionAt (range.columnCount * row + column) =
      ⟨range.first.row + row, range.first.column + column⟩ := by
  rw [positionAt, Nat.mul_add_div range.column_count_pos, Nat.mul_add_mod, Nat.div_eq_of_lt h,
    Nat.mod_eq_of_lt h, Nat.add_zero]

/-- The cell at an index is one of the range. -/
theorem contains_position_at (h : index < range.cellCount) :
    range.contains (range.positionAt index) = true := by
  rw [contains_iff, mem_rows_iff_lt, mem_columns_iff_lt]
  exact ⟨⟨_, (Nat.div_lt_iff_lt_mul range.column_count_pos).mpr h, rfl⟩,
    ⟨_, Nat.mod_lt _ range.column_count_pos, rfl⟩⟩

/-- Every cell of the range stands at an index. -/
theorem exists_index (h : range.contains position = true) :
    ∃ index < range.cellCount, range.positionAt index = position := by
  rw [contains_iff, mem_rows_iff_lt, mem_columns_iff_lt] at h
  obtain ⟨⟨row, hrow, hrowEq⟩, column, hcolumn, hcolumnEq⟩ := h
  refine ⟨range.columnCount * row + column, ?_, ?_⟩
  · calc range.columnCount * row + column
        < range.columnCount * row + range.columnCount := by omega
      _ = (row + 1) * range.columnCount := by rw [Nat.mul_comm, Nat.succ_mul]
      _ ≤ range.cellCount := Nat.mul_le_mul_right _ hrow
  · rw [position_at_eq row hcolumn, ← hrowEq, ← hcolumnEq]

/-- A smaller index is that of an earlier cell. -/
theorem position_at_before (h : left < right) :
    (range.positionAt left).Before (range.positionAt right) := by
  have hrows : left / range.columnCount ≤ right / range.columnCount :=
    Nat.div_le_div_right (Nat.le_of_lt h)
  have hleft := Nat.div_add_mod left range.columnCount
  have hright := Nat.div_add_mod right range.columnCount
  rcases Nat.lt_or_eq_of_le hrows with hrow | hrow
  · exact Or.inl (Nat.add_lt_add_left hrow _)
  · rw [hrow] at hleft
    exact Or.inr ⟨congrArg (range.first.row + ·) hrow, Nat.add_lt_add_left (by omega) _⟩

end Positions

/-! ## Steps -/

/-- The walk that has given `index` positions. -/
def cursorAt (range : CellRange) (index : Nat) : Cursor :=
  ⟨range, range.positionAt index, range.cellCount - index⟩

section Steps

variable {range : CellRange} {index : Nat}

/-- A walk begins at the first index. -/
theorem walk_eq_cursor_at (range : CellRange) : range.walk = range.cursorAt 0 := by
  simp [walk, cursorAt, positionAt, Address.position]

/-- The position after another: below the first column if the other is in the last one, and to its
right otherwise. -/
theorem position_at_succ (range : CellRange) (index : Nat) :
    range.positionAt (index + 1) =
      if (range.positionAt index).column = range.last.column then
        ⟨(range.positionAt index).row + 1, range.first.column⟩
      else ⟨(range.positionAt index).row, (range.positionAt index).column + 1⟩ := by
  have hsplit := Nat.div_add_mod index range.columnCount
  have hcolumn : index % range.columnCount < range.columnCount :=
    Nat.mod_lt _ range.column_count_pos
  have hcount : range.first.column + range.columnCount = range.last.column + 1 := by
    have hordered := range.columns_ordered
    rw [columnCount]
    omega
  have hat : range.positionAt index =
      ⟨range.first.row + index / range.columnCount,
        range.first.column + index % range.columnCount⟩ := rfl
  rw [hat]
  split
  · rename_i hedge
    have hnext : index + 1 = range.columnCount * (index / range.columnCount + 1) + 0 := by
      rw [Nat.mul_succ]
      dsimp only at hedge
      omega
    rw [hnext, position_at_eq _ range.column_count_pos]
    rfl
  · rename_i hinner
    have hnext : index + 1 = range.columnCount * (index / range.columnCount) +
        (index % range.columnCount + 1) := by omega
    have hroom : index % range.columnCount + 1 < range.columnCount := by
      dsimp only at hinner
      omega
    rw [hnext, position_at_eq _ hroom]
    rfl

/-- A step yields the cell at an index and goes on to the next index. -/
theorem step_cursor_at (h : index < range.cellCount) :
    (range.cursorAt index).step = some (range.positionAt index, range.cursorAt (index + 1)) := by
  obtain ⟨rest, hrest⟩ : ∃ rest, range.cellCount - index = rest + 1 :=
    ⟨range.cellCount - index - 1, by omega⟩
  have hafter : range.cellCount - (index + 1) = rest := by omega
  simp only [cursorAt, Cursor.step, hrest, hafter, position_at_succ]

/-- Behind the last cell a walk ends. -/
theorem step_cursor_at_end (h : range.cellCount ≤ index) : (range.cursorAt index).step = none := by
  simp only [cursorAt, Cursor.step, Nat.sub_eq_zero_of_le h]

/-- A walk gives positions in the order of their indices until there are none left. -/
theorem take_cursor_at (count : Nat) (h : index ≤ range.cellCount) :
    (range.cursorAt index).take count =
      ((List.range' index (min count (range.cellCount - index))).map range.positionAt,
        range.cursorAt (min (index + count) range.cellCount)) := by
  induction count generalizing index with
  | zero => simp [Cursor.take, Nat.min_eq_left h]
  | succ count ih =>
      rcases Nat.lt_or_eq_of_le h with hmore | rfl
      · have hcount : min (count + 1) (range.cellCount - index) =
            min count (range.cellCount - (index + 1)) + 1 := by omega
        have hend : index + (count + 1) = index + 1 + count := by omega
        rw [Cursor.take, step_cursor_at hmore, hcount, hend, List.range'_succ, List.map_cons]
        simp only [ih hmore]
      · rw [Cursor.take, step_cursor_at_end (Nat.le_refl _), Nat.sub_self, Nat.min_zero,
          Nat.min_eq_right (Nat.le_add_right _ _)]
        rfl

/-- A walk yields the cells at all indexes, in their order. -/
theorem cells_eq (range : CellRange) :
    range.cells = (List.range range.cellCount).map range.positionAt := by
  rw [cells, walk_eq_cursor_at, take_cursor_at _ (Nat.zero_le _), Nat.sub_zero, Nat.min_self,
    List.range_eq_range']

/-- What a walk has given after some steps, and where it stands then. -/
theorem take_walk (range : CellRange) (count : Nat) :
    range.walk.take count =
      (range.cells.take count, range.cursorAt (min count range.cellCount)) := by
  rw [walk_eq_cursor_at, take_cursor_at _ (Nat.zero_le _), Nat.sub_zero, Nat.zero_add, cells_eq,
    ← List.map_take, List.take_range, List.range_eq_range']

/-- A walk yields the cells that the range contains, and no others. -/
theorem mem_cells_iff {position : Position} :
    position ∈ range.cells ↔ range.contains position = true := by
  rw [cells_eq, List.mem_map]
  constructor
  · rintro ⟨index, hindex, rfl⟩
    exact contains_position_at (List.mem_range.mp hindex)
  · intro h
    obtain ⟨index, hindex, hposition⟩ := exists_index h
    exact ⟨index, List.mem_range.mpr hindex, hposition⟩

/-- A walk yields no cell before an earlier one, and none twice. -/
theorem cells_pairwise_before (range : CellRange) : range.cells.Pairwise Position.Before := by
  rw [cells_eq, List.pairwise_map]
  exact List.pairwise_lt_range.imp position_at_before

/-- As many rows as there are positions for hold them from left to right. -/
theorem positions_of_rows (range : CellRange) (count : Nat) :
    (List.range (count * range.columnCount)).map range.positionAt =
      (List.range' range.first.row count).flatMap fun row => range.columns.map (⟨row, ·⟩) := by
  induction count with
  | zero => simp
  | succ count ih =>
      have hrow : (List.range range.columnCount).map
          (range.positionAt ∘ (count * range.columnCount + ·)) =
            range.columns.map (⟨range.first.row + count, ·⟩) := by
        rw [columns, List.range'_eq_map_range, List.map_map]
        refine List.map_congr_left fun column hcolumn => ?_
        rw [Function.comp_apply, Nat.mul_comm,
          position_at_eq count (List.mem_range.mp hcolumn)]
        rfl
      rw [Nat.succ_mul, List.range_add, List.map_append, ih, List.map_map, hrow,
        List.range'_1_concat, List.flatMap_append, List.flatMap_singleton]

/-- A walk goes along one row after the other. -/
theorem cells_eq_rows (range : CellRange) :
    range.cells = range.rows.flatMap fun row => range.columns.map (⟨row, ·⟩) := by
  rw [cells_eq, cellCount, positions_of_rows]
  rfl

/-- A walk yields as many cells as the range has. -/
theorem length_cells (range : CellRange) : range.cells.length = range.cellCount := by
  rw [cells_eq, List.length_map, List.length_range]

/-- How many positions a walk has left, and that it ends when it has none. -/
theorem remaining_take_walk (range : CellRange) (count : Nat) :
    (range.walk.take count).2.remaining = range.cellCount - count ∧
      ((range.walk.take count).2.step = none ↔ range.cellCount ≤ count) := by
  rw [take_walk]
  refine ⟨by simp only [cursorAt]; omega, fun hend => Nat.le_of_not_lt fun hmore => ?_,
    fun hcount => ?_⟩
  · have hbefore : min count range.cellCount < range.cellCount := by omega
    rw [step_cursor_at hbefore] at hend
    cases hend
  · exact step_cursor_at_end (by omega)

end Steps

/-! ## Intersections -/

section Intersections

variable {left right shared : CellRange}

/-- A range contains what lies between its corners, in rows as in columns. -/
theorem contains_iff_between {range : CellRange} {position : Position} :
    range.contains position = true ↔
      (range.first.row ≤ position.row ∧ position.row ≤ range.last.row) ∧
        range.first.column ≤ position.column ∧ position.column ≤ range.last.column := by
  rw [contains_iff, mem_rows_iff, mem_columns_iff]

/-- The range that two have in common contains the cells that both contain. -/
theorem contains_intersect_iff (h : left.intersect right = some shared) (position : Position) :
    shared.contains position = true ↔
      left.contains position = true ∧ right.contains position = true := by
  unfold intersect at h
  dsimp only at h
  split at h
  · cases h
    simp only [contains_iff_between, ofPositions, ofCorners, Address.ofPosition]
    grind
  · cases h

/-- Two ranges have no range in common just if they have no cell in common. -/
theorem intersect_eq_none_iff :
    left.intersect right = none ↔
      ∀ position, ¬ (left.contains position = true ∧ right.contains position = true) := by
  constructor
  · intro h position
    unfold intersect at h
    dsimp only at h
    split at h
    · cases h
    · simp only [contains_iff_between]
      grind
  · intro h
    cases hshared : left.intersect right with
    | none => rfl
    | some shared =>
        exact absurd ((contains_intersect_iff hshared _).mp shared.contains_first) (h _)

end Intersections

end CellRange

end Spreadsheet
