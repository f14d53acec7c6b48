import Mathlib.Data.List.Range
import Mathlib.Data.List.Pairwise
import Spreadsheet.Dependency.RangeIndex
import Spreadsheet.Proofs.Address.Range
import Spreadsheet.Proofs.Sorting

/-!
# The two walks over a range

The index is a partial function from the cells of sheets to numbers, `RangeIndex.get?`. Whether a
range is walked by its own columns or by those of the index depends on how many columns the index has,
on all sheets together. Both walks meet the same columns (`wide_columns_eq`), so that they give one
list, the entries of the index in the range by column and then by row (`in_range_eq`). The main
theorem, `in_range_of_insertions`, says this of every index, in terms of what was inserted into it.
-/

namespace Spreadsheet

/-- Whether a position comes before another column by column. -/
def Position.ColumnBefore (left right : Position) : Prop :=
  left.column < right.column ∨ left.column = right.column ∧ left.row < right.row

namespace Dependency

namespace RangeIndex

/-- The empty index finds nothing. -/
@[simp] theorem get_empty (sheet : Nat) (position : Position) :
    empty.get? sheet position = none := by
  simp [empty, get?]

/-- Entering a number changes what the index says of one cell. -/
theorem get_insert (index : RangeIndex) (sheet other : Nat) (position target : Position)
    (number : Nat) :
    (index.insert sheet position number).get? other target =
      if sheet = other ∧ position = target then some number else index.get? other target := by
  obtain ⟨row, column⟩ := position
  obtain ⟨targetRow, targetColumn⟩ := target
  by_cases hcolumn : (sheet, column) = (other, targetColumn)
  · obtain ⟨rfl, rfl⟩ := Prod.mk.inj hcolumn
    by_cases hrow : row = targetRow
    · simp [insert, get?, hrow]
    · cases h : index.columns[(sheet, column)]? <;>
        simp [insert, get?, h, Std.TreeMap.getElem?_insert, hrow]
  · have hother : ¬ (sheet = other ∧ row = targetRow ∧ column = targetColumn) := by
      rintro ⟨rfl, -, rfl⟩
      exact hcolumn rfl
    have hcompare : columnOrder (sheet, column) (other, targetColumn) ≠ .eq := by
      simpa [Std.LawfulEqCmp.compare_eq_iff_eq] using hcolumn
    simp [insert, get?, Std.TreeMap.getElem?_insert, hcompare, hother]

/-- An index finds a number exactly if it has the column, and the column the row
with that number. -/
theorem get_eq_some_iff {index : RangeIndex} {sheet number : Nat} {position : Position} :
    index.get? sheet position = some number ↔
      ∃ column, index.columns[(sheet, position.column)]? = some column ∧
        column[position.row]? = some number := by
  cases h : index.columns[(sheet, position.column)]? <;> simp [get?, h]

/-! ## Insertions -/

/-- A number under which a cell is entered. -/
structure Insertion where
  sheet : Nat
  position : Position
  number : Nat
  deriving DecidableEq

/-- The cell of an insertion. -/
def Insertion.cell (insertion : Insertion) : Nat × Position :=
  (insertion.sheet, insertion.position)

/-- The index after some insertions. -/
def ofInsertions (insertions : List Insertion) : RangeIndex :=
  insertions.foldl (fun index insertion =>
    index.insert insertion.sheet insertion.position insertion.number) empty

/-- The insertions that count: of those at one cell the last one. -/
def latest (insertions : List Insertion) : List Insertion :=
  insertions.pwFilter fun insertion later => insertion.cell ≠ later.cell

section Insertions

variable {insertions : List Insertion} {insertion : Insertion} {index : RangeIndex}
  {sheet number : Nat} {position : Position}

/-- No latest insertion is at a cell exactly if no insertion is. -/
theorem forall_latest_ne_iff : (∀ other ∈ latest insertions, insertion.cell ≠ other.cell) ↔
    ∀ other ∈ insertions, insertion.cell ≠ other.cell := by
  refine List.forall_mem_pwFilter (fun {first second third} hne => ?_) insertion insertions
  by_cases h : first.cell = second.cell
  · exact .inr (h ▸ hne)
  · exact .inl h

/-- An insertion stays the latest one if no later one is at the same cell. -/
theorem mem_latest_cons_iff {other : Insertion} : other ∈ latest (insertion :: insertions) ↔
    other ∈ latest insertions ∨
      other = insertion ∧ ∀ later ∈ insertions, insertion.cell ≠ later.cell := by
  by_cases h : ∀ later ∈ insertions, insertion.cell ≠ later.cell
  · rw [latest, List.pwFilter_cons_of_pos (forall_latest_ne_iff.mpr h), List.mem_cons]
    tauto
  · rw [latest, List.pwFilter_cons_of_neg (forall_latest_ne_iff.not.mpr h)]
    tauto

/-- After some insertions a cell has the number that was inserted last, or the one it had before if
none was. -/
theorem get_foldl_insertions_iff : (insertions.foldl (fun index insertion =>
      index.insert insertion.sheet insertion.position insertion.number) index).get? sheet position =
        some number ↔
    ⟨sheet, position, number⟩ ∈ latest insertions ∨
      index.get? sheet position = some number ∧
        ∀ later ∈ insertions, (sheet, position) ≠ later.cell := by
  induction insertions generalizing index with
  | nil => simp [latest]
  | cons insertion rest ih =>
      rw [List.foldl_cons, ih, get_insert, mem_latest_cons_iff, List.forall_mem_cons, or_assoc]
      refine or_congr_right ?_
      obtain ⟨on, at', entered⟩ := insertion
      by_cases hcell : (sheet, position) = (on, at')
      · obtain ⟨rfl, rfl⟩ := Prod.mk.inj hcell
        simp [Insertion.cell, eq_comm]
      · have hother : ¬ (on = sheet ∧ at' = position) := by
          rintro ⟨rfl, rfl⟩
          exact hcell rfl
        rw [if_neg hother]
        constructor
        · exact fun ⟨hindex, hlater⟩ => .inr ⟨hindex, hcell, hlater⟩
        · rintro (⟨hsame, -⟩ | ⟨hindex, -, hlater⟩)
          · cases hsame
            exact absurd rfl hcell
          · exact ⟨hindex, hlater⟩

/-- An index holds the insertions that count. -/
theorem get_of_insertions_iff : (ofInsertions insertions).get? sheet position = some number ↔
    ⟨sheet, position, number⟩ ∈ latest insertions := by
  simp [ofInsertions, get_foldl_insertions_iff]

/-- Where no cell is entered twice, all insertions count. -/
theorem latest_eq_self (h : (insertions.map Insertion.cell).Nodup) :
    latest insertions = insertions :=
  List.pwFilter_eq_self.mpr (List.pairwise_map.mp h)

/-- The latest insertions are some of all insertions, in the same order. -/
theorem latest_sublist (insertions : List Insertion) : (latest insertions).Sublist insertions :=
  List.pwFilter_sublist insertions

/-- No insertion is the latest one twice. -/
theorem latest_nodup (insertions : List Insertion) : (latest insertions).Nodup :=
  (List.pairwise_pwFilter insertions).imp fun hcell hsame => hcell (congrArg _ hsame)

end Insertions

/-! ## Columns of a range -/

/-- The columns of an index in a range, as they are met on a walk over the range. -/
def narrowColumns (index : RangeIndex) (sheet : Nat) (range : CellRange) :
    List (Nat × Std.TreeMap Nat Nat) :=
  range.columns.filterMap fun column =>
    (index.columns[(sheet, column)]?).map fun rows => (column, rows)

/-- Those of some columns that belong to a range. -/
def wideColumns (columns : List ((Nat × Nat) × Std.TreeMap Nat Nat)) (sheet : Nat)
    (range : CellRange) : List (Nat × Std.TreeMap Nat Nat) :=
  columns.filterMap fun ((on, column), rows) =>
    if on = sheet ∧ range.first.column ≤ column ∧ column ≤ range.last.column then some (column, rows)
    else none

/-- The walk over columns that come in any order: those of the range are sorted first. -/
def sortedWalk (columns : List ((Nat × Nat) × Std.TreeMap Nat Nat)) (sheet : Nat)
    (range : CellRange) : List Nat :=
  ((wideColumns columns sheet range).mergeSort fun left right => left.1 ≤ right.1).flatMap
    fun column => rowsIn range column.2

section Columns

variable {index : RangeIndex} {sheet column : Nat} {range : CellRange} {rows : Std.TreeMap Nat Nat}
  {columns : List ((Nat × Nat) × Std.TreeMap Nat Nat)}

/-- The narrow walk looks at each column of the range in turn and takes the rows of the range from
it. -/
theorem narrow_walk_eq (index : RangeIndex) (sheet : Nat) (range : CellRange) :
    index.narrowWalk sheet range =
      (index.narrowColumns sheet range).flatMap fun column => rowsIn range column.2 := by
  rw [narrowColumns, List.filterMap_eq_flatMap_toList, List.flatMap_assoc, narrowWalk]
  congr 1
  funext column
  cases index.columns[(sheet, column)]? <;> simp

/-- The wide walk looks at all columns, keeps those of the range and takes the rows of the range
from them. -/
theorem wide_walk_eq (index : RangeIndex) (sheet : Nat) (range : CellRange) :
    index.wideWalk sheet range =
      (wideColumns index.columns.toList sheet range).flatMap fun column => rowsIn range column.2 := by
  rw [wideColumns, List.filterMap_eq_flatMap_toList, List.flatMap_assoc, wideWalk]
  refine List.flatMap_congr fun entry _ => ?_
  dsimp only
  split <;> simp

/-- The narrow walk comes by its columns in ascending order. -/
theorem narrow_columns_ascending (index : RangeIndex) (sheet : Nat) (range : CellRange) :
    (index.narrowColumns sheet range).Pairwise fun left right => left.1 < right.1 := by
  refine List.pairwise_filterMap.mpr ((List.pairwise_lt_range' 1).imp ?_)
  intro column later hless left hleft right hright
  obtain ⟨_, -, rfl⟩ := Option.map_eq_some_iff.mp hleft
  obtain ⟨_, -, rfl⟩ := Option.map_eq_some_iff.mp hright
  exact hless

/-- The narrow walk comes by the columns of the range that the index has. -/
theorem mem_narrow_columns_iff : (column, rows) ∈ index.narrowColumns sheet range ↔
    column ∈ range.columns ∧ index.columns[(sheet, column)]? = some rows := by
  simp only [narrowColumns, List.mem_filterMap, Option.map_eq_some_iff, Prod.mk.injEq]
  constructor
  · rintro ⟨_, hcolumn, _, hrows, rfl, rfl⟩
    exact ⟨hcolumn, hrows⟩
  · rintro ⟨hcolumn, hrows⟩
    exact ⟨column, hcolumn, rows, hrows, rfl, rfl⟩

/-- The wide walk keeps the columns that lie in the range. -/
theorem mem_wide_columns_iff : (column, rows) ∈ wideColumns columns sheet range ↔
    column ∈ range.columns ∧ ((sheet, column), rows) ∈ columns := by
  simp only [wideColumns, List.mem_filterMap, Prod.exists, CellRange.mem_columns_iff]
  constructor
  · rintro ⟨on, number, found, hmem, hselect⟩
    split at hselect
    · rename_i hin
      cases hselect
      exact ⟨hin.2, hin.1 ▸ hmem⟩
    · cases hselect
  · rintro ⟨hcolumn, hmem⟩
    exact ⟨sheet, column, rows, hmem, if_pos ⟨rfl, hcolumn⟩⟩

/-- The columns of the index are in ascending order on each sheet. -/
theorem wide_columns_ascending (index : RangeIndex) (sheet : Nat) (range : CellRange) :
    (wideColumns index.columns.toList sheet range).Pairwise fun left right => left.1 < right.1 := by
  refine List.pairwise_filterMap.mpr (Std.TreeMap.ordered_keys_toList.imp ?_)
  rintro ⟨⟨on, column⟩, rows⟩ ⟨⟨other, later⟩, laterRows⟩ horder left hleft right hright
  dsimp only at hleft hright
  obtain ⟨⟨rfl, -⟩, hfirst⟩ := Option.ite_none_right_eq_some.mp hleft
  obtain ⟨⟨rfl, -⟩, hsecond⟩ := Option.ite_none_right_eq_some.mp hright
  cases hfirst
  cases hsecond
  simpa [columnOrder, Nat.compare_eq_lt] using horder

/-- The walk over the columns of the index meets the columns that the walk over the range does. -/
theorem wide_columns_eq (index : RangeIndex) (sheet : Nat) (range : CellRange) :
    wideColumns index.columns.toList sheet range = index.narrowColumns sheet range := by
  have hwide := wide_columns_ascending index sheet range
  have hnarrow := narrow_columns_ascending index sheet range
  have hsame : (wideColumns index.columns.toList sheet range).Perm
      (index.narrowColumns sheet range) := by
    refine (List.perm_ext_iff_of_nodup (hwide.imp ?_) (hnarrow.imp ?_)).mpr ?_
    · exact fun hless heq => Nat.ne_of_lt hless (congrArg _ heq)
    · exact fun hless heq => Nat.ne_of_lt hless (congrArg _ heq)
    · rintro ⟨column, rows⟩
      rw [mem_wide_columns_iff, mem_narrow_columns_iff,
        Std.TreeMap.mem_toList_iff_getElem?_eq_some]
  refine hsame.eq_of_pairwise (fun _ _ _ _ hless hgreater => ?_) hwide hnarrow
  exact absurd hgreater (Nat.lt_asymm hless)

/-- In whatever order the wide walk comes by the columns, its numbers are those of the narrow walk
once they are sorted. -/
theorem sorted_walk_eq (hcolumns : columns.Perm index.columns.toList) (sheet : Nat)
    (range : CellRange) : sortedWalk columns sheet range =
      (index.narrowColumns sheet range).flatMap fun column => rowsIn range column.2 := by
  have hperm : (wideColumns columns sheet range).Perm (index.narrowColumns sheet range) :=
    wide_columns_eq index sheet range ▸ hcolumns.filterMap _
  rw [sortedWalk, merge_sort_eq_of_perm Prod.fst hperm (narrow_columns_ascending _ _ _)]

end Columns

/-! ## Entries of a range -/

/-- The entries of one column in the rows of a range. -/
def columnEntries (sheet : Nat) (range : CellRange) (column : Nat) (rows : Std.TreeMap Nat Nat) :
    List Insertion :=
  rows.toList.filterMap fun (row, number) =>
    if range.first.row ≤ row ∧ row ≤ range.last.row then some ⟨sheet, ⟨row, column⟩, number⟩ else none

/-- The entries of an index in a range, by column and then by row. -/
def entriesIn (index : RangeIndex) (sheet : Nat) (range : CellRange) : List Insertion :=
  (index.narrowColumns sheet range).flatMap fun (column, rows) =>
    columnEntries sheet range column rows

section Entries

variable {index : RangeIndex} {sheet column : Nat} {range : CellRange} {rows : Std.TreeMap Nat Nat}
  {entry : Insertion}

/-- The numbers of the entries in a range are those of the narrow walk. -/
theorem numbers_entries_in (index : RangeIndex) (sheet : Nat) (range : CellRange) :
    (index.entriesIn sheet range).map Insertion.number =
      (index.narrowColumns sheet range).flatMap fun column => rowsIn range column.2 := by
  rw [entriesIn, List.map_flatMap]
  refine List.flatMap_congr fun ⟨column, rows⟩ _ => ?_
  dsimp only
  rw [columnEntries, rowsIn, List.map_filterMap]
  refine List.filterMap_congr fun entry _ => ?_
  dsimp only
  split <;> rfl

/-- The entries of a column are its cells in the rows of the range. -/
theorem mem_column_entries_iff : entry ∈ columnEntries sheet range column rows ↔
    entry.sheet = sheet ∧ entry.position.column = column ∧ entry.position.row ∈ range.rows ∧
      rows[entry.position.row]? = some entry.number := by
  simp only [columnEntries, List.mem_filterMap, Prod.exists, CellRange.mem_rows_iff,
    Std.TreeMap.mem_toList_iff_getElem?_eq_some, Option.ite_none_right_eq_some]
  constructor
  · rintro ⟨row, number, hfound, hrow, hentry⟩
    cases hentry
    exact ⟨rfl, rfl, hrow, hfound⟩
  · rintro ⟨rfl, rfl, hrow, hfound⟩
    exact ⟨_, _, hfound, hrow, rfl⟩

/-- The entries of an index in a range are what it holds there. -/
theorem mem_entries_in_iff : entry ∈ index.entriesIn sheet range ↔
    entry.sheet = sheet ∧ range.contains entry.position = true ∧
      index.get? sheet entry.position = some entry.number := by
  simp only [entriesIn, List.mem_flatMap, Prod.exists, mem_narrow_columns_iff,
    mem_column_entries_iff, CellRange.contains_iff, get_eq_some_iff]
  constructor
  · rintro ⟨column, rows, ⟨hcolumn, hrows⟩, hsheet, rfl, hrow, hfound⟩
    exact ⟨hsheet, ⟨hrow, hcolumn⟩, rows, hrows, hfound⟩
  · rintro ⟨hsheet, ⟨hrow, hcolumn⟩, rows, hrows, hfound⟩
    exact ⟨_, rows, ⟨hcolumn, hrows⟩, hsheet, rfl, hrow, hfound⟩

/-- Entries of a range come by column and then by row. -/
theorem entries_in_by_column (index : RangeIndex) (sheet : Nat) (range : CellRange) :
    (index.entriesIn sheet range).Pairwise fun left right =>
      left.position.ColumnBefore right.position := by
  refine List.pairwise_flatMap.mpr ⟨fun ⟨column, rows⟩ _ => ?_, ?_⟩
  · refine List.pairwise_filterMap.mpr (Std.TreeMap.ordered_keys_toList.imp ?_)
    intro earlier later horder left hleft right hright
    obtain ⟨-, hleft⟩ := Option.ite_none_right_eq_some.mp hleft
    obtain ⟨-, hright⟩ := Option.ite_none_right_eq_some.mp hright
    cases hleft
    cases hright
    exact .inr ⟨rfl, Nat.compare_eq_lt.mp horder⟩
  · refine (narrow_columns_ascending index sheet range).imp ?_
    intro earlier later hless left hleft right hright
    obtain ⟨-, hleft, -⟩ := mem_column_entries_iff.mp hleft
    obtain ⟨-, hright, -⟩ := mem_column_entries_iff.mp hright
    exact .inl (hleft ▸ hright ▸ hless)

/-- Either walk gives the entries of an index in a range. -/
theorem in_range_eq (index : RangeIndex) (sheet : Nat) (range : CellRange) :
    index.inRange sheet range = (index.entriesIn sheet range).map Insertion.number := by
  rw [inRange, wide_walk_eq, narrow_walk_eq, wide_columns_eq, ite_self, numbers_entries_in]

/-- A range query finds what the index holds in the range. -/
theorem mem_in_range_iff {number : Nat} : number ∈ index.inRange sheet range ↔
    ∃ position, range.contains position = true ∧ index.get? sheet position = some number := by
  simp only [in_range_eq, List.mem_map, mem_entries_in_iff]
  constructor
  · rintro ⟨entry, ⟨-, hin, hget⟩, rfl⟩
    exact ⟨entry.position, hin, hget⟩
  · rintro ⟨position, hin, hget⟩
    exact ⟨⟨sheet, position, number⟩, ⟨rfl, hin, hget⟩, rfl⟩

end Entries

/-- An index that some insertions made finds in a range the cells inserted there, each once, by column
and then by row, under the number inserted last. Walking the columns of the range, walking those of
the index, in whatever order these come before they are sorted, and the walk that is chosen give the
same. -/
theorem in_range_of_insertions (insertions : List Insertion) (sheet : Nat) (range : CellRange) :
    let index := ofInsertions insertions
    ∃ found : List Insertion,
      found.Perm ((latest insertions).filter fun insertion =>
        insertion.sheet = sheet ∧ range.contains insertion.position = true) ∧
      found.Pairwise (fun left right => left.position.ColumnBefore right.position) ∧
      index.inRange sheet range = found.map Insertion.number ∧
      index.narrowWalk sheet range = found.map Insertion.number ∧
      index.wideWalk sheet range = found.map Insertion.number ∧
      (∀ columns, columns.Perm index.columns.toList →
        sortedWalk columns sheet range = found.map Insertion.number) ∧
      ((insertions.map Insertion.cell).Nodup → latest insertions = insertions) ∧
      ((insertions.map Insertion.number).Nodup → (index.inRange sheet range).Nodup) := by
  intro index
  have hnumbers := index.numbers_entries_in sheet range
  have hperm : (index.entriesIn sheet range).Perm ((latest insertions).filter fun insertion =>
      insertion.sheet = sheet ∧ range.contains insertion.position = true) := by
    refine (List.perm_ext_iff_of_nodup ?_ ((latest_nodup insertions).filter _)).mpr ?_
    · refine (index.entries_in_by_column sheet range).imp fun hbefore hsame => ?_
      simp [Position.ColumnBefore, hsame] at hbefore
    · rintro ⟨on, position, number⟩
      simp only [mem_entries_in_iff, List.mem_filter, decide_eq_true_eq]
      constructor
      · rintro ⟨rfl, hin, hget⟩
        exact ⟨get_of_insertions_iff.mp hget, rfl, hin⟩
      · rintro ⟨hmem, rfl, hin⟩
        exact ⟨rfl, hin, get_of_insertions_iff.mpr hmem⟩
  refine ⟨index.entriesIn sheet range, hperm, index.entries_in_by_column sheet range,
    index.in_range_eq sheet range, ?_, ?_, fun columns hcolumns => ?_, latest_eq_self,
    fun hdistinct => ?_⟩
  · rw [narrow_walk_eq, hnumbers]
  · rw [wide_walk_eq, wide_columns_eq, hnumbers]
  · rw [sorted_walk_eq hcolumns, hnumbers]
  · rw [in_range_eq, (hperm.map Insertion.number).nodup_iff]
    exact hdistinct.sublist ((List.filter_sublist.trans (latest_sublist insertions)).map _)

end RangeIndex

end Dependency

end Spreadsheet
