import Spreadsheet.Dependency.Chain
import Spreadsheet.Proofs.Dependency.RangeWalks

/-!
# What the index of cells finds

Whatever is asked of the index of a list of cells is answered by the cells: `get_index_of_iff` says
which numbers it holds, and `mem_targets_iff` what references find in it.
-/

namespace Spreadsheet

namespace Dependency

/-- Whether a formula cell is the cell of a sheet at a position. -/
def FormulaCell.IsAt (cell : FormulaCell) (sheet : Nat) (position : Position) : Prop :=
  cell.id.sheet = sheet ∧ cell.id.position = position

namespace Chain

open RangeIndex (Insertion ofInsertions latest)

/-- The insertions that make the index of some cells. -/
def insertionsOf (cells : List FormulaCell) : List Insertion :=
  cells.zipIdx.map fun (cell, number) => ⟨cell.id.sheet, cell.id.position, number⟩

section Indexed

variable {cells : List FormulaCell} {sheet number : Nat} {position : Position}

/-- The index of some cells is made by inserting them in turn. -/
theorem index_of_eq (cells : List FormulaCell) :
    indexOf cells = ofInsertions (insertionsOf cells) := by
  rw [ofInsertions, insertionsOf, List.foldl_map]
  rfl

/-- A cell is inserted with its place on a sheet and its own number. -/
theorem mem_insertions_of_iff : ⟨sheet, position, number⟩ ∈ insertionsOf cells ↔
    ∃ cell, cells[number]? = some cell ∧ cell.IsAt sheet position := by
  simp only [insertionsOf, List.mem_map, Prod.exists, List.mem_zipIdx_iff_getElem?]
  constructor
  · rintro ⟨cell, place, hcell, hsame⟩
    cases hsame
    exact ⟨cell, hcell, rfl, rfl⟩
  · rintro ⟨cell, hcell, rfl, rfl⟩
    exact ⟨cell, number, hcell, rfl⟩

/-- What the index of cells finds is a cell of the list, under the number of its place there. -/
theorem exists_of_get_index_of (h : (indexOf cells).get? sheet position = some number) :
    ∃ cell, cells[number]? = some cell ∧ cell.IsAt sheet position := by
  rw [index_of_eq, RangeIndex.get_of_insertions_iff] at h
  exact mem_insertions_of_iff.mp ((RangeIndex.latest_sublist _).subset h)

/-- The index of cells finds every cell, if no two cells of the list are the same cell of the
grid. -/
theorem get_index_of_iff (hdistinct : (cells.map FormulaCell.id).Nodup) :
    (indexOf cells).get? sheet position = some number ↔
      ∃ cell, cells[number]? = some cell ∧ cell.IsAt sheet position := by
  have hcells : (insertionsOf cells).map Insertion.cell =
      (cells.map FormulaCell.id).map fun id => (id.sheet, id.position) := by
    conv => rhs; rw [← List.zipIdx_map_fst 0 cells]
    simp only [insertionsOf, List.map_map]
    rfl
  have hplaces : ((insertionsOf cells).map Insertion.cell).Nodup := by
    rw [hcells]
    refine hdistinct.map fun left right hsame => ?_
    obtain ⟨hsheet, hposition⟩ := Prod.mk.inj hsame
    exact CellId.eq_of_place_eq hsheet hposition
  rw [index_of_eq, RangeIndex.get_of_insertions_iff, RangeIndex.latest_eq_self hplaces,
    mem_insertions_of_iff]

end Indexed

/-- Putting numbers in ascending order neither adds nor loses one. -/
theorem mem_ascending_iff {numbers : List Nat} {number : Nat} :
    number ∈ ascending numbers ↔ number ∈ numbers := by
  simp [ascending]

/-- Numbers in ascending order are strictly ascending. -/
theorem ascending_pairwise (numbers : List Nat) : (ascending numbers).Pairwise (· < ·) := by
  have hordered := (Std.TreeSet.ofList numbers compare).ordered_toList
  simpa [ascending, Nat.compare_eq_lt] using hordered

/-- What references read is what the index holds at the cells they read. -/
theorem mem_targets_iff {index : RangeIndex} {references : References} {number : Nat} :
    number ∈ targets index references ↔
      ∃ sheet position, references.reads sheet position = true ∧
        index.get? sheet position = some number := by
  simp only [targets, mem_ascending_iff, List.mem_append, List.mem_filterMap, List.mem_flatMap,
    Prod.exists, RangeIndex.mem_in_range_iff, References.reads, Bool.or_eq_true,
    List.contains_iff_mem, List.any_eq_true, Bool.and_eq_true, beq_iff_eq]
  constructor
  · rintro (⟨sheet, position, hmem, hget⟩ | ⟨sheet, range, hmem, position, hin, hget⟩)
    · exact ⟨sheet, position, Or.inl hmem, hget⟩
    · exact ⟨sheet, position, Or.inr ⟨sheet, range, hmem, rfl, hin⟩, hget⟩
  · rintro ⟨sheet, position, hmem | ⟨on, range, hmem, rfl, hin⟩, hget⟩
    · exact Or.inl ⟨sheet, position, hmem, hget⟩
    · exact Or.inr ⟨on, range, hmem, position, hin, hget⟩

end Chain

end Dependency

end Spreadsheet
