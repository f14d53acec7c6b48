import Spreadsheet.Proofs.Dependency.Layout

/-!
# A chain that is rearranged in place

A chain keeps its cells in the order of their registration and a layout beside them. A roster keeps
them in the order of calculation instead: every cell carries its number in the order of registration
and the place it takes itself to have, a table finds the places of cells, and each build sorts the
cells by their numbers and rearranges everything anew. `Roster.Shows` relates a roster to the chain
it stands for. Adding a cell and building preserve that relation, and a chain is shown by one roster
only.
-/

namespace Spreadsheet.Dependency

open Chain
open Formula (FormulaError)

/-- A cell of a roster with what it carries along. -/
structure Record where
  cell : FormulaCell
  /-- The place that the cell takes itself to have. -/
  index : Nat
  /-- The number of the cell in the order of registration. -/
  number : Nat

/-- Formula cells in the order of calculation, with those behind it that have been registered since.
The tables cover the cells that have been put in order. -/
structure Roster where
  records : List Record
  /-- The places of cells by their keys. -/
  positions : Std.ExtTreeMap Nat Nat
  nextNumber : Nat
  references : Array References
  precedents : Array (List Nat)
  dependents : Array (List Nat)
  circular : Array Bool

namespace Roster

/-- A roster without cells. -/
def empty : Roster := ⟨[], ∅, 0, #[], #[], #[], #[]⟩

/-- The place of a cell. -/
def position? (roster : Roster) (id : CellId) : Option Nat := roster.positions[id.key]?

/-- The places that a cell reads. -/
def precedentsOf (roster : Roster) (place : Nat) : List Nat := listed roster.precedents place

/-- The places that read a cell. -/
def dependentsOf (roster : Roster) (place : Nat) : List Nat := listed roster.dependents place

/-- Whether a cell reads itself, directly or by way of others. -/
def isCircular (roster : Roster) (place : Nat) : Bool := (roster.circular[place]?).getD false

/-- Whether a cell calls a function whose result may change although no cell does. -/
def isVolatile (roster : Roster) (place : Nat) : Bool :=
  (roster.references[place]?).any References.isVolatile

/-- Registers a cell and gives its place. A cell that has a place already is refused. -/
def add (roster : Roster) (cell : FormulaCell) : Except FormulaError Nat × Roster :=
  if roster.positions.contains cell.id.key then
    (.error (.contract (.alreadyChained cell.id.render)), roster)
  else
    let place := roster.records.length
    (.ok place, { roster with
      records := roster.records ++ [⟨cell, place, roster.nextNumber⟩]
      positions := roster.positions.insert cell.id.key place
      nextNumber := roster.nextNumber + 1 })

/-- The records with the places at which they stand. -/
def reindex (records : List Record) : List Record :=
  records.zipIdx.map fun (record, place) => { record with index := place }

/-- The places of records by the keys of their cells. -/
def positionsOf (records : List Record) : Std.ExtTreeMap Nat Nat :=
  .ofList (records.zipIdx.map fun (record, place) => (record.cell.id.key, place))

/-- The records in the order of registration. -/
def sorted (roster : Roster) : List Record :=
  roster.records.mergeSort fun left right => left.number ≤ right.number

/-- Puts all cells in calculation order, given what each of them reads. -/
def buildBy (roster : Roster) (scan : FormulaCell → References) : Roster :=
  let layout := Chain.layoutBy scan (roster.sorted.map Record.cell).toArray
  let records := reindex (layout.order.toList.filterMap fun number => roster.sorted[number]?)
  { records
    positions := positionsOf records
    nextNumber := roster.nextNumber
    references := layout.references
    precedents := layout.precedents
    dependents := layout.dependents
    circular := layout.circular }

/-- Puts all cells in calculation order. -/
def build (roster : Roster) (book : Workbook) : Roster :=
  roster.buildBy (FormulaCell.references book)

end Roster

/-- Whether records are those of the cells of a chain, in its order. -/
def Roster.Lists (records : List Record) (chain : Chain) : Prop :=
  ∀ place, records[place]? =
    (chain.cell? place).map fun cell => ⟨cell, place, chain.registration place⟩

/-- Whether a roster shows what a chain shows. -/
structure Roster.Shows (roster : Roster) (chain : Chain) : Prop where
  records : Lists roster.records chain
  positions : ∀ id place, roster.position? id = some place ↔
    ∃ cell, chain.cell? place = some cell ∧ cell.id = id
  nextNumber : roster.nextNumber = chain.size
  references : roster.references = chain.layout.references
  precedents : roster.precedents = chain.layout.precedents
  dependents : roster.dependents = chain.layout.dependents
  circular : roster.circular = chain.layout.circular

namespace Roster

/-- Numbering records anew changes their index only, which becomes their place. -/
theorem get_reindex (records : List Record) (place : Nat) :
    (reindex records)[place]? =
      records[place]?.map fun record => { record with index := place } := by
  simp [reindex, List.getElem?_zipIdx, Function.comp_def]

/-- Different cells have different keys. -/
theorem key_injective : Function.Injective CellId.key := by
  intro left right h
  cases left
  cases right
  exact congrArg CellId.mk h

/-- The places of records are found by their cells, if no two records have one cell. -/
theorem get_positions_of_iff {records : List Record}
    (hdistinct : (records.map fun record => record.cell.id).Nodup) {id : CellId} {place : Nat} :
    (positionsOf records)[id.key]? = some place ↔
      ∃ record, records[place]? = some record ∧ record.cell.id = id := by
  unfold positionsOf
  generalize hentries : (records.zipIdx.map fun (record, place) => (record.cell.id.key, place)) =
    entries
  have hmem : ∀ key place, (key, place) ∈ entries ↔
      ∃ record, records[place]? = some record ∧ record.cell.id.key = key := by
    intro key place
    simp only [← hentries, List.mem_map, Prod.exists, List.mem_zipIdx_iff_getElem?, Prod.mk.injEq]
    constructor
    · intro ⟨record, found, hrecord, hkey, hsame⟩
      exact ⟨record, hsame ▸ hrecord, hkey⟩
    · intro ⟨record, hrecord, hkey⟩
      exact ⟨record, place, hrecord, hkey, rfl⟩
  have hpairs : entries.Pairwise fun left right => ¬ compare left.1 right.1 = .eq := by
    have hkeys : entries.map Prod.fst =
        (records.map fun record => record.cell.id).map CellId.key := by
      refine List.ext_getElem? fun place => ?_
      simp [← hentries, List.getElem?_zipIdx, Function.comp_def]
    have hnodup : (entries.map Prod.fst).Nodup := hkeys ▸ hdistinct.map key_injective
    exact (List.pairwise_map.mp hnodup).imp fun hne hsame => hne (Nat.compare_eq_eq.mp hsame)
  constructor
  · intro hget
    have hkey : id.key ∈ Std.ExtTreeMap.ofList entries compare :=
      Std.ExtTreeMap.mem_iff_isSome_getElem?.mpr (by rw [hget]; rfl)
    obtain ⟨⟨key, found⟩, hentry, rfl⟩ : ∃ entry ∈ entries, entry.1 = id.key := by
      simpa [Std.ExtTreeMap.mem_ofList] using hkey
    have hfound := Std.ExtTreeMap.getElem?_ofList_of_mem (Nat.compare_eq_eq.mpr rfl) hpairs hentry
    obtain rfl : found = place := Option.some.inj (hfound.symm.trans hget)
    obtain ⟨record, hrecord, hsame⟩ := (hmem _ _).mp hentry
    exact ⟨record, hrecord, key_injective hsame⟩
  · intro ⟨record, hrecord, hid⟩
    refine Std.ExtTreeMap.getElem?_ofList_of_mem (Nat.compare_eq_eq.mpr rfl) hpairs ?_
    exact (hmem _ _).mpr ⟨record, hrecord, congrArg CellId.key hid⟩

section Lists

variable {records : List Record} {chain : Chain}

/-- Records that list a chain have its cells in their order. -/
theorem Lists.cells (h : Lists records chain) (hlaid : chain.Laid) :
    records.map Record.cell = chain.cells := by
  refine List.ext_getElem? fun place => ?_
  rw [List.getElem?_map, h, hlaid.get_cells, Option.map_map]
  exact Option.map_id'

/-- No cell is listed twice. -/
theorem Lists.nodup (h : Lists records chain) (hlaid : chain.Laid) (hdistinct : chain.Distinct) :
    (records.map fun record => record.cell.id).Nodup := by
  have hids : (records.map fun record => record.cell.id) = chain.cells.map FormulaCell.id := by
    rw [← h.cells hlaid, List.map_map]
    rfl
  rw [hids]
  exact (hlaid.cells_perm.map FormulaCell.id).nodup_iff.mpr hdistinct

end Lists

end Roster

namespace Roster.Shows

variable {roster : Roster} {chain : Chain}

/-- The empty roster shows the empty chain. -/
theorem of_empty : Roster.empty.Shows .empty := by
  refine ⟨fun place => ?_, fun id place => ?_, rfl, rfl, rfl, rfl, rfl⟩
  · simp [Roster.empty, Chain.cell?, Chain.empty]
  · simp [Roster.empty, Roster.position?, Chain.cell?, Chain.empty]

variable (h : roster.Shows chain) (hlaid : chain.Laid)
include h hlaid

/-- There are as many records as cells in the chain. -/
theorem length_eq : roster.records.length = chain.size := by
  have hlength := congrArg List.length (h.records.cells hlaid)
  rw [List.length_map, hlaid.cells_perm.length_eq] at hlength
  exact hlength.trans Array.length_toList

/-- A roster has a place for the cells that are registered. -/
theorem is_some_position_iff (id : CellId) :
    (roster.position? id).isSome = true ↔ ∃ other ∈ chain.registered.toList, other.id = id := by
  rw [Option.isSome_iff_exists]
  constructor
  · intro ⟨place, hplace⟩
    obtain ⟨cell, hcell, hid⟩ := (h.positions id place).mp hplace
    exact ⟨cell, hlaid.mem_registered_iff.mpr ⟨place, hcell⟩, hid⟩
  · intro ⟨cell, hcell, hid⟩
    obtain ⟨place, hplace⟩ := hlaid.mem_registered_iff.mp hcell
    exact ⟨place, (h.positions id place).mpr ⟨cell, hplace, hid⟩⟩

/-- A cell is known to the roster exactly if it is registered in the chain. -/
theorem contains_iff (id : CellId) :
    roster.positions.contains id.key = true ↔
      ∃ other ∈ chain.registered.toList, other.id = id := by
  rw [Std.ExtTreeMap.contains_eq_isSome_getElem?]
  exact h.is_some_position_iff hlaid id

/-- The numbers of the records are those of the registered cells. -/
theorem numbers_perm : (roster.records.map Record.number).Perm (List.range chain.size) := by
  have hsame : roster.records.map Record.number =
      (List.range chain.size).map chain.registration := by
    refine List.ext_getElem? fun place => ?_
    rw [List.getElem?_map, List.getElem?_map, h.records]
    by_cases hplace : place < chain.size
    · obtain ⟨cell, hcell⟩ := hlaid.exists_cell_iff.mpr hplace
      simp [hcell, hplace]
    · simp [hlaid.cell_eq_none hplace, hplace]
  rw [hsame]
  exact hlaid.perm

/-- Sorting the records by their numbers brings them back into the order of registration. -/
theorem sorted_numbers : roster.sorted.map Record.number = List.range chain.size := by
  have hsorted : (roster.sorted.map Record.number).Pairwise (· ≤ ·) := by
    refine List.pairwise_map.mpr ((List.pairwise_mergeSort ?_ ?_ roster.records).imp ?_)
    · intro first second third hfirst hsecond
      exact decide_eq_true (Nat.le_trans (of_decide_eq_true hfirst) (of_decide_eq_true hsecond))
    · intro first second
      simpa using Nat.le_total first.number second.number
    · exact fun hle => of_decide_eq_true hle
  have hperm : (roster.sorted.map Record.number).Perm (List.range chain.size) :=
    ((List.mergeSort_perm _ _).map _).trans (h.numbers_perm hlaid)
  exact hperm.eq_of_pairwise (fun _ _ _ _ => Nat.le_antisymm) hsorted List.pairwise_le_range

/-- Sorted by their registration, the records stand at the numbers of their cells. -/
theorem get_sorted {number : Nat} {cell : FormulaCell}
    (hcell : chain.registered[number]? = some cell) :
    ∃ index, roster.sorted[number]? = some ⟨cell, index, number⟩ := by
  have hnumber : number < chain.size := (Array.getElem?_eq_some_iff.mp hcell).1
  have hget : (roster.sorted[number]?).map Record.number = some number := by
    rw [← List.getElem?_map, h.sorted_numbers hlaid, List.getElem?_range hnumber]
  obtain ⟨record, hrecord, hsame⟩ := Option.map_eq_some_iff.mp hget
  -- the record stands somewhere, with the cell of its number
  have hmem : record ∈ roster.records :=
    (List.mergeSort_perm _ _).mem_iff.mp (List.mem_of_getElem? hrecord)
  obtain ⟨place, hplace⟩ := List.getElem?_of_mem hmem
  rw [h.records] at hplace
  obtain ⟨found, hfound, rfl⟩ := Option.map_eq_some_iff.mp hplace
  obtain rfl : found = cell := by
    refine Option.some.inj (hfound.symm.trans ?_)
    rw [← hcell, Chain.cell?, show chain.registration place = number from hsame]
  exact ⟨place, hrecord.trans (by rw [← show chain.registration place = number from hsame])⟩

/-- Sorted by their registration, the records have the cells in the order in which
they were added. -/
theorem sorted_cells : roster.sorted.map Record.cell = chain.registered.toList := by
  refine List.ext_getElem? fun number => ?_
  have hget : chain.registered.toList[number]? = chain.registered[number]? := Array.getElem?_toList
  rw [List.getElem?_map, hget]
  cases hcell : chain.registered[number]? with
  | some cell =>
      obtain ⟨index, hrecord⟩ := h.get_sorted hlaid hcell
      rw [hrecord]
      rfl
  | none =>
      have hlength : roster.sorted.length = chain.size := by
        simpa using congrArg List.length (h.sorted_numbers hlaid)
      have hbeyond : roster.sorted.length ≤ number := by
        rw [hlength]
        exact Array.getElem?_eq_none_iff.mp hcell
      rw [List.getElem?_eq_none hbeyond]
      rfl

/-- Building shows what building the chain gives. -/
theorem buildBy (hdistinct : chain.Distinct) (scan : FormulaCell → References) :
    (roster.buildBy scan).Shows (chain.buildBy scan) := by
  have hlayout : Chain.layoutBy scan (roster.sorted.map Record.cell).toArray =
      (chain.buildBy scan).layout := by
    rw [h.sorted_cells hlaid, Array.toArray_toList]
    rfl
  have horder : (chain.buildBy scan).layout.order.toList = orderBy scan chain.registered := rfl
  have hsorted : ∀ number ∈ orderBy scan chain.registered, (roster.sorted[number]?).isSome := by
    intro number hnumber
    have hlt := mem_order_by_iff.mp hnumber
    obtain ⟨index, hrecord⟩ := h.get_sorted hlaid (Array.getElem?_eq_getElem hlt)
    rw [hrecord]
    rfl
  have hrecords : Lists (roster.buildBy scan).records (chain.buildBy scan) := by
    intro place
    show (reindex ((Chain.layoutBy scan
      (roster.sorted.map Record.cell).toArray).order.toList.filterMap
        fun number => roster.sorted[number]?))[place]? = _
    rw [hlayout, horder, get_reindex, get_filter_map hsorted]
    by_cases hplace : place < chain.size
    · obtain ⟨number, hholds⟩ := (exists_holds_iff chain scan).mpr hplace
      have hcell := Array.getElem?_eq_getElem hholds.number_lt
      obtain ⟨index, hrecord⟩ := h.get_sorted hlaid hcell
      rw [hholds.cell, hholds.registration, hcell,
        show (orderBy scan chain.registered)[place]? = some number from hholds, Option.bind_some,
        hrecord]
      rfl
    · have hlength := order_by_length scan chain.registered
      rw [(laid_build chain scan).cell_eq_none hplace,
        List.getElem?_eq_none (hlength ▸ Nat.le_of_not_lt hplace)]
      rfl
  refine ⟨hrecords, ?_, h.nextNumber, ?_, ?_, ?_, ?_⟩
  · intro id place
    refine (get_positions_of_iff
      (hrecords.nodup (laid_build chain scan) hdistinct)).trans ?_
    constructor
    · intro ⟨record, hrecord, hid⟩
      rw [hrecords] at hrecord
      obtain ⟨cell, hcell, rfl⟩ := Option.map_eq_some_iff.mp hrecord
      exact ⟨cell, hcell, hid⟩
    · intro ⟨cell, hcell, hid⟩
      exact ⟨_, (hrecords place).trans (by rw [hcell]; rfl), hid⟩
  · exact congrArg Layout.references hlayout
  · exact congrArg Layout.precedents hlayout
  · exact congrArg Layout.dependents hlayout
  · exact congrArg Layout.circular hlayout

/-- A roster refuses a cell that the chain has, and stays as it is. -/
theorem add_refused {cell : FormulaCell}
    (hknown : ∃ other ∈ chain.registered.toList, other.id = cell.id) :
    roster.add cell = (.error (.contract (.alreadyChained cell.id.render)), roster) :=
  if_pos ((h.contains_iff hlaid _).mpr hknown)

/-- The places of cells after a new cell has been put behind the others. -/
theorem get_insert_iff {cell : FormulaCell}
    (hnew : ∀ other ∈ chain.registered.toList, other.id ≠ cell.id) (id : CellId) (place : Nat) :
    (roster.positions.insert cell.id.key chain.size)[id.key]? = some place ↔
      ∃ found, (chain.push cell).cell? place = some found ∧ found.id = id := by
  rw [hlaid.cell_push, Std.ExtTreeMap.getElem?_insert]
  by_cases hid : cell.id = id
  · obtain rfl := hid
    rw [if_pos (Nat.compare_eq_eq.mpr rfl)]
    constructor
    · intro hplace
      exact ⟨cell, if_pos (Option.some.inj hplace).symm, rfl⟩
    · intro ⟨found, hfound, hsame⟩
      split at hfound
      · rename_i hplace
        rw [hplace]
      · exact absurd hsame (hnew found (mem_registered_of_cell hfound))
  · rw [if_neg fun hsame => hid (key_injective (Nat.compare_eq_eq.mp hsame))]
    refine (h.positions id place).trans ?_
    constructor
    · intro ⟨found, hfound, hsame⟩
      exact ⟨found, by rw [if_neg (Nat.ne_of_lt (hlaid.place_lt hfound)), hfound], hsame⟩
    · intro ⟨found, hfound, hsame⟩
      split at hfound
      · obtain rfl := Option.some.inj hfound
        exact absurd hsame hid
      · exact ⟨found, hfound, hsame⟩

/-- A roster puts a new cell behind the others. -/
theorem add_accepted {cell : FormulaCell}
    (hnew : ∀ other ∈ chain.registered.toList, other.id ≠ cell.id) :
    (roster.add cell).1 = .ok chain.size ∧ (roster.add cell).2.Shows (chain.push cell) := by
  have hfree : ¬ roster.positions.contains cell.id.key = true := by
    rw [h.contains_iff hlaid]
    exact fun ⟨other, hmem, hid⟩ => hnew other hmem hid
  have hlength := h.length_eq hlaid
  have hadd : roster.add cell = (.ok chain.size, { roster with
      records := roster.records ++ [⟨cell, chain.size, roster.nextNumber⟩]
      positions := roster.positions.insert cell.id.key chain.size
      nextNumber := roster.nextNumber + 1 }) := by
    rw [Roster.add, if_neg hfree, hlength]
  have hrecords : Lists (roster.records ++ [⟨cell, chain.size, roster.nextNumber⟩])
      (chain.push cell) := by
    intro place
    rw [hlaid.cell_push]
    rcases Nat.lt_trichotomy place chain.size with hplace | rfl | hplace
    · rw [if_neg (Nat.ne_of_lt hplace), List.getElem?_append_left (by omega)]
      exact h.records place
    · rw [if_pos rfl, List.getElem?_append_right (by omega), hlength, Nat.sub_self]
      show some _ = some _
      rw [h.nextNumber, show (chain.push cell).registration chain.size = chain.size from
        registration_of_le hlaid.order_le]
    · rw [if_neg (Nat.ne_of_gt hplace), hlaid.cell_eq_none (by omega)]
      exact List.getElem?_eq_none (by simp; omega)
  have hnumber : roster.nextNumber + 1 = (chain.push cell).size := by
    rw [h.nextNumber, size_push]
  rw [hadd]
  exact ⟨rfl, hrecords, h.get_insert_iff hlaid hnew, hnumber, h.references, h.precedents,
    h.dependents, h.circular⟩

end Roster.Shows

/-- Rosters that show one chain are the same. -/
theorem Roster.Shows.unique {left right : Roster} {chain : Chain} (hleft : left.Shows chain)
    (hright : right.Shows chain) : left = right := by
  have hrecords : left.records = right.records :=
    List.ext_getElem? fun place => (hleft.records place).trans (hright.records place).symm
  have hpositions : left.positions = right.positions := by
    refine Std.ExtTreeMap.ext_getElem? fun key => Option.ext fun place => ?_
    exact (hleft.positions ⟨key⟩ place).trans (hright.positions ⟨key⟩ place).symm
  have hnext := hleft.nextNumber.trans hright.nextNumber.symm
  have hreferences := hleft.references.trans hright.references.symm
  have hprecedents := hleft.precedents.trans hright.precedents.symm
  have hdependents := hleft.dependents.trans hright.dependents.symm
  have hcircular := hleft.circular.trans hright.circular.symm
  cases left
  cases right
  simp_all

end Spreadsheet.Dependency
