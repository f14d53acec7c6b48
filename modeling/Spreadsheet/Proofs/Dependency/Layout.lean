import Spreadsheet.Proofs.Dependency.CalculationOrder
import Spreadsheet.Proofs.Dependency.RangeIndex

/-!
# The layout of a chain

What `Chain.buildBy` does to a chain, whatever its cells read. Every table of the layout is
described by the numbers that stand at places in `orderBy`. The main theorem, `build_order`, says
that building rearranges the cells that were added, puts the cells on a cycle last in the order of
their registration, and puts every other cell after the cells it reads.
-/

namespace Spreadsheet.Dependency

/-- A table lists nothing for a number beyond its size. -/
theorem listed_of_size_le {table : Array (List Nat)} {number : Nat} (h : table.size ≤ number) :
    listed table number = [] := by
  simp [listed, Array.getElem?_eq_none h]

/-- Mapping a table maps the list of each number. -/
theorem listed_map {α : Type} {table : Array α} {number : Nat} {item : α} (f : α → List Nat)
    (h : table[number]? = some item) : listed (table.map f) number = f item := by
  simp [listed, h]

/-- Looking up items that are all there leaves no gaps. -/
theorem get_filter_map {α β : Type} {f : α → Option β} {items : List α}
    (h : ∀ item ∈ items, (f item).isSome) (place : Nat) :
    (items.filterMap f)[place]? = items[place]?.bind f := by
  induction items generalizing place with
  | nil => rfl
  | cons item rest ih =>
      obtain ⟨hitem, hrest⟩ := List.forall_mem_cons.mp h
      obtain ⟨found, hfound⟩ := Option.isSome_iff_exists.mp hitem
      rw [List.filterMap_cons_some hfound]
      cases place with
      | zero => exact hfound.symm
      | succ place => exact ih hrest place

namespace Chain

section Tables

variable {related : Array (List Nat)}

/-- Adding a place to the lists of some numbers. -/
private theorem listed_foldl_modify (place : Nat) (others : List Nat) (table : Array (List Nat))
    {number other : Nat} (hothers : ∀ other ∈ others, other < table.size) :
    number ∈ listed (others.foldl (fun found other => found.modify other (place :: ·)) table)
        other ↔
      (number = place ∧ other ∈ others) ∨ number ∈ listed table other := by
  induction others generalizing table with
  | nil => simp
  | cons first rest ih =>
      rw [List.foldl_cons, ih _ fun other hmem => by simpa using hothers other (by simp [hmem])]
      have hfirst := hothers first (by simp)
      by_cases heq : first = other
      · subst heq
        simp only [listed, Array.getElem?_modify, hfirst, Array.getElem?_eq_getElem, if_true,
          Option.map_some, Option.getD_some, List.mem_cons, true_or, and_true]
        tauto
      · simp [listed, Array.getElem?_modify, heq, Ne.symm heq]

/-- Adding a place to the lists of some numbers leaves the table as long as it is. -/
private theorem size_foldl_modify (place : Nat) (others : List Nat) (table : Array (List Nat)) :
    (others.foldl (fun table other => table.modify other (place :: ·)) table).size =
      table.size := by
  induction others generalizing table with
  | nil => rfl
  | cons first rest ih => simp [ih]

/-- The converse of a relation relates the same pairs. -/
theorem mem_listed_converse_iff
    (hrelated : ∀ place, ∀ other ∈ listed related place, other < related.size)
    {place other : Nat} :
    place ∈ listed (converse related) other ↔ other ∈ listed related place := by
  -- by induction on the places that have been entered, the last ones first
  have hall : ∀ places : List Nat,
      let table := places.foldr (fun place table =>
        (listed related place).foldl (fun table other => table.modify other (place :: ·)) table)
        (Array.replicate related.size [])
      table.size = related.size ∧
        (place ∈ listed table other ↔ place ∈ places ∧ other ∈ listed related place) := by
    intro places
    induction places with
    | nil => by_cases hother : other < related.size <;> simp [listed, hother]
    | cons first rest ih =>
        obtain ⟨hsize, hmem⟩ := ih
        refine ⟨by rw [List.foldr_cons, size_foldl_modify, hsize], ?_⟩
        rw [List.foldr_cons, listed_foldl_modify _ _ _ (by rw [hsize]; exact hrelated first), hmem]
        by_cases heq : place = first <;> simp [heq]
  rw [converse, (hall _).2, List.mem_range]
  refine and_iff_right_of_imp fun h => ?_
  by_contra hplace
  simp [listed_of_size_le (Nat.le_of_not_lt hplace)] at h

end Tables

section Order

variable {scan : FormulaCell → References} {cells : Array FormulaCell}

/-- For each cell the cells it reads, all by their number in the order of registration. -/
def readTable (scan : FormulaCell → References) (cells : Array FormulaCell) : Array (List Nat) :=
  (cells.map scan).map (targets (indexOf cells.toList))

/-- The walk through registered cells along what they read. -/
def searchBy (scan : FormulaCell → References) (cells : Array FormulaCell) : Search cells.size :=
  .run (listed (readTable scan cells)) cells.size

/-- The order of calculation of registered cells, by their numbers. -/
def orderBy (scan : FormulaCell → References) (cells : Array FormulaCell) : List Nat :=
  calculationOrder (searchBy scan cells).postorder (searchBy scan cells).isCircular cells.size

/-- There is one list of reads for each cell. -/
theorem read_table_size : (readTable scan cells).size = cells.size := by simp [readTable]

/-- The reads listed for a cell are the cells that its references lead to. -/
theorem listed_read_table {number : Nat} {cell : FormulaCell} (h : cells[number]? = some cell) :
    listed (readTable scan cells) number = targets (indexOf cells.toList) (scan cell) :=
  listed_map _ (by simp [h])

/-- Cells read registered cells only. -/
theorem read_table_lt {number target : Nat} (h : target ∈ listed (readTable scan cells) number) :
    target < cells.size := by
  cases hcell : cells[number]? with
  | none =>
      rw [listed_of_size_le (by simpa [read_table_size] using hcell)] at h
      cases h
  | some cell =>
      rw [listed_read_table hcell, mem_targets_iff] at h
      obtain ⟨sheet, position, -, hget⟩ := h
      obtain ⟨read, hread, -⟩ := exists_of_get_index_of hget
      simpa using (List.getElem?_eq_some_iff.mp hread).1

/-- A cell is on a cycle if following what cells read leads back to it. -/
theorem is_number_circular_iff {number : Nat} (h : number < cells.size) :
    (searchBy scan cells).isCircular number = true ↔
      LeadsBack (listed (readTable scan cells)) number :=
  Search.is_circular_run_iff (fun _ _ _ => read_table_lt) h

variable (scan cells)

/-- The search finishes every number once. -/
theorem search_by_perm : (searchBy scan cells).postorder.Perm (List.range cells.size) :=
  Search.postorder_run_perm fun _ _ _ => read_table_lt

/-- The order has every number once. -/
theorem order_by_perm : (orderBy scan cells).Perm (List.range cells.size) :=
  calculation_order_perm (search_by_perm scan cells)

/-- The order is as long as there are cells. -/
theorem order_by_length : (orderBy scan cells).length = cells.size := by
  simpa using (order_by_perm scan cells).length_eq

variable {scan cells}

/-- The order has exactly the numbers of the cells. -/
theorem mem_order_by_iff {number : Nat} : number ∈ orderBy scan cells ↔ number < cells.size := by
  rw [(order_by_perm scan cells).mem_iff, List.mem_range]

end Order

section Built

variable {chain : Chain} {scan : FormulaCell → References} {place number : Nat}

/-- Which number a place of a built chain holds. -/
def Holds (chain : Chain) (scan : FormulaCell → References) (place number : Nat) : Prop :=
  (orderBy scan chain.registered)[place]? = some number

/-- A place holds a number exactly if it is a place of the chain. -/
theorem exists_holds_iff (chain : Chain) (scan : FormulaCell → References) {place : Nat} :
    (∃ number, Holds chain scan place number) ↔ place < chain.size := by
  simp [Holds, List.getElem?_eq_some_iff, order_by_length, Chain.size]

/-- The number at a place is that of a cell. -/
theorem Holds.number_lt (h : Holds chain scan place number) : number < chain.size :=
  mem_order_by_iff.mp (List.mem_of_getElem? h)

/-- Only places of the chain hold a number. -/
theorem Holds.place_lt (h : Holds chain scan place number) : place < chain.size :=
  (exists_holds_iff chain scan).mp ⟨number, h⟩

/-- Building a chain neither adds cells to it nor takes any from it. -/
@[simp] theorem size_build_by : (chain.buildBy scan).size = chain.size := rfl

/-- The registration of a place is the number that it holds. -/
theorem Holds.registration (h : Holds chain scan place number) :
    (chain.buildBy scan).registration place = number := by
  have horder : (chain.buildBy scan).layout.order[place]? = some number := by
    exact (List.getElem?_toArray ..).trans h
  simp [Chain.registration, horder]

/-- The cell at a place is the one registered under its number. -/
theorem Holds.cell (h : Holds chain scan place number) :
    (chain.buildBy scan).cell? place = chain.registered[number]? := by
  rw [cell?, h.registration]
  rfl

/-- Every cell knows the place it stands at. -/
theorem Holds.index (h : Holds chain scan place number) :
    (chain.buildBy scan).indexOfNumber number = place := by
  have hplace : (chain.buildBy scan).layout.placeOf[number]? = some place :=
    (get_inverse_iff (order_by_perm scan chain.registered)).mpr h
  simp [indexOfNumber, hplace]

/-- A place is circular exactly if the search marks its number. -/
theorem Holds.is_circular (h : Holds chain scan place number) :
    (chain.buildBy scan).isCircular place = (searchBy scan chain.registered).isCircular number := by
  have hflag : (chain.buildBy scan).layout.circular[place]? =
      some ((searchBy scan chain.registered).isCircular number) := by
    show ((orderBy scan chain.registered).toArray.map _)[place]? = _
    rw [Array.getElem?_map, List.getElem?_toArray, h]
    rfl
  simp [isCircular, hflag]

/-- The references kept for a place are those of its cell. -/
theorem Holds.references (h : Holds chain scan place number) {cell : FormulaCell}
    (hcell : chain.registered[number]? = some cell) :
    (chain.buildBy scan).layout.references[place]? = some (scan cell) := by
  show ((orderBy scan chain.registered).toArray.map _)[place]? = _
  rw [Array.getElem?_map, List.getElem?_toArray, h]
  simp [hcell]

/-- The precedents of a place are the places that hold what its number reads. -/
theorem Holds.mem_precedents_iff (h : Holds chain scan place number) {target : Nat} :
    target ∈ (chain.buildBy scan).precedentsOf place ↔
      ∃ read ∈ listed (readTable scan chain.registered) number, Holds chain scan target read := by
  have horder : (orderBy scan chain.registered).toArray[place]? = some number := by
    rw [List.getElem?_toArray, h]
  show target ∈ listed ((orderBy scan chain.registered).toArray.map fun number =>
    ascending ((listed (readTable scan chain.registered) number).filterMap fun read =>
      (inverse (orderBy scan chain.registered) chain.registered.size)[read]?)) place ↔ _
  rw [listed_map _ horder, mem_ascending_iff, List.mem_filterMap]
  simp only [get_inverse_iff (order_by_perm scan chain.registered)]
  rfl

/-- There is one list of precedents for each place. -/
theorem precedents_size_build : (chain.buildBy scan).layout.precedents.size = chain.size := by
  show ((orderBy scan chain.registered).toArray.map _).size = _
  rw [Array.size_map, List.size_toArray, order_by_length]
  rfl

/-- Only places of the chain read, and only they are read. -/
theorem exists_holds_of_mem_precedents {target : Nat}
    (h : target ∈ (chain.buildBy scan).precedentsOf place) :
    ∃ number, Holds chain scan place number ∧
      ∃ read ∈ listed (readTable scan chain.registered) number, Holds chain scan target read := by
  by_cases hplace : place < chain.size
  · obtain ⟨number, hholds⟩ := (exists_holds_iff chain scan).mpr hplace
    exact ⟨number, hholds, hholds.mem_precedents_iff.mp h⟩
  · rw [precedentsOf, listed_of_size_le (by rw [precedents_size_build]; omega)] at h
    cases h

/-- A cell has dependents where it stands among their precedents. -/
theorem mem_dependents_build_iff {other : Nat} :
    place ∈ (chain.buildBy scan).dependentsOf other ↔
      other ∈ (chain.buildBy scan).precedentsOf place := by
  have hlt : ∀ place, ∀ other ∈ (chain.buildBy scan).precedentsOf place,
      other < (chain.buildBy scan).layout.precedents.size := by
    intro place other hmem
    obtain ⟨_, -, _, -, hother⟩ := exists_holds_of_mem_precedents hmem
    rw [precedents_size_build]
    exact hother.place_lt
  exact mem_listed_converse_iff hlt

/-- A cell on no cycle comes after those among the cells it reads that are on no cycle either. -/
theorem lt_of_mem_precedents {target : Nat}
    (htarget : target ∈ (chain.buildBy scan).precedentsOf place)
    (hplaceFree : (chain.buildBy scan).isCircular place = false)
    (htargetFree : (chain.buildBy scan).isCircular target = false) : target < place := by
  obtain ⟨number, hnumber, read, hmem, hread⟩ := exists_holds_of_mem_precedents htarget
  rw [hnumber.is_circular] at hplaceFree
  rw [hread.is_circular] at htargetFree
  exact neighbours_first (search_by_perm scan _)
    (Search.postorder_run_settled fun _ _ _ => read_table_lt) (fun _ => is_number_circular_iff)
    hnumber hread hmem hplaceFree htargetFree

/-- Read place by place, the registrations of a built chain are its order. -/
theorem map_registration_build :
    (List.range chain.size).map (chain.buildBy scan).registration =
      orderBy scan chain.registered := by
  refine List.ext_getElem? fun place => ?_
  by_cases hplace : place < chain.size
  · obtain ⟨number, hholds⟩ := (exists_holds_iff chain scan).mpr hplace
    rw [List.getElem?_map, List.getElem?_range hplace, Option.map_some, hholds.registration]
    exact hholds.symm
  · rw [List.getElem?_eq_none (by simpa using hplace),
      List.getElem?_eq_none (by rw [order_by_length]; simpa [Chain.size] using hplace)]

/-- Looking up all numbers in turn gives the whole array. -/
private theorem filter_map_range_get (cells : Array FormulaCell) :
    (List.range cells.size).filterMap (fun number => cells[number]?) = cells.toList := by
  refine List.ext_getElem? fun place => ?_
  rw [get_filter_map (by simp), Array.getElem?_toList]
  by_cases hplace : place < cells.size <;> simp [hplace]

end Built

section Laid

variable {chain : Chain} {place : Nat} {cell : FormulaCell}

/-- Whether a chain has its cells at the places below its size, each at one, and each cell knows
its place. -/
structure Laid (chain : Chain) : Prop where
  order_le : chain.layout.order.size ≤ chain.size
  placeOf_le : chain.layout.placeOf.size ≤ chain.size
  perm : ((List.range chain.size).map chain.registration).Perm (List.range chain.size)
  index : ∀ place < chain.size, chain.indexOfNumber (chain.registration place) = place

/-- The empty chain is laid out. -/
theorem laid_empty : Laid .empty :=
  ⟨Nat.le_refl _, Nat.le_refl _, .refl _, nofun⟩

/-- Building a chain lays it out. -/
theorem laid_build (chain : Chain) (scan : FormulaCell → References) :
    (chain.buildBy scan).Laid where
  order_le := by
    show (orderBy scan chain.registered).toArray.size ≤ _
    rw [List.size_toArray, order_by_length]
    exact Nat.le_refl _
  placeOf_le := by
    show (inverse (orderBy scan chain.registered) chain.registered.size).size ≤ _
    rw [size_inverse]
    exact Nat.le_refl _
  perm := by
    rw [size_build_by, map_registration_build]
    exact order_by_perm scan chain.registered
  index place hplace := by
    obtain ⟨number, hholds⟩ := (exists_holds_iff chain scan).mpr hplace
    rw [hholds.registration, hholds.index]

/-- The chain with a cell behind the others. -/
def push (chain : Chain) (cell : FormulaCell) : Chain :=
  { chain with registered := chain.registered.push cell }

/-- A cell put behind the others makes a chain one longer. -/
@[simp] theorem size_push : (chain.push cell).size = chain.size + 1 := by
  simp [push, size]

/-- A place beyond the order holds its own number. -/
theorem registration_of_le (h : chain.layout.order.size ≤ place) :
    chain.registration place = place := by
  rw [registration, Array.getElem?_eq_none h, Option.getD_none]

/-- Putting a cell behind the others leaves a chain laid out. -/
theorem Laid.push (h : chain.Laid) (cell : FormulaCell) : (chain.push cell).Laid where
  order_le := by
    rw [size_push]
    exact Nat.le_succ_of_le h.order_le
  placeOf_le := by
    rw [size_push]
    exact Nat.le_succ_of_le h.placeOf_le
  perm := by
    rw [size_push, List.range_succ, List.map_append]
    refine h.perm.append ?_
    rw [List.map_singleton, show (chain.push cell).registration chain.size = chain.size from
      registration_of_le h.order_le]
  index place hplace := by
    show chain.indexOfNumber (chain.registration place) = place
    rw [size_push] at hplace
    rcases Nat.lt_succ_iff_lt_or_eq.mp hplace with hbefore | rfl
    · exact h.index place hbefore
    · rw [registration_of_le h.order_le, indexOfNumber, Array.getElem?_eq_none h.placeOf_le,
        Option.getD_none]

/-- In a chain that is laid out, each place holds the number of a cell. -/
theorem Laid.registration_lt (h : chain.Laid) (hplace : place < chain.size) :
    chain.registration place < chain.size := by
  have hmem : chain.registration place ∈ (List.range chain.size).map chain.registration :=
    List.mem_map.mpr ⟨place, List.mem_range.mpr hplace, rfl⟩
  exact List.mem_range.mp (h.perm.mem_iff.mp hmem)

/-- In a chain that is laid out, a cell stands at a place of the chain. -/
theorem Laid.place_lt (h : chain.Laid) (hcell : chain.cell? place = some cell) :
    place < chain.size := by
  obtain ⟨hlt, -⟩ := Array.getElem?_eq_some_iff.mp hcell
  by_contra hplace
  rw [registration_of_le (Nat.le_trans h.order_le (Nat.le_of_not_lt hplace))] at hlt
  exact hplace hlt

/-- A chain has a cell at every place below its size, and none beyond. -/
theorem Laid.exists_cell_iff (h : chain.Laid) :
    (∃ cell, chain.cell? place = some cell) ↔ place < chain.size := by
  refine ⟨fun ⟨cell, hcell⟩ => h.place_lt hcell, fun hplace => ?_⟩
  exact ⟨_, Array.getElem?_eq_getElem (h.registration_lt hplace)⟩

/-- In a chain that is laid out, no cell stands beyond its size. -/
theorem Laid.cell_eq_none (h : chain.Laid) (hplace : ¬ place < chain.size) :
    chain.cell? place = none := by
  refine Option.eq_none_iff_forall_ne_some.mpr fun cell hcell => ?_
  exact hplace (h.place_lt hcell)

/-- The cells of a chain stand in the list of its cells at their places. -/
theorem Laid.get_cells (h : chain.Laid) (place : Nat) :
    chain.cells[place]? = chain.cell? place := by
  have hall : ∀ place ∈ List.range chain.size, (chain.cell? place).isSome := by
    intro place hplace
    exact Option.isSome_iff_exists.mpr (h.exists_cell_iff.mpr (List.mem_range.mp hplace))
  rw [cells, get_filter_map hall]
  by_cases hplace : place < chain.size
  · rw [List.getElem?_range hplace, Option.bind_some]
  · rw [h.cell_eq_none hplace, List.getElem?_eq_none (by simpa using hplace), Option.bind_none]

/-- The cells at the places are the registered ones. -/
theorem Laid.cells_perm (h : chain.Laid) : chain.cells.Perm chain.registered.toList := by
  calc
    (List.range chain.size).filterMap chain.cell?
      |>.Perm ((List.range chain.size).map chain.registration
        |>.filterMap fun number => chain.registered[number]?) := by
        rw [List.filterMap_map]
        rfl
    _ |>.Perm ((List.range chain.size).filterMap fun number => chain.registered[number]?) :=
        h.perm.filterMap _
    _ |>.Perm chain.registered.toList := by rw [Chain.size, filter_map_range_get]

/-- Adding a cell puts it at a place of its own, behind the others. -/
theorem Laid.cell_push (h : chain.Laid) (cell : FormulaCell) (place : Nat) :
    (chain.push cell).cell? place =
      if place = chain.size then some cell else chain.cell? place := by
  show (chain.registered.push cell)[chain.registration place]? = _
  have hle := h.order_le
  rcases Nat.lt_trichotomy place chain.size with hplace | rfl | hplace
  · have hnumber : chain.registration place < chain.registered.size := h.registration_lt hplace
    rw [if_neg (Nat.ne_of_lt hplace), Array.getElem?_push, if_neg (Nat.ne_of_lt hnumber)]
    rfl
  · rw [if_pos rfl, registration_of_le hle]
    exact Array.getElem?_push_size
  · have hnone : chain.cell? place = none := h.cell_eq_none (by omega)
    rw [if_neg (Nat.ne_of_gt hplace), hnone, registration_of_le (by omega)]
    exact Array.getElem?_eq_none (by simpa [Chain.size] using Nat.succ_le_of_lt hplace)

/-- A cell at a place is one that was registered. -/
theorem mem_registered_of_cell (h : chain.cell? place = some cell) :
    cell ∈ chain.registered.toList := by
  obtain ⟨hlt, rfl⟩ := Array.getElem?_eq_some_iff.mp h
  simp

/-- Every registered cell has a place. -/
theorem Laid.mem_registered_iff (h : chain.Laid) :
    cell ∈ chain.registered.toList ↔ ∃ place, chain.cell? place = some cell := by
  refine ⟨fun hcell => ?_, fun ⟨place, hplace⟩ => mem_registered_of_cell hplace⟩
  obtain ⟨place, -, hplace⟩ := List.mem_filterMap.mp (h.cells_perm.mem_iff.mpr hcell)
  exact ⟨place, hplace⟩

end Laid

section Rearranged

variable {chain : Chain} {scan : FormulaCell → References} {place : Nat}

/-- Building rearranges the cells of a chain. -/
theorem cells_build_perm : (chain.buildBy scan).cells.Perm chain.registered.toList :=
  (laid_build chain scan).cells_perm

/-- Every registered cell has a place in the built chain. -/
theorem exists_place_of_mem {cell : FormulaCell} (h : cell ∈ chain.registered.toList) :
    ∃ place, (chain.buildBy scan).cell? place = some cell :=
  (laid_build chain scan).mem_registered_iff.mp h

/-- A cell of a built chain stands at a place of the chain. -/
theorem place_lt_of_cell {cell : FormulaCell}
    (h : (chain.buildBy scan).cell? place = some cell) : place < chain.size :=
  (laid_build chain scan).place_lt h

/-- The cells of a built chain, as a list, stand at their places. -/
theorem get_cells_build (place : Nat) :
    (chain.buildBy scan).cells[place]? = (chain.buildBy scan).cell? place :=
  (laid_build chain scan).get_cells place

end Rearranged

section Distinct

variable {chain : Chain} {scan : FormulaCell → References}

/-- Whether no two registered cells are the same cell of the grid. -/
def Distinct (chain : Chain) : Prop := (chain.registered.toList.map FormulaCell.id).Nodup

/-- A chain finds every cell at its place. -/
theorem Laid.place_iff (h : chain.Laid) (hdistinct : chain.Distinct) {id : CellId} {place : Nat} :
    chain.place? id = some place ↔ ∃ cell, chain.cell? place = some cell ∧ cell.id = id := by
  simp only [place?, List.findIdx?_eq_some_iff_getElem, ← h.get_cells, beq_iff_eq,
    List.getElem?_eq_some_iff]
  constructor
  · rintro ⟨hplace, hid, -⟩
    exact ⟨_, ⟨hplace, rfl⟩, hid⟩
  · rintro ⟨cell, ⟨hplace, rfl⟩, hid⟩
    refine ⟨hplace, hid, fun earlier hearlier hother => ?_⟩
    have hnodup : (chain.cells.map FormulaCell.id).Nodup :=
      (h.cells_perm.map FormulaCell.id).nodup_iff.mpr hdistinct
    have hsame : earlier = place := by
      refine (List.getElem?_inj (by simpa using Nat.lt_trans hearlier hplace) hnodup).mp ?_
      simp [hplace, Nat.lt_trans hearlier hplace, hother, hid]
    omega

/-- With distinct cells, a place is found for a cell exactly if the cell stands there. -/
theorem Distinct.place_iff (h : chain.Distinct) {id : CellId} {place : Nat} :
    (chain.buildBy scan).place? id = some place ↔
      ∃ cell, (chain.buildBy scan).cell? place = some cell ∧ cell.id = id :=
  (laid_build chain scan).place_iff h

/-- A cell stands at one place. -/
theorem Distinct.place_unique (h : chain.Distinct) {left right : Nat} {first second : FormulaCell}
    (hfirst : (chain.buildBy scan).cell? left = some first)
    (hsecond : (chain.buildBy scan).cell? right = some second) (hid : first.id = second.id) :
    left = right := by
  have hleft := h.place_iff.mpr ⟨first, hfirst, hid⟩
  have hright := h.place_iff.mpr ⟨second, hsecond, rfl⟩
  exact Option.some.inj (hleft.symm.trans hright)

/-- Which cells a cell reads, in terms of what was scanned. -/
theorem Distinct.mem_precedents_iff (h : chain.Distinct) {place target : Nat} :
    target ∈ (chain.buildBy scan).precedentsOf place ↔
      ∃ cell read, (chain.buildBy scan).cell? place = some cell ∧
        (chain.buildBy scan).cell? target = some read ∧
        (scan cell).reads read.id.sheet read.id.position = true := by
  constructor
  · intro htarget
    obtain ⟨number, hnumber, other, hother, hread⟩ := exists_holds_of_mem_precedents htarget
    obtain ⟨cell, hcell⟩ : ∃ cell, chain.registered[number]? = some cell :=
      ⟨_, Array.getElem?_eq_getElem hnumber.number_lt⟩
    rw [listed_read_table hcell, mem_targets_iff] at hother
    obtain ⟨sheet, position, hreads, hget⟩ := hother
    obtain ⟨found, hfound, rfl, rfl⟩ := exists_of_get_index_of hget
    refine ⟨cell, found, hnumber.cell.trans hcell, hread.cell.trans ?_, hreads⟩
    simpa using hfound
  · rintro ⟨cell, read, hcell, hread, hreads⟩
    obtain ⟨number, hnumber⟩ := (exists_holds_iff chain scan).mpr (place_lt_of_cell hcell)
    obtain ⟨other, hother⟩ := (exists_holds_iff chain scan).mpr (place_lt_of_cell hread)
    rw [hnumber.cell] at hcell
    rw [hother.cell] at hread
    refine hnumber.mem_precedents_iff.mpr ⟨other, ?_, hother⟩
    rw [listed_read_table hcell, mem_targets_iff]
    exact ⟨_, _, hreads, (get_index_of_iff h).mpr ⟨read, by simpa using hread, rfl, rfl⟩⟩

end Distinct

section Grown

variable {added : List FormulaCell} {chain : Chain} {scan : FormulaCell → References}

/-- The chains that hold some added cells, whenever and however often they have been put in order
on the way. -/
inductive Grown : (added : List FormulaCell) → Chain → Prop
  | empty : Grown [] .empty
  | add {added : List FormulaCell} {chain grown : Chain} {cell : FormulaCell} {place : Nat}
      (hgrown : Grown added chain) (hadd : chain.add cell = .ok (place, grown)) :
      Grown (added ++ [cell]) grown
  | build {added : List FormulaCell} {chain : Chain} (scan : FormulaCell → References)
      (hgrown : Grown added chain) : Grown added (chain.buildBy scan)

/-- A cell is added exactly if no other one has its place on a sheet, and it is then put behind the
others. -/
theorem add_eq_ok_iff {chain grown : Chain} {cell : FormulaCell} {place : Nat} :
    chain.add cell = .ok (place, grown) ↔
      (∀ other ∈ chain.registered.toList, other.id ≠ cell.id) ∧ place = chain.size ∧
        grown = { chain with registered := chain.registered.push cell } := by
  have hany : (chain.registered.any fun other => other.id == cell.id) = true ↔
      ∃ other ∈ chain.registered.toList, other.id = cell.id := by
    rw [← Array.any_toList, List.any_eq_true]
    simp
  unfold Chain.add
  split
  · obtain ⟨other, hmem, hid⟩ := hany.mp ‹_›
    simp only [reduceCtorEq, false_iff]
    exact fun h => h.1 other hmem hid
  · have hnew : ∀ other ∈ chain.registered.toList, other.id ≠ cell.id :=
      fun other hmem hid => ‹¬_› (hany.mpr ⟨other, hmem, hid⟩)
    simp only [Except.ok.injEq, Prod.mk.injEq]
    constructor
    · rintro ⟨rfl, rfl⟩
      exact ⟨hnew, rfl, rfl⟩
    · rintro ⟨-, rfl, rfl⟩
      exact ⟨rfl, rfl⟩

/-- Different cells can be added one after the other. -/
theorem grown_of_nodup {cells : List FormulaCell} (h : (cells.map FormulaCell.id).Nodup) :
    Grown cells ⟨cells.toArray, .empty⟩ := by
  induction cells using List.reverseRecOn with
  | nil => exact .empty
  | append_singleton before cell ih =>
      rw [List.map_append, List.nodup_append] at h
      refine .add (ih h.1) (add_eq_ok_iff.mpr ⟨fun other hmem => ?_, rfl, ?_⟩)
      · exact h.2.2 _ (List.mem_map_of_mem hmem) _ (by simp)
      · simp

/-- Added cells are registered in their order, and no two of them are the same cell. -/
theorem Grown.registered (h : Grown added chain) :
    chain.registered.toList = added ∧ chain.Distinct := by
  induction h with
  | empty => exact ⟨rfl, List.nodup_nil⟩
  | add hgrown hadd ih =>
      obtain ⟨hnew, -, rfl⟩ := add_eq_ok_iff.mp hadd
      obtain ⟨rfl, hdistinct⟩ := ih
      refine ⟨by simp, ?_⟩
      simpa [Distinct, List.nodup_append] using ⟨hdistinct, by simpa using hnew⟩
  | build scan hgrown ih => exact ih

/-- The numbers of the cells on a cycle, by their places. -/
theorem map_registration_circular :
    (chain.buildBy scan).circularPlaces.map (chain.buildBy scan).registration =
      (List.range chain.size).filter ((searchBy scan chain.registered).isCircular) := by
  have hcircular : (chain.buildBy scan).circularPlaces = (List.range chain.size).filter
      ((searchBy scan chain.registered).isCircular ∘ (chain.buildBy scan).registration) := by
    refine List.filter_congr fun place hplace => ?_
    obtain ⟨number, hholds⟩ := (exists_holds_iff chain scan).mpr
      (List.mem_range.mp hplace)
    rw [hholds.is_circular, Function.comp_apply, hholds.registration]
  rw [hcircular, ← List.filter_map, map_registration_build, orderBy, calculationOrder]
  simp [List.filter_filter, Chain.size]

/-- After cells have been added one by one and put in order, none of them is lost and none stands
twice. Every cell knows its place and is found there. Cells on a cycle come last, in the order in
which they were added, and every other cell comes after the cells it reads, those on a cycle
excepted. -/
theorem build_order (hgrown : Grown added chain) (scan : FormulaCell → References) :
    let built := chain.buildBy scan
    built.cells.Perm added ∧
    (∀ (place : Nat) (cell : FormulaCell), built.cells[place]? = some cell →
      built.cell? place = some cell ∧ built.indexOfNumber (built.registration place) = place ∧
        built.place? cell.id = some place) ∧
    (∀ left right, left < built.size → right < built.size →
      built.isCircular left = false → built.isCircular right = true → left < right) ∧
    (built.circularPlaces.filterMap built.cell?).Sublist added ∧
    (∀ place target, built.isCircular place = false → built.isCircular target = false →
      target ∈ built.precedentsOf place → target < place) := by
  intro built
  obtain ⟨rfl, hdistinct⟩ := hgrown.registered
  refine ⟨cells_build_perm, ?_, ?_, ?_, ?_⟩
  · intro place cell hcell
    rw [get_cells_build] at hcell
    obtain ⟨number, hholds⟩ := (exists_holds_iff chain scan).mpr (place_lt_of_cell hcell)
    refine ⟨hcell, ?_, hdistinct.place_iff.mpr ⟨cell, hcell, rfl⟩⟩
    rw [hholds.registration, hholds.index]
  · intro left right hleft hright hleftFree hrightCircular
    obtain ⟨first, hfirst⟩ := (exists_holds_iff chain scan).mpr hleft
    obtain ⟨second, hsecond⟩ := (exists_holds_iff chain scan).mpr hright
    -- the length of the part without cycles lies between the two places
    rw [hfirst.is_circular, ← Bool.not_eq_true, circular_of_calculation_order hfirst] at hleftFree
    rw [hsecond.is_circular, circular_of_calculation_order hsecond] at hrightCircular
    omega
  · calc
      built.circularPlaces.filterMap built.cell?
        = ((List.range chain.size).filter ((searchBy scan chain.registered).isCircular)).filterMap
            fun number => chain.registered[number]? := by
          rw [← map_registration_circular, List.filterMap_map]
          rfl
      _ |>.Sublist ((List.range chain.size).filterMap fun number => chain.registered[number]?) :=
          List.filter_sublist.filterMap _
      _ = chain.registered.toList := filter_map_range_get chain.registered
  · exact fun place target hplace htarget hmem => lt_of_mem_precedents hmem hplace htarget

/-- The order of two cells, the first of which reads the second. -/
theorem build_order_of_reader_first :
    let reader : FormulaCell := ⟨⟨0⟩, [.cell ⟨0, 1, false, false⟩]⟩
    let read : FormulaCell := ⟨⟨1⟩, [.text "five"]⟩
    let chain : Chain := ⟨#[reader, read], .empty⟩
    let built := chain.build .new
    Grown [reader, read] chain ∧ built.cells.Perm [reader, read] ∧
      built.precedentsOf 1 = [0] ∧ built.isCircular 0 = false ∧ built.isCircular 1 = false ∧
      (0 ∈ built.precedentsOf 1 → 0 < 1) := by
  intro reader read chain built
  have hreader : Grown [reader] ⟨#[reader], .empty⟩ :=
    .add .empty (add_eq_ok_iff.mpr ⟨by simp [empty], rfl, rfl⟩)
  have hgrown : Grown [reader, read] chain :=
    .add hreader (add_eq_ok_iff.mpr ⟨by decide, rfl, rfl⟩)
  obtain ⟨hperm, -, -, -, hfirst⟩ := build_order hgrown (FormulaCell.references .new)
  have hfree : built.isCircular 0 = false ∧ built.isCircular 1 = false := by decide +kernel
  exact ⟨hgrown, hperm, by decide +kernel, hfree.1, hfree.2, hfirst 1 0 hfree.2 hfree.1⟩

end Grown

end Chain

end Spreadsheet.Dependency
