import Mathlib.Order.Bounds.Defs
import Spreadsheet.Proofs.Dependency.Change
import Spreadsheet.Proofs.Dependency.Edges
import Spreadsheet.Proofs.Dependency.Worklist

/-!
# The extent of a change

A change is followed through a chain in breadth: the cells from which it spreads stand in a queue,
the dependents of each cell that is taken off it are put there unless they have been before, and
the cells that have been in the queue are calculated again, in calculation order. The main theorem,
`recalculation_order_spec`, says that these are the places of the least set that takes in all cells
from which the change spreads and, with every cell, its dependents, and that every cell of it has
been in the queue once.
-/

namespace Spreadsheet.Dependency

/-- Whether a change spreads from a cell: it has been changed, it reads a changed cell, or it is
volatile and such cells take part. -/
def FormulaCell.Seeded (scan : FormulaCell → References) (changed : List CellId)
    (withVolatile : Bool) (cell : FormulaCell) : Prop :=
  cell.id ∈ changed ∨ (∃ id ∈ changed, (scan cell).reads id.sheet id.position = true) ∨
    (withVolatile = true ∧ (scan cell).isVolatile = true)

namespace Chain

/-- Whether places of a chain take in all cells from which a change spreads and the dependents of
the cells they take in. -/
structure ClosedUnderChange (chain : Chain) (scan : FormulaCell → References)
    (changed : List CellId) (withVolatile : Bool) (places : Set Nat) : Prop where
  seeded : ∀ (place : Nat) (cell : FormulaCell), chain.cell? place = some cell →
    cell.Seeded scan changed withVolatile → place ∈ places
  dependents : ∀ place ∈ places, ∀ reader ∈ chain.dependentsOf place, reader ∈ places

/-- The queue of places after a change has been followed to its end. What has been seen are the
places that have been marked for calculation. -/
def spread (chain : Chain) (changed : List CellId) (withVolatile : Bool) :
    Worklist Nat (compare : Nat → Nat → Ordering) :=
  .drain .queue id chain.dependentsOf chain.size
    (.noticeAll .queue id .empty (chain.seeds changed withVolatile))

variable {chain : Chain} {scan : FormulaCell → References} {changed : List CellId}
  {withVolatile : Bool} {place : Nat}

/-- A place reads a change exactly if the references of its cell cover one of the changed cells. -/
theorem reads_any_iff {cell : FormulaCell} (hcell : (chain.buildBy scan).cell? place = some cell) :
    (chain.buildBy scan).readsAny changed place = true ↔
      ∃ id ∈ changed, (scan cell).reads id.sheet id.position = true := by
  rw [readsAny, references_of_cell hcell, Option.any_some, List.any_eq_true]

/-- A place is volatile exactly if its cell is. -/
theorem is_volatile_of_cell {cell : FormulaCell}
    (hcell : (chain.buildBy scan).cell? place = some cell) :
    (chain.buildBy scan).isVolatile place = (scan cell).isVolatile := by
  rw [isVolatile, references_of_cell hcell, Option.any_some]

/-- A change starts from the places of the cells from which it spreads. -/
theorem mem_seeds_iff (hdistinct : chain.Distinct) :
    place ∈ (chain.buildBy scan).seeds changed withVolatile ↔
      ∃ cell, (chain.buildBy scan).cell? place = some cell ∧
        cell.Seeded scan changed withVolatile := by
  constructor
  · intro hseed
    obtain ⟨cell, hcell⟩ := (laid_build chain scan).exists_cell_iff.mpr (seeds_lt hseed)
    refine ⟨cell, hcell, ?_⟩
    rcases List.mem_append.mp hseed with hscanned | hchanged
    · have hflags := (List.mem_filter.mp hscanned).2
      rw [Bool.or_eq_true, Bool.and_eq_true, is_volatile_of_cell hcell, reads_any_iff hcell]
        at hflags
      exact .inr hflags.symm
    · obtain ⟨id, hid, hplace⟩ := List.mem_filterMap.mp hchanged
      obtain ⟨other, hother, rfl⟩ := hdistinct.place_iff.mp hplace
      obtain rfl := Option.some.inj (hother.symm.trans hcell)
      exact .inl hid
  · rintro ⟨cell, hcell, hchanged | hrest⟩
    · have hplace := hdistinct.place_iff.mpr ⟨cell, hcell, rfl⟩
      exact List.mem_append_right _ (List.mem_filterMap.mpr ⟨cell.id, hchanged, hplace⟩)
    · refine List.mem_append_left _ (List.mem_filter.mpr ⟨?_, ?_⟩)
      · exact List.mem_range.mpr (place_lt_of_cell hcell)
      · rw [Bool.or_eq_true, Bool.and_eq_true, is_volatile_of_cell hcell, reads_any_iff hcell]
        exact hrest.symm

/-- The places to calculate again make up the least set that is closed under a change. -/
theorem recalculation_order_is_least (hdistinct : chain.Distinct) :
    IsLeast {places : Set Nat |
        (chain.buildBy scan).ClosedUnderChange scan changed withVolatile places}
      {place | place ∈ (chain.buildBy scan).recalculationOrder changed withVolatile} := by
  refine ⟨⟨fun place cell hcell hseeded => ?_, fun place hplace reader hreader => ?_⟩,
    fun places hplaces place hplace => ?_⟩
  · have hseed : place ∈ (chain.buildBy scan).seeds changed withVolatile :=
      (mem_seeds_iff hdistinct).mpr ⟨cell, hcell, hseeded⟩
    exact mem_recalculation_order_iff.mpr ⟨place, hseed, .refl⟩
  · obtain ⟨root, hroot, hreach⟩ := mem_recalculation_order_iff.mp hplace
    exact mem_recalculation_order_iff.mpr ⟨root, hroot, hreach.tail hreader⟩
  · obtain ⟨root, hroot, hreach⟩ := mem_recalculation_order_iff.mp hplace
    obtain ⟨cell, hcell, hseeded⟩ := (mem_seeds_iff hdistinct).mp hroot
    exact hreach.mem hplaces.dependents (hplaces.seeded root cell hcell hseeded)

/-- Following a change in breadth comes to an end, and takes each place to calculate again off the
queue once. -/
theorem spread_spec (chain : Chain) (scan : FormulaCell → References) (changed : List CellId)
    (withVolatile : Bool) :
    let order := (chain.buildBy scan).recalculationOrder changed withVolatile
    let done := (chain.buildBy scan).spread changed withVolatile
    done.waiting = [] ∧ done.taken.Perm order ∧
      (chain.buildBy scan).places.filter done.seen.contains = order := by
  intro order done
  have hkeyed : Worklist.Keyed id (chain.buildBy scan).dependentsOf
      (Finset.range chain.size) := by
    refine ⟨fun node _ target htarget => ?_, fun left _ right _ hkey => hkey⟩
    exact Finset.mem_range.mpr (dependents_lt htarget)
  have hroots : ∀ root ∈ (chain.buildBy scan).seeds changed withVolatile,
      root ∈ Finset.range chain.size := fun _ hroot => Finset.mem_range.mpr (seeds_lt hroot)
  obtain ⟨hempty, hnodup, htaken, hseen⟩ :=
    Worklist.drain_spec compare .queue hkeyed hroots (Finset.card_range chain.size).le
  have hmem : ∀ place, place ∈ done.taken ↔ place ∈ order := fun place =>
    (htaken place).trans mem_recalculation_order_iff.symm
  have hmarked : ∀ place, done.seen.contains place = true ↔ place ∈ order := by
    intro place
    rw [Std.TreeSet.contains_iff_mem]
    refine (hseen place).trans (Iff.trans ?_ (hmem place))
    exact ⟨fun ⟨_, hnode, hkey⟩ => hkey ▸ hnode, fun hnode => ⟨place, hnode, rfl⟩⟩
  refine ⟨hempty, ?_, ?_⟩
  · exact (List.perm_ext_iff_of_nodup hnodup
      ((recalculation_order_pairwise _ changed withVolatile).imp Nat.ne_of_lt)).mpr hmem
  · refine List.filter_congr fun place hplace => Bool.eq_iff_iff.mpr ((hmarked place).trans ?_)
    exact List.mem_filter.trans (and_iff_right hplace)

/-- After cells have been added one by one and put in order, the places to calculate again are
listed in ascending order, and they are the least set of places that takes in the changed cells,
the cells that read a changed cell and, if they take part, the volatile ones, and the dependents of
each cell it takes in. The queue in which a change is followed runs empty; each of these places has
been in it once and no other place has. -/
theorem recalculation_order_spec {added : List FormulaCell} (hgrown : Grown added chain)
    (book : Workbook) (changed : List CellId) (withVolatile : Bool) :
    let built := chain.build book
    let order := built.recalculationOrder changed withVolatile
    let done := built.spread changed withVolatile
    order.Pairwise (· < ·) ∧
      IsLeast {places : Set Nat |
          built.ClosedUnderChange (FormulaCell.references book) changed withVolatile places}
        {place | place ∈ order} ∧
      done.waiting = [] ∧ done.taken.Perm order ∧
      built.places.filter done.seen.contains = order :=
  ⟨recalculation_order_pairwise _ changed withVolatile,
    recalculation_order_is_least hgrown.registered.2,
    spread_spec chain (FormulaCell.references book) changed withVolatile⟩

/-- Of four cells, a change of two, one of them named twice and without a formula, spreads to a
reader and around a cycle, but not to a volatile cell that takes no part. -/
theorem recalculation_order_spec_of_cycle :
    let first : FormulaCell := ⟨⟨0⟩, [.cell ⟨0, 1, false, false⟩]⟩
    let second : FormulaCell := ⟨⟨1⟩, [.cell ⟨0, 0, false, false⟩]⟩
    let clock : FormulaCell :=
      ⟨⟨2⟩, [.identifier "now", .symbol .leftParen, .symbol .rightParen]⟩
    let reader : FormulaCell := ⟨⟨3⟩, [.cell ⟨0, 4, false, false⟩]⟩
    let chain : Chain := ⟨#[first, second, clock, reader], .empty⟩
    let built := chain.build .new
    let changed : List CellId := [⟨4⟩, ⟨0⟩, ⟨4⟩]
    Grown [first, second, clock, reader] chain ∧
      IsLeast {places : Set Nat |
          built.ClosedUnderChange (FormulaCell.references .new) changed false places}
        {place | place ∈ built.recalculationOrder changed false} ∧
      built.recalculationOrder changed false = [1, 2, 3] ∧
      (built.spread changed false).taken = [1, 3, 2] ∧
      built.recalculationOrder changed true = [0, 1, 2, 3] := by
  intro first second clock reader chain built changed
  have hgrown : Grown [first, second, clock, reader] chain := grown_of_nodup (by decide)
  obtain ⟨-, hleast, -⟩ := recalculation_order_spec hgrown .new changed false
  exact ⟨hgrown, hleast, by decide +kernel, by decide +kernel, by decide +kernel⟩

end Chain

end Spreadsheet.Dependency
