import Spreadsheet.Proofs.Dependency.Layout

/-!
# Where a change spreads

The places that a pass calculates again are those from which a change can be reached backwards.
`mem_recalculation_order_iff` and `mem_downstream_iff` say so, and the lemmas after them say what a
pass relies on: a place that is left out reads no place that is taken in.
-/

namespace Spreadsheet.Dependency.Chain

variable {chain : Chain} {scan : FormulaCell → References} {place other : Nat}

/-- A dependent is a place of the chain. -/
theorem dependents_lt (h : place ∈ (chain.buildBy scan).dependentsOf other) :
    place < chain.size := by
  obtain ⟨_, hholds, -⟩ := exists_holds_of_mem_precedents (mem_dependents_build_iff.mp h)
  exact hholds.place_lt

/-- What is reached from places of a chain along the cells that read them. -/
theorem mem_reachable_dependents_iff {roots : List Nat}
    (hroots : ∀ root ∈ roots, root < chain.size) :
    place ∈ reachable compare (chain.buildBy scan).dependentsOf (chain.buildBy scan).size roots ↔
      ∃ root ∈ roots, Reaches (chain.buildBy scan).dependentsOf root place := by
  refine mem_reachable_iff (Finset.range chain.size) ?_ (by simp) (by simpa using hroots)
  intro node _ target htarget
  simpa using dependents_lt htarget

/-- The places from which a change spreads are places of the chain. -/
theorem seeds_lt {changed : List CellId} {withVolatile : Bool}
    (h : place ∈ (chain.buildBy scan).seeds changed withVolatile) : place < chain.size := by
  rcases List.mem_append.mp h with hreads | hchanged
  · exact List.mem_range.mp (List.mem_filter.mp hreads).1
  · obtain ⟨id, -, hplace⟩ := List.mem_filterMap.mp hchanged
    obtain ⟨hlt, -⟩ := List.findIdx?_eq_some_iff_getElem.mp hplace
    simpa [cells_build_perm.length_eq, size] using hlt

/-- What is recalculated is all that the places from which a change spreads lead to. -/
theorem mem_recalculation_order_iff {changed : List CellId} {withVolatile : Bool} :
    place ∈ (chain.buildBy scan).recalculationOrder changed withVolatile ↔
      ∃ root ∈ (chain.buildBy scan).seeds changed withVolatile,
        Reaches (chain.buildBy scan).dependentsOf root place := by
  simp only [recalculationOrder, List.mem_filter, places, List.mem_range,
    Std.TreeSet.contains_iff_mem, mem_reachable_dependents_iff fun _ => seeds_lt]
  refine and_iff_right_of_imp ?_
  rintro ⟨root, hroot, hreach⟩
  have hclosed : ∀ node < chain.size, ∀ target ∈ (chain.buildBy scan).dependentsOf node,
      target < chain.size := fun node _ target htarget => dependents_lt htarget
  exact Reaches.mem hclosed hreach (seeds_lt hroot)

/-- The recalculation order is ascending and lists no place twice. -/
theorem recalculation_order_pairwise (chain : Chain) (changed : List CellId) (withVolatile : Bool) :
    (chain.recalculationOrder changed withVolatile).Pairwise (· < ·) :=
  List.pairwise_lt_range.filter _

/-- A cell that reads a changed cell is calculated again. -/
theorem mem_recalculation_order_of_reads {changed : List CellId} {withVolatile : Bool}
    {cell : FormulaCell} {id : CellId} (hcell : (chain.buildBy scan).cell? place = some cell)
    (hid : id ∈ changed) (hreads : (scan cell).reads id.sheet id.position = true) :
    place ∈ (chain.buildBy scan).recalculationOrder changed withVolatile := by
  obtain ⟨number, hholds⟩ := (exists_holds_iff chain scan).mpr (place_lt_of_cell hcell)
  rw [hholds.cell] at hcell
  refine mem_recalculation_order_iff.mpr ⟨place, ?_, .refl⟩
  have hany : (chain.buildBy scan).readsAny changed place = true := by
    rw [readsAny, hholds.references hcell]
    exact List.any_eq_true.mpr ⟨id, hid, hreads⟩
  simp [seeds, places, hholds.place_lt, hany]

/-- A place that is not calculated again reads none that is. -/
theorem not_mem_precedents_of_recalculation {changed : List CellId} {withVolatile : Bool}
    (hplace : place ∉ (chain.buildBy scan).recalculationOrder changed withVolatile)
    (hother : other ∈ (chain.buildBy scan).recalculationOrder changed withVolatile) :
    other ∉ (chain.buildBy scan).precedentsOf place := by
  intro hread
  obtain ⟨root, hroot, hreach⟩ := mem_recalculation_order_iff.mp hother
  exact hplace (mem_recalculation_order_iff.mpr
    ⟨root, hroot, hreach.tail (mem_dependents_build_iff.mpr hread)⟩)

/-- Downstream of some places are those candidates that a dependent of one of them leads to. -/
theorem mem_downstream_iff {sources candidates : List Nat} :
    place ∈ (chain.buildBy scan).downstream sources candidates ↔
      place ∈ candidates ∧ ∃ source ∈ sources, ∃ root ∈ (chain.buildBy scan).dependentsOf source,
        Reaches (chain.buildBy scan).dependentsOf root place := by
  have hroots : ∀ root ∈ sources.flatMap (chain.buildBy scan).dependentsOf, root < chain.size := by
    intro root hroot
    obtain ⟨source, -, hmem⟩ := List.mem_flatMap.mp hroot
    exact dependents_lt hmem
  simp only [downstream, List.mem_filter, Std.TreeSet.contains_iff_mem,
    mem_reachable_dependents_iff hroots, List.mem_flatMap]
  tauto

/-- A candidate that is not downstream reads no source. -/
theorem not_mem_precedents_of_source {sources candidates : List Nat} {source : Nat}
    (hcandidate : place ∈ candidates)
    (hplace : place ∉ (chain.buildBy scan).downstream sources candidates)
    (hsource : source ∈ sources) :
    source ∉ (chain.buildBy scan).precedentsOf place := by
  intro hread
  exact hplace (mem_downstream_iff.mpr
    ⟨hcandidate, source, hsource, place, mem_dependents_build_iff.mpr hread, .refl⟩)

/-- A candidate that is not downstream reads none that is. -/
theorem not_mem_precedents_of_downstream {sources candidates : List Nat}
    (hcandidate : place ∈ candidates)
    (hplace : place ∉ (chain.buildBy scan).downstream sources candidates)
    (hother : other ∈ (chain.buildBy scan).downstream sources candidates) :
    other ∉ (chain.buildBy scan).precedentsOf place := by
  intro hread
  obtain ⟨-, source, hsource, root, hroot, hreach⟩ := mem_downstream_iff.mp hother
  exact hplace (mem_downstream_iff.mpr
    ⟨hcandidate, source, hsource, root, hroot, hreach.tail (mem_dependents_build_iff.mpr hread)⟩)

end Spreadsheet.Dependency.Chain
