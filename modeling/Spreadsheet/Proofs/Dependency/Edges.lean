import Spreadsheet.Proofs.Dependency.Layout

/-!
# Who reads whom

The edges of a chain that has been put in order. `build_edges` says that the lists of precedents and
of dependents give the same edges, that there is one exactly where the references scanned from a
cell read another one, and that every list is strictly ascending. `build_cycles` says that a cell is
found to be on a cycle exactly if it reads itself, directly or by way of others.
-/

namespace Spreadsheet.Dependency.Chain

section Converse

variable {related : Array (List Nat)}

/-- Putting a place in front of the lists of distinct numbers. -/
private theorem listed_foldl_cons (place : Nat) {others : List Nat} (hdistinct : others.Nodup)
    (table : Array (List Nat)) (number : Nat) :
    listed (others.foldl (fun table other => table.modify other (place :: ·)) table) number =
      if number ∈ others ∧ number < table.size then place :: listed table number
      else listed table number := by
  induction others generalizing table with
  | nil => simp
  | cons first rest ih =>
      obtain ⟨hfirst, hrest⟩ := List.nodup_cons.mp hdistinct
      rw [List.foldl_cons, ih hrest]
      by_cases hnumber : number = first
      · subst hnumber
        by_cases hlt : number < table.size
        · simp [hfirst, hlt, listed, Array.getElem_modify]
        · simp [hlt, listed]
      · simp [listed, Array.getElem?_modify, Ne.symm hnumber, hnumber]

/-- The converse of a relation lists places in ascending order, if no place is related to a number
twice. -/
theorem listed_converse_pairwise (hdistinct : ∀ place, (listed related place).Nodup)
    (number : Nat) : (listed (converse related) number).Pairwise (· < ·) := by
  -- the places are entered from the last one down, each in front of the later ones
  have hall : ∀ count first : Nat,
      let table := (List.range' first count).foldr (fun place table =>
        (listed related place).foldl (fun table other => table.modify other (place :: ·)) table)
        (Array.replicate related.size [])
      (∀ place ∈ listed table number, first ≤ place) ∧
        (listed table number).Pairwise (· < ·) := by
    intro count
    induction count with
    | zero =>
        intro first
        by_cases hnumber : number < related.size <;> simp [listed, hnumber]
    | succ count ih =>
        intro first
        obtain ⟨hlater, hsorted⟩ := ih (first + 1)
        dsimp only at hlater hsorted ⊢
        rw [List.range'_succ, List.foldr_cons, listed_foldl_cons first (hdistinct first)]
        split
        · refine ⟨?_, List.pairwise_cons.mpr ⟨fun place hplace => ?_, hsorted⟩⟩
          · intro place hplace
            rcases List.mem_cons.mp hplace with rfl | hplace
            · exact Nat.le_refl _
            · exact Nat.le_of_succ_le (hlater place hplace)
          · exact hlater place hplace
        · exact ⟨fun place hplace => Nat.le_of_succ_le (hlater place hplace), hsorted⟩
  rw [converse, List.range_eq_range']
  exact (hall related.size 0).2

end Converse

section Built

variable {chain : Chain} {scan : FormulaCell → References} {place number : Nat}

/-- The places that a cell reads are strictly ascending. -/
theorem precedents_pairwise (chain : Chain) (scan : FormulaCell → References) (place : Nat) :
    ((chain.buildBy scan).precedentsOf place).Pairwise (· < ·) := by
  by_cases hplace : place < chain.size
  · obtain ⟨number, hholds⟩ := (exists_holds_iff chain scan).mpr hplace
    have horder : (orderBy scan chain.registered).toArray[place]? = some number := by
      rw [List.getElem?_toArray]
      exact hholds
    show (listed ((orderBy scan chain.registered).toArray.map _) place).Pairwise (· < ·)
    rw [listed_map _ horder]
    exact ascending_pairwise _
  · rw [precedentsOf, listed_of_size_le (by rw [precedents_size_build]; omega)]
    exact List.Pairwise.nil

/-- The places that read a cell are strictly ascending. -/
theorem dependents_pairwise (chain : Chain) (scan : FormulaCell → References) (place : Nat) :
    ((chain.buildBy scan).dependentsOf place).Pairwise (· < ·) :=
  listed_converse_pairwise (fun other => (precedents_pairwise chain scan other).imp Nat.ne_of_lt)
    place

/-- Every registered number stands at some place. -/
theorem exists_place_of_number_lt (scan : FormulaCell → References) (h : number < chain.size) :
    ∃ place, Holds chain scan place number := by
  obtain ⟨place, hplace, hnumber⟩ :=
    List.getElem_of_mem (mem_order_by_iff.mpr h : number ∈ orderBy scan chain.registered)
  exact ⟨place, List.getElem?_eq_some_iff.mpr ⟨hplace, hnumber⟩⟩

/-- Following what cells read is the same by places and by numbers, so it leads back to a place
exactly if it leads back to the number there. -/
theorem Holds.leads_back_iff (h : Holds chain scan place number) :
    Relation.TransGen (fun left right => right ∈ (chain.buildBy scan).precedentsOf left)
        place place ↔
      Relation.TransGen
        (fun left right => right ∈ listed (readTable scan chain.registered) left)
        number number := by
  constructor
  · intro hplaces
    rw [← h.registration]
    refine hplaces.lift (chain.buildBy scan).registration fun left right hread => ?_
    obtain ⟨first, hfirst, second, hmem, hsecond⟩ := exists_holds_of_mem_precedents hread
    show (chain.buildBy scan).registration right ∈
      listed (readTable scan chain.registered) ((chain.buildBy scan).registration left)
    rwa [hfirst.registration, hsecond.registration]
  · intro hnumbers
    rw [← h.index]
    refine hnumbers.lift (chain.buildBy scan).indexOfNumber fun left right hread => ?_
    have hleft : left < chain.size := by
      by_contra hbeyond
      rw [listed_of_size_le (by rw [read_table_size]; exact Nat.le_of_not_lt hbeyond)] at hread
      cases hread
    obtain ⟨first, hfirst⟩ := exists_place_of_number_lt scan hleft
    obtain ⟨second, hsecond⟩ := exists_place_of_number_lt scan (read_table_lt hread)
    show (chain.buildBy scan).indexOfNumber right ∈
      (chain.buildBy scan).precedentsOf ((chain.buildBy scan).indexOfNumber left)
    rw [hfirst.index, hsecond.index]
    exact hfirst.mem_precedents_iff.mpr ⟨right, hread, hsecond⟩

/-- A place is on a cycle exactly if following what cells read leads back to it. -/
theorem is_circular_iff :
    (chain.buildBy scan).isCircular place = true ↔
      Relation.TransGen (fun left right => right ∈ (chain.buildBy scan).precedentsOf left)
        place place := by
  by_cases hplace : place < chain.size
  · obtain ⟨number, hholds⟩ := (exists_holds_iff chain scan).mpr hplace
    rw [hholds.is_circular, hholds.leads_back_iff]
    exact is_number_circular_iff hholds.number_lt
  · have hflag : (chain.buildBy scan).isCircular place = false := by
      have hsize : (chain.buildBy scan).layout.circular.size = chain.size := by
        show ((orderBy scan chain.registered).toArray.map _).size = _
        rw [Array.size_map, List.size_toArray, order_by_length]
        rfl
      rw [isCircular, Array.getElem?_eq_none (by omega), Option.getD_none]
    rw [hflag]
    simp only [Bool.false_eq_true, false_iff]
    intro hcycle
    obtain ⟨read, hread, -⟩ := Relation.TransGen.head'_iff.mp hcycle
    obtain ⟨number, hholds, -⟩ := exists_holds_of_mem_precedents hread
    exact hplace hholds.place_lt

/-- A cell of a built chain keeps the references that were scanned from it. -/
theorem references_of_cell {cell : FormulaCell}
    (hcell : (chain.buildBy scan).cell? place = some cell) :
    (chain.buildBy scan).layout.references[place]? = some (scan cell) := by
  obtain ⟨number, hholds⟩ := (exists_holds_iff chain scan).mpr (place_lt_of_cell hcell)
  exact hholds.references (hholds.cell.symm.trans hcell)

/-- Whoever reads and whatever is read stands at a place of the chain. -/
theorem lt_of_mem_precedents_build {target : Nat}
    (h : target ∈ (chain.buildBy scan).precedentsOf place) :
    place < chain.size ∧ target < chain.size := by
  obtain ⟨_, hplace, _, -, htarget⟩ := exists_holds_of_mem_precedents h
  exact ⟨hplace.place_lt, htarget.place_lt⟩

end Built

section Edges

variable {added : List FormulaCell} {chain : Chain}

/-- After cells have been added one by one and put in order, one cell is among the precedents of
another exactly if the references scanned from the other read it, and exactly then the other is
among its dependents. Only places of the chain are listed, and each list is strictly ascending. -/
theorem build_edges (hgrown : Grown added chain) (book : Workbook) :
    let built := chain.build book
    (∀ (place target : Nat) (cell read : FormulaCell),
      built.cell? place = some cell → built.cell? target = some read →
      built.layout.references[place]? = some (cell.references book) ∧
      (target ∈ built.precedentsOf place ↔
        (cell.references book).reads read.id.sheet read.id.position = true) ∧
      (place ∈ built.dependentsOf target ↔
        (cell.references book).reads read.id.sheet read.id.position = true)) ∧
    (∀ place target, target ∈ built.precedentsOf place ↔ place ∈ built.dependentsOf target) ∧
    (∀ place target, target ∈ built.precedentsOf place →
      place < built.size ∧ target < built.size) ∧
    (∀ place, (built.precedentsOf place).Pairwise (· < ·)) ∧
    (∀ place, (built.dependentsOf place).Pairwise (· < ·)) := by
  intro built
  obtain ⟨-, hdistinct⟩ := hgrown.registered
  refine ⟨?_, fun _ _ => mem_dependents_build_iff.symm, fun _ _ => lt_of_mem_precedents_build,
    precedents_pairwise chain _, dependents_pairwise chain _⟩
  intro place target cell read hcell hread
  have hreads : target ∈ built.precedentsOf place ↔
      (cell.references book).reads read.id.sheet read.id.position = true := by
    constructor
    · intro hmem
      obtain ⟨found, other, hfound, hother, hreads⟩ := hdistinct.mem_precedents_iff.mp hmem
      obtain rfl := Option.some.inj (hfound.symm.trans hcell)
      obtain rfl := Option.some.inj (hother.symm.trans hread)
      exact hreads
    · exact fun hreads => hdistinct.mem_precedents_iff.mpr ⟨cell, read, hcell, hread, hreads⟩
  exact ⟨references_of_cell hcell, hreads, mem_dependents_build_iff.trans hreads⟩

/-- The edges of three cells, the first of which reads the other two by a range. -/
theorem build_edges_of_range_reader :
    let reader : FormulaCell :=
      ⟨⟨0⟩, [.cell ⟨0, 1, false, false⟩, .symbol .colon, .cell ⟨0, 2, false, false⟩]⟩
    let first : FormulaCell := ⟨⟨1⟩, [.text "five"]⟩
    let last : FormulaCell := ⟨⟨2⟩, [.cell ⟨0, 1, true, false⟩]⟩
    let chain : Chain := ⟨#[reader, first, last], .empty⟩
    let built := chain.build .new
    Grown [reader, first, last] chain ∧
      built.cell? 0 = some first ∧ built.cell? 1 = some last ∧ built.cell? 2 = some reader ∧
      (0 ∈ built.precedentsOf 2 ↔
        (reader.references .new).reads first.id.sheet first.id.position = true) ∧
      built.precedentsOf 2 = [0, 1] ∧ built.dependentsOf 0 = [1, 2] := by
  intro reader first last chain built
  have hgrown : Grown [reader, first, last] chain := by
    have hreader : Grown [reader] ⟨#[reader], .empty⟩ :=
      .add .empty (add_eq_ok_iff.mpr ⟨by simp [empty], rfl, rfl⟩)
    have hfirst : Grown [reader, first] ⟨#[reader, first], .empty⟩ :=
      .add hreader (add_eq_ok_iff.mpr ⟨by decide, rfl, rfl⟩)
    exact .add hfirst (add_eq_ok_iff.mpr ⟨by decide, rfl, rfl⟩)
  obtain ⟨hedges, -, -, -, -⟩ := build_edges hgrown .new
  have hstands :
      built.registration 0 = 1 ∧ built.registration 1 = 2 ∧ built.registration 2 = 0 := by
    decide +kernel
  have hzero : built.cell? 0 = some first := by
    rw [cell?, hstands.1]
    rfl
  have hone : built.cell? 1 = some last := by
    rw [cell?, hstands.2.1]
    rfl
  have htwo : built.cell? 2 = some reader := by
    rw [cell?, hstands.2.2]
    rfl
  exact ⟨hgrown, hzero, hone, htwo, (hedges 2 0 reader first htwo hzero).2.1, by decide +kernel,
    by decide +kernel⟩

/-- A cell is found to be on a cycle exactly if it can reach itself by following what cells read in
one or more steps. A cell to which nothing it reads leads back is not, even if it reads a cycle,
and neither is a cell that leads to none of its readers, even if a cycle reads it. -/
theorem build_cycles (chain : Chain) (book : Workbook) :
    let built := chain.build book
    (∀ place, built.isCircular place = true ↔
      Relation.TransGen (fun left right => right ∈ built.precedentsOf left) place place) ∧
    (∀ place, (∀ target ∈ built.precedentsOf place, ¬ Reaches built.precedentsOf target place) →
      built.isCircular place = false) ∧
    (∀ place, (∀ reader ∈ built.dependentsOf place, ¬ Reaches built.precedentsOf place reader) →
      built.isCircular place = false) := by
  intro built
  refine ⟨fun _ => is_circular_iff, fun place hleads => ?_, fun place hleads => ?_⟩
  · refine Bool.eq_false_iff.mpr fun hcircular => ?_
    obtain ⟨target, hread, hback⟩ :=
      Relation.TransGen.head'_iff.mp (is_circular_iff.mp hcircular)
    exact hleads target hread hback
  · refine Bool.eq_false_iff.mpr fun hcircular => ?_
    obtain ⟨reader, hreaches, hread⟩ :=
      Relation.TransGen.tail'_iff.mp (is_circular_iff.mp hcircular)
    exact hleads reader (mem_dependents_build_iff.mpr hread) hreaches

end Edges

end Spreadsheet.Dependency.Chain
