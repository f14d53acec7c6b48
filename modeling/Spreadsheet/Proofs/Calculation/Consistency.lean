import Spreadsheet.Proofs.Calculation.Places
import Spreadsheet.Proofs.Calculation.Registration
import Spreadsheet.Proofs.Dependency.Coverage

/-!
# Consistent workbooks

A workbook is consistent with a chain if the chain holds its formulas and each of them stores what
it is worth. The main theorem, `Consistent.workbook_eq`, says that this settles the workbook: what
was put into it determines the results. A workbook in which all earlier cells store what they are
worth but one is stuck excludes that there is a consistent one, `Consistent.not_stuck_at`.
-/

namespace Spreadsheet.Calculation

open Dependency (Chain FormulaCell)
open Pass (evaluateIn)

section Formulas

variable {book other : Workbook}

/-- Workbooks with the same formulas have the same entries. -/
theorem entries_eq_of_text_eq (hsheets : book.sheetCount = other.sheetCount)
    (htext : ∀ sheet position, (book.content sheet position).formulaText =
      (other.content sheet position).formulaText) : entries book = entries other := by
  have hof : entriesOf book = entriesOf other := by
    funext sheet
    rw [entriesOf, entriesOf, Workbook.formulas_congr (htext sheet)]
  rw [entries, entries, hof, hsheets]

/-- Workbooks with the same inputs have the same formulas as entries. -/
theorem entries_congr (h : book.inputs = other.inputs) : entries book = entries other :=
  entries_eq_of_text_eq (Workbook.sheet_count_eq h) (Workbook.formula_text_eq h)

/-- Workbooks with the same inputs have the same formulas to calculate. -/
theorem formula_cells_congr (h : book.inputs = other.inputs) :
    formulaCells book = formulaCells other := by
  rw [formulaCells, formulaCells, entries_congr h]

/-- One formula stands in a cell. -/
theorem entry_unique {left right : Entry} (hleft : left ∈ entries book)
    (hright : right ∈ entries book)
    (hsheet : left.sheet = right.sheet) (hposition : left.position = right.position) :
    left = right := by
  have hleftText := mem_entries_iff.mp hleft
  have hrightText := mem_entries_iff.mp hright
  obtain ⟨sheet, position, source⟩ := left
  obtain ⟨otherSheet, otherPosition, otherSource⟩ := right
  obtain rfl : sheet = otherSheet := hsheet
  obtain rfl : position = otherPosition := hposition
  obtain rfl : source = otherSource := Option.some.inj (hleftText.symm.trans hrightText)
  rfl

/-- A formula cell of a workbook stands at one of its formulas. -/
theorem exists_entry_of_formula_cell {cell : FormulaCell} (h : cell ∈ formulaCells book) :
    ∃ entry ∈ entries book, entry.readable = some cell ∧ cell.IsAt entry.sheet entry.position := by
  obtain ⟨entry, hentry, hreadable⟩ := List.mem_filterMap.mp h
  exact ⟨entry, hentry, hreadable, entry.is_at_of_readable hreadable⟩

/-- A formula that cannot be read stands at no formula cell. -/
theorem not_is_at_of_unreadable {entry : Entry} (hentry : entry ∈ entries book)
    (hunreadable : entry.readable = none) {cell : FormulaCell} (hcell : cell ∈ formulaCells book) :
    ¬ cell.IsAt entry.sheet entry.position := by
  intro hat
  obtain ⟨found, hfound, hreadable, hfoundAt⟩ := exists_entry_of_formula_cell hcell
  obtain rfl : found = entry := entry_unique hfound hentry
    (hfoundAt.1.symm.trans hat.1) (hfoundAt.2.symm.trans hat.2)
  rw [hreadable] at hunreadable
  cases hunreadable

/-- The references of a cell cover its value if its colons stand between addresses. -/
theorem ReadsCovered.of_direct {cell : FormulaCell}
    (h : Dependency.ReadsDirectly book cell.id.sheet cell.tokens) : ReadsCovered book cell := by
  intro left right hleft hright hshown setting draw
  unfold evaluateIn
  refine bind_congr_of_ok fun tree htree => ?_
  have hparse := map_error_eq_ok_iff.mp htree
  refine Dependency.evaluate_eq_of_direct (hleft.symm.trans hright) hparse (h.congr hleft) ?_
    _ _ _ _ _ (.inr ⟨rfl, rfl⟩)
  rwa [← hleft.references]

/-- Whether no formula of a workbook leads to a volatile function, and the value of each depends on
nothing but the cells that are scanned from it. -/
def Predictable (book : Workbook) : Prop :=
  ∀ cell ∈ formulaCells book, IsSteady book cell ∧ ReadsCovered book cell

/-- A formula leads to no volatile function if its colons stand between addresses and no such
function is among all that it mentions. -/
theorem IsSteady.of_direct {cell : FormulaCell}
    (hdirect : Dependency.ReadsDirectly book cell.id.sheet cell.tokens)
    (h : ∀ name, .function name ∈
      (Dependency.allMentions book cell.id.sheet cell.tokens).map Dependency.Mention.upper →
        Builtin.isVolatileName name = false) : IsSteady book cell :=
  fun _ htree name hname => h name (Dependency.mem_all_of_leads_to htree hdirect hname)

/-- Formulas are predictable if they have no colons, use no names and call no volatile function. -/
theorem Predictable.of_plain (h : ∀ cell ∈ formulaCells book,
    .symbol .colon ∉ cell.tokens ∧
    Dependency.definitionsReached book cell.id.sheet
      (Dependency.mentionsOn book cell.id.sheet cell.tokens) = [] ∧
    (Dependency.References.ofMentions ((Dependency.mentionsOn book cell.id.sheet cell.tokens).map
      Dependency.Mention.upper)).isVolatile = false) : Predictable book := by
  intro cell hcell
  obtain ⟨hcolon, hnone, hmentions⟩ := h cell hcell
  have hdirect : Dependency.ReadsDirectly book cell.id.sheet cell.tokens := by
    refine ⟨Formula.colons_direct_of_none hcolon, by simp [hnone]⟩
  refine ⟨.of_direct hdirect fun name hname => ?_, .of_direct hdirect⟩
  rw [Dependency.allMentions, hnone, List.flatMap_nil, List.append_nil] at hname
  simpa using List.any_eq_false.mp hmentions _ hname

/-- Whether a workbook is predictable depends on its inputs only. -/
theorem Predictable.congr (h : Predictable book) (hinputs : book.inputs = other.inputs) :
    Predictable other := by
  have hframe := Workbook.same_frame_of_inputs hinputs
  intro cell hcell
  rw [← formula_cells_congr hinputs] at hcell
  exact ⟨(h cell hcell).1.congr hframe, (h cell hcell).2.congr hframe⟩

/-- Every formula of a predictable workbook is one that can be calculated. -/
theorem Predictable.calculable (h : Predictable book) {cell : FormulaCell}
    (hcell : cell ∈ formulaCells book) : Calculable book cell := by
  obtain ⟨entry, hentry, -, hsheet, hposition⟩ := exists_entry_of_formula_cell hcell
  refine ⟨?_, (h cell hcell).1, (h cell hcell).2⟩
  rw [hsheet, hposition, mem_entries_iff.mp hentry]
  rfl

end Formulas

/-- Building a chain again does not change it while sheets and names stay. -/
theorem build_build {book other : Workbook} (h : book.SameFrame other) (chain : Chain) :
    (chain.build book).build other = chain.build book := by
  have hscan : FormulaCell.references other = FormulaCell.references book :=
    funext fun cell => (h.references _ _).symm
  rw [Chain.build, hscan]
  rfl

/-- Whether the formulas of a workbook are in the chain, in calculation order, and store what they
are worth as far as they stand before a place. -/
structure ConsistentBefore (iterative : Bool) (limit : Nat) (state : State) : Prop where
  registered : state.chain.registered.toList = formulaCells state.workbook
  built : state.chain = state.chain.build state.workbook
  unreadable : ∀ entry ∈ entries state.workbook, entry.readable = none →
    state.workbook.result? entry.sheet entry.position = some (.error .name)
  settles : ∀ place < limit, ∀ cell, state.chain.cell? place = some cell →
    state.chain.isCircular place = false → Settles state.workbook cell
  refused : ∀ place cell, state.chain.cell? place = some cell →
    state.chain.isCircular place = true → iterative = false →
    state.workbook.result? cell.id.sheet cell.id.position = some (.error .reference)

/-- Whether all of them do. -/
def Consistent (iterative : Bool) (state : State) : Prop :=
  ∀ limit, ConsistentBefore iterative limit state

namespace Consistent

variable {iterative : Bool} {state : State} (h : Consistent iterative state)
include h

/-- The chain holds the formulas of the workbook. -/
theorem registered : state.chain.registered.toList = formulaCells state.workbook :=
  (h 0).registered

/-- The chain is in order. -/
theorem built : state.chain = state.chain.build state.workbook := (h 0).built

/-- Formulas that cannot be read show that. -/
theorem unreadable {entry : Entry} (hentry : entry ∈ entries state.workbook)
    (hnone : entry.readable = none) :
    state.workbook.result? entry.sheet entry.position = some (.error .name) :=
  (h 0).unreadable entry hentry hnone

/-- A cell on no cycle stores its value. -/
theorem settles {place : Nat} {cell : FormulaCell} (hcell : state.chain.cell? place = some cell)
    (hfree : state.chain.isCircular place = false) : Settles state.workbook cell :=
  (h (place + 1)).settles place (Nat.lt_succ_self place) cell hcell hfree

/-- A cell on a cycle shows that, unless cycles are iterated. -/
theorem refused {place : Nat} {cell : FormulaCell} (hcell : state.chain.cell? place = some cell)
    (hcircle : state.chain.isCircular place = true) (hiterative : iterative = false) :
    state.workbook.result? cell.id.sheet cell.id.position = some (.error .reference) :=
  (h 0).refused place cell hcell hcircle hiterative

end Consistent

/-- The formula cells of a workbook are different cells of the grid. -/
theorem formula_cells_nodup (book : Workbook) :
    ((formulaCells book).map FormulaCell.id).Nodup := by
  refine List.pairwise_map.mpr (List.Pairwise.filterMap _ ?_
    (List.Pairwise.and_mem.mp (entries_fresh book).pairwise))
  rintro left right ⟨-, -, hne⟩ first hfirst second hsecond hid
  obtain ⟨hsheet, hposition⟩ := left.is_at_of_readable hfirst
  obtain ⟨hotherSheet, hotherPosition⟩ := right.is_at_of_readable hsecond
  rw [← hid] at hotherSheet hotherPosition
  exact hne ⟨hsheet.symm.trans hotherSheet, hposition.symm.trans hotherPosition⟩

/-- A chain that was built for exactly the formulas of a workbook is chained over it. -/
theorem chained_of_registered {state : State}
    (hregistered : state.chain.registered.toList = formulaCells state.workbook)
    (hbuilt : state.chain = state.chain.build state.workbook) :
    Chained state.chain state.workbook state := by
  refine ⟨?_, hbuilt, ⟨rfl, rfl, rfl⟩⟩
  rw [Chain.Distinct, hregistered]
  exact formula_cells_nodup _

/-- What holds no formula has no result. -/
theorem result_of_text_none {book : Workbook} {sheet : Nat} {position : Position}
    (h : (book.content sheet position).formulaText = none) :
    book.result? sheet position = none := by
  rw [Workbook.result?]
  cases hcontent : book.content sheet position with
  | formula source result => simp [hcontent, Cell.formulaText] at h
  | _ => rfl

namespace ConsistentBefore

variable {left right : State} {iterative : Bool} {limit : Nat}

/-- Consistent workbooks into which the same was put have the same chain. -/
theorem chain_eq (hleft : ConsistentBefore iterative limit left)
    (hright : ConsistentBefore iterative limit right)
    (hinputs : left.workbook.inputs = right.workbook.inputs) : left.chain = right.chain := by
  have hregistered : left.chain.registered = right.chain.registered := by
    rw [← Array.toList_inj, hleft.registered, hright.registered, formula_cells_congr hinputs]
  have hscan : FormulaCell.references left.workbook = FormulaCell.references right.workbook :=
    funext fun cell => Pass.references_congr hinputs cell
  rw [hleft.built, hright.built, Chain.build, Chain.build, Chain.buildBy, Chain.buildBy,
    hregistered, hscan]

/-- Such workbooks have the same result in a cell unless they differ in a formula cell there. -/
theorem result_eq (hleft : ConsistentBefore iterative limit left)
    (hright : ConsistentBefore iterative limit right)
    (hinputs : left.workbook.inputs = right.workbook.inputs) {sheet : Nat} {position : Position}
    (hcell : ∀ place cell, left.chain.cell? place = some cell → cell.IsAt sheet position →
      left.workbook.result? cell.id.sheet cell.id.position =
        right.workbook.result? cell.id.sheet cell.id.position) :
    left.workbook.result? sheet position = right.workbook.result? sheet position := by
  cases htext : (left.workbook.content sheet position).formulaText with
  | none =>
      rw [result_of_text_none htext]
      rw [Workbook.formula_text_eq hinputs] at htext
      rw [result_of_text_none htext]
  | some source =>
      -- a formula cannot be read, or it is a formula cell and has a place in the chain
      have hentry : Entry.mk sheet position source ∈ entries left.workbook :=
        mem_entries_iff.mpr htext
      cases hreadable : Entry.readable ⟨sheet, position, source⟩ with
      | none =>
          rw [hleft.unreadable _ hentry hreadable]
          rw [entries_congr hinputs] at hentry
          exact (hright.unreadable _ hentry hreadable).symm
      | some cell =>
          have hat := Entry.is_at_of_readable hreadable
          have hmem : cell ∈ left.chain.registered.toList := by
            rw [hleft.registered]
            exact List.mem_filterMap.mpr ⟨_, hentry, hreadable⟩
          obtain ⟨place, hplace⟩ := Chain.exists_place_of_mem hmem
          rw [hleft.built] at hcell
          have hsame := hcell place cell hplace hat
          rwa [hat.1, hat.2] at hsame

/-- A cell on a cycle has the same result in both. -/
theorem refused_eq (hleft : ConsistentBefore false limit left)
    (hright : ConsistentBefore false limit right) (hchain : left.chain = right.chain) {place : Nat}
    {cell : FormulaCell} (hcell : left.chain.cell? place = some cell)
    (hcircle : left.chain.isCircular place = true) :
    left.workbook.result? cell.id.sheet cell.id.position =
      right.workbook.result? cell.id.sheet cell.id.position := by
  rw [hleft.refused place cell hcell hcircle rfl]
  rw [hchain] at hcell hcircle
  exact (hright.refused place cell hcell hcircle rfl).symm

/-- A cell on no cycle has the same result in both if it reads the same in both. -/
theorem settled_eq (hleft : ConsistentBefore iterative limit left)
    (hright : ConsistentBefore iterative limit right)
    (hinputs : left.workbook.inputs = right.workbook.inputs) (hchain : left.chain = right.chain)
    {place : Nat} (hlimit : place < limit) {cell : FormulaCell}
    (hcell : left.chain.cell? place = some cell)
    (hfree : left.chain.isCircular place = false) (hcalculable : Calculable left.workbook cell)
    (hshown : ∀ sheet position, (cell.references left.workbook).reads sheet position = true →
      left.workbook.shown sheet position = right.workbook.shown sheet position)
    (setting : Setting) :
    left.workbook.result? cell.id.sheet cell.id.position =
      right.workbook.result? cell.id.sheet cell.id.position := by
  have hvalue := hcalculable.evaluate_in_congr hinputs hshown setting setting 0 0
  obtain ⟨result, hresult, hstored⟩ := hleft.settles place hlimit cell hcell hfree setting 0
  rw [hchain] at hcell hfree
  obtain ⟨other, hother, hotherStored⟩ := hright.settles place hlimit cell hcell hfree setting 0
  rw [hvalue, hother] at hresult
  rw [hstored, hotherStored, hresult]

/-- What a cell on no cycle reads is the same in both if the earlier cells are. -/
theorem shown_eq (hleft : ConsistentBefore false limit left)
    (hright : ConsistentBefore false limit right)
    (hinputs : left.workbook.inputs = right.workbook.inputs) {place : Nat} {cell : FormulaCell}
    (hcell : left.chain.cell? place = some cell) (hfree : left.chain.isCircular place = false)
    (hearlier : ∀ target < place, ∀ read, left.chain.cell? target = some read →
      left.workbook.result? read.id.sheet read.id.position =
        right.workbook.result? read.id.sheet read.id.position) {sheet : Nat} {position : Position}
    (hreads : (cell.references left.workbook).reads sheet position = true) :
    left.workbook.shown sheet position = right.workbook.shown sheet position := by
  have hchain := hleft.chain_eq hright hinputs
  have hchained := chained_of_registered hleft.registered hleft.built
  refine Workbook.shown_eq_of_result_eq hinputs (hleft.result_eq hright hinputs ?_)
  intro target read hread hat
  rw [← hat.1, ← hat.2] at hreads
  have hprecedent := (hchained.reads_iff hcell hread).mp hreads
  -- a cell on no cycle reads earlier ones and cells on cycles
  cases htarget : left.chain.isCircular target with
  | true => exact hleft.refused_eq hright hchain hread htarget
  | false =>
      refine hearlier target ?_ read hread
      rw [hleft.built] at hprecedent hfree htarget
      exact Chain.lt_of_mem_precedents hprecedent hfree htarget

/-- A cell at a place of the chain is one of the formulas. -/
theorem mem_formula_cells (h : ConsistentBefore iterative limit left) {place : Nat}
    {cell : FormulaCell} (hcell : left.chain.cell? place = some cell) :
    cell ∈ formulaCells left.workbook := by
  rw [← h.registered]
  exact Chain.mem_registered_of_cell hcell

/-- Every formula cell before the place has the same result in both. -/
theorem place_eq (hleft : ConsistentBefore false limit left)
    (hright : ConsistentBefore false limit right)
    (hinputs : left.workbook.inputs = right.workbook.inputs)
    (hpredictable : Predictable left.workbook) (setting : Setting) (place : Nat)
    (hlimit : place < limit) {cell : FormulaCell} (hcell : left.chain.cell? place = some cell) :
    left.workbook.result? cell.id.sheet cell.id.position =
      right.workbook.result? cell.id.sheet cell.id.position := by
  have hchain := hleft.chain_eq hright hinputs
  -- by induction along the order
  induction place using Nat.strong_induction_on generalizing cell with
  | _ place ih =>
      cases hcircle : left.chain.isCircular place with
      | true => exact hleft.refused_eq hright hchain hcell hcircle
      | false =>
          refine hleft.settled_eq hright hinputs hchain hlimit hcell hcircle
            (hpredictable.calculable (hleft.mem_formula_cells hcell)) (fun _ _ hreads => ?_) setting
          exact hleft.shown_eq hright hinputs hcell hcircle
            (fun target htarget read hread => ih target htarget (htarget.trans hlimit) hread) hreads

end ConsistentBefore

namespace Consistent

variable {left right : State}

/-- What was put into a workbook determines the results that make it consistent. -/
theorem workbook_eq (hleft : Consistent false left) (hright : Consistent false right)
    (hinputs : left.workbook.inputs = right.workbook.inputs)
    (hpredictable : Predictable left.workbook) (setting : Setting) :
    left.workbook = right.workbook :=
  Workbook.eq_of_result_eq hinputs fun _ _ => (hleft 0).result_eq (hright 0) hinputs
    fun place _ hcell _ => (hleft (place + 1)).place_eq (hright (place + 1)) hinputs hpredictable
      setting place (Nat.lt_succ_self place) hcell

/-- Where a workbook is consistent, no cell is stuck in one into which the same was put, with the
earlier cells calculated: the cell would read the same in both. -/
theorem not_stuck_at (hleft : Consistent false left) {place : Nat}
    (hright : ConsistentBefore false place right)
    (hinputs : left.workbook.inputs = right.workbook.inputs)
    (hpredictable : Predictable left.workbook) (setting : Setting)
    (hfree : right.chain.isCircular place = false) : ¬ StuckAt right place := by
  rintro ⟨cell, hcell, hstuck⟩
  rw [← (hleft place).chain_eq hright hinputs] at hcell hfree
  have hcalculable := hpredictable.calculable ((hleft place).mem_formula_cells hcell)
  refine Stuck.not_settles ((hcalculable.congr hinputs).stuck_congr hinputs.symm
    (fun sheet position hreads => ?_) hstuck) setting (hleft.settles hcell hfree)
  rw [← Pass.references_congr hinputs] at hreads
  exact ((hleft place).shown_eq hright hinputs hcell hfree (fun target htarget _ hread =>
    (hleft place).place_eq hright hinputs hpredictable setting target htarget hread) hreads).symm

end Consistent

end Spreadsheet.Calculation
