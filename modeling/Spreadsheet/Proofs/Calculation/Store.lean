import Mathlib.Data.List.Basic
import Spreadsheet.Calculation.Pass
import Spreadsheet.Proofs.Evaluation.Locality

/-!
# Storing results

A workbook is what was put into it, `Workbook.inputs`, and the results that passes have stored in
its formulas. The main theorems are `store_in_spec`, which says that storing a result changes that
result and nothing else, and `eq_of_result_eq`, which says that two workbooks with the same inputs
and the same results are the same.
-/

namespace Spreadsheet

namespace Cell

/-- The cell without the result of its formula. -/
def input : Cell → Cell
  | formula source _ => formula source none
  | constant => constant

/-- The input of a cell is empty exactly if the cell is. -/
@[simp] theorem is_empty_input (content : Cell) : content.input.isEmpty = content.isEmpty := by
  cases content <;> rfl

/-- The input of a cell keeps the text of its formula. -/
@[simp] theorem formula_text_input (content : Cell) :
    content.input.formulaText = content.formulaText := by
  cases content <;> rfl

/-- The last result of a formula. -/
def result? : Cell → Option Cell
  | formula _ result => result
  | _ => none

/-- A cell is its input with its result. -/
theorem eq_of_input_eq {left right : Cell} (hinput : left.input = right.input)
    (hresult : left.result? = right.result?) : left = right := by
  cases left <;> cases right <;> simp_all [input, result?]

/-- A cell with the text of a formula holds that formula, with or without a result. -/
theorem eq_formula_of_text {content : Cell} {source : String}
    (h : content.formulaText = some source) : ∃ result, content = .formula source result := by
  cases content with
  | formula found result => exact ⟨result, by simpa [formulaText] using h⟩
  | _ => simp [formulaText] at h

end Cell

namespace Worksheet

/-- The sheet without the results of its formulas. -/
def inputs (sheet : Worksheet) : Worksheet where
  name := sheet.name
  cells := sheet.cells.map fun _ content => content.input
  hiddenRows := sheet.hiddenRows
  fits position content h := by
    rw [Std.ExtTreeMap.getElem?_map, Option.map_eq_some_iff] at h
    obtain ⟨stored, hstored, rfl⟩ := h
    have hfits := sheet.fits position stored hstored
    exact ⟨hfits.1, by simpa using hfits.2⟩

/-- Every cell that a worksheet keeps is kept among its inputs with its own input. -/
theorem get_inputs (sheet : Worksheet) (position : Position) :
    sheet.inputs.cells[position]? = (sheet.cells[position]?).map Cell.input := by
  simp [inputs]

/-- The inputs of a worksheet have the input of each of its cells. -/
theorem cell_inputs (sheet : Worksheet) (position : Position) :
    sheet.inputs.cell position = (sheet.cell position).input := by
  rw [cell, get_inputs, cell]
  cases sheet.cells[position]? <;> rfl

/-- Two sheets are the same if they have the same name, the same hidden rows and the same cells. -/
theorem eq_of_cell_eq {left right : Worksheet} (hname : left.name = right.name)
    (hhidden : left.hiddenRows = right.hiddenRows)
    (hcell : ∀ position, left.cell position = right.cell position) : left = right := by
  obtain ⟨name, cells, hidden, hfits⟩ := left
  obtain ⟨otherName, otherCells, otherHidden, hotherFits⟩ := right
  obtain rfl : name = otherName := hname
  obtain rfl : hidden = otherHidden := hhidden
  have hcells : cells = otherCells := by
    refine Std.ExtTreeMap.ext_getElem? fun position => ?_
    have h := hcell position
    simp only [cell] at h
    cases hleft : cells[position]? with
    | none =>
        cases hright : otherCells[position]? with
        | none => rfl
        | some stored =>
            simp only [hleft, hright, Option.getD_none, Option.getD_some] at h
            -- a stored cell is not blank, unlike one that is missing
            have hblank := (hotherFits position stored hright).2
            rw [← h] at hblank
            cases hblank
    | some stored =>
        cases hright : otherCells[position]? with
        | none =>
            simp only [hleft, hright, Option.getD_none, Option.getD_some] at h
            have hblank := (hfits position stored hleft).2
            rw [h] at hblank
            cases hblank
        | some other =>
            simp only [hleft, hright, Option.getD_some] at h
            rw [h]
  subst hcells
  rfl

/-- Storing the result of a formula changes this result and nothing else. -/
theorem store_result_spec {sheet : Worksheet} {position : Position} {source : String}
    {before : Option Cell} (h : sheet.cell position = .formula source before) (result : Cell) :
    ∃ after, sheet.storeResult position result = .ok after ∧ after.inputs = sheet.inputs ∧
      ∀ other, after.cell other =
        if other = position then .formula source (some result) else sheet.cell other := by
  have hstored : sheet.cells[position]? = some (.formula source before) := by
    cases hfound : sheet.cells[position]? with
    | none => simp [cell, hfound] at h
    | some content => simpa [cell, hfound] using h
  have hfit : Cell.FitsAt (.formula source (some result)) position :=
    ⟨(sheet.fits _ _ hstored).1, rfl⟩
  have hcell : ∀ other, (sheet.insert position (.formula source (some result)) hfit).cell other =
      if other = position then .formula source (some result) else sheet.cell other := by
    intro other
    by_cases hother : other = position
    · simp [cell, insert, hother]
    · simp [cell, insert, Std.ExtTreeMap.getElem?_insert, Std.LawfulEqCmp.compare_eq_iff_eq, hother,
        Ne.symm hother]
  refine ⟨sheet.insert position (.formula source (some result)) hfit, ?_, ?_, hcell⟩
  · unfold storeResult
    split
    · rename_i source' before' hfound
      rw [hstored] at hfound
      cases hfound
      rfl
    · rename_i hnone
      exact absurd hstored (hnone source before)
  · refine eq_of_cell_eq rfl rfl fun other => ?_
    rw [cell_inputs, cell_inputs, hcell]
    split
    · rename_i hother
      rw [hother, h]
      rfl
    · rfl

end Worksheet

namespace Workbook

/-- The workbook without the results of its formulas. -/
def inputs (book : Workbook) : Workbook := { book with sheets := book.sheets.map Worksheet.inputs }

/-- The cell at a position of a sheet; sheets that do not exist hold blanks. -/
def content (book : Workbook) (sheet : Nat) (position : Position) : Cell :=
  ((book.sheet? sheet).map fun found => found.cell position).getD .empty

/-- The last result of the formula at a position of a sheet. -/
def result? (book : Workbook) (sheet : Nat) (position : Position) : Option Cell :=
  (book.content sheet position).result?

/-- A cell shows the result of its formula if it has one, and else its content. -/
theorem shown_eq (book : Workbook) (sheet : Nat) (position : Position) :
    book.shown sheet position = (book.content sheet position).effective := by
  unfold shown content
  cases book.sheet? sheet <;> rfl

/-- The inputs of a workbook have the input of each of its cells. -/
theorem content_inputs (book : Workbook) (sheet : Nat) (position : Position) :
    book.inputs.content sheet position = (book.content sheet position).input := by
  cases hsheet : book.sheets[sheet]? with
  | none => simp [content, sheet?, inputs, hsheet, Cell.input]
  | some found => simp [content, sheet?, inputs, hsheet, Worksheet.cell_inputs]

/-- The formulas of a sheet by their positions. -/
def formulaTable (book : Workbook) (sheet : Nat) : Std.ExtTreeMap Position String Position.order :=
  ((book.sheet? sheet).map fun found =>
    found.cells.filterMap fun _ content => content.formulaText).getD ∅

/-- The table of formulas of a sheet has the text of a formula exactly where one stands. -/
theorem get_formula_table (book : Workbook) (sheet : Nat) (position : Position) :
    (book.formulaTable sheet)[position]? = (book.content sheet position).formulaText := by
  cases hsheet : book.sheets[sheet]? with
  | none => simp [formulaTable, content, sheet?, hsheet, Cell.formulaText]
  | some found =>
      simp only [formulaTable, content, sheet?, hsheet, Option.map_some, Option.getD_some,
        Worksheet.cell]
      rw [Std.ExtTreeMap.getElem?_filterMap']
      cases found.cells[position]? <;> rfl

/-- The formulas of a sheet are listed as they are in its table. -/
theorem formulas_eq_table (book : Workbook) (sheet : Nat) :
    book.formulas sheet = (book.formulaTable sheet).toList := by
  cases hsheet : book.sheets[sheet]? with
  | none => simp [formulas, formulaTable, sheet?, hsheet]
  | some found =>
      simp [formulas, formulaTable, sheet?, hsheet, Worksheet.formulas,
        Std.ExtTreeMap.toList_filterMap]

/-- The formulas of a sheet are the formulas in its cells. -/
theorem mem_formulas_iff {book : Workbook} {sheet : Nat} {position : Position} {source : String} :
    (position, source) ∈ book.formulas sheet ↔
      (book.content sheet position).formulaText = some source := by
  rw [formulas_eq_table, Std.ExtTreeMap.mem_toList_iff_getElem?_eq_some, get_formula_table]

/-- The formulas of a sheet depend on nothing but the formulas in its cells. -/
theorem formulas_congr {left right : Workbook} {sheet : Nat}
    (h : ∀ position, (left.content sheet position).formulaText =
      (right.content sheet position).formulaText) : left.formulas sheet = right.formulas sheet := by
  have htable : left.formulaTable sheet = right.formulaTable sheet := by
    refine Std.ExtTreeMap.ext_getElem? fun position => ?_
    rw [get_formula_table, get_formula_table, h]
  rw [formulas_eq_table, formulas_eq_table, htable]

/-- Formulas stand on sheets of the workbook, inside the grid. -/
theorem place_of_formula {book : Workbook} {sheet : Nat} {position : Position} {source : String}
    (h : (book.content sheet position).formulaText = some source) :
    sheet < book.sheetCount ∧ position.InGrid := by
  cases hsheet : book.sheets[sheet]? with
  | none => simp [content, sheet?, hsheet, Cell.formulaText] at h
  | some found =>
      refine ⟨(List.getElem?_eq_some_iff.mp hsheet).1, ?_⟩
      simp only [content, sheet?, hsheet, Option.map_some, Option.getD_some, Worksheet.cell] at h
      cases hstored : found.cells[position]? with
      | none => simp [hstored, Cell.formulaText] at h
      | some content => exact (found.fits position content hstored).1

/-- No two formulas of a sheet stand in one cell. -/
theorem formulas_pairwise (book : Workbook) (sheet : Nat) :
    (book.formulas sheet).Pairwise fun left right => left.1 ≠ right.1 := by
  rw [formulas_eq_table]
  refine (book.formulaTable sheet).distinct_keys_toList.imp ?_
  rintro left right hne hsame
  exact hne (Std.LawfulEqCmp.compare_eq_iff_eq.mpr hsame)

section Inputs

variable {left right : Workbook} (h : left.inputs = right.inputs)
include h

/-- Workbooks with the same inputs have the same frame. -/
theorem same_frame_of_inputs : left.SameFrame right where
  sheetNames := by
    have hnames := congrArg (fun book => book.sheets.map Worksheet.name) h
    simpa [inputs, Worksheet.inputs, Function.comp_def] using hnames
  names := (congrArg Workbook.names h :)
  dateSystem := (congrArg Workbook.dateSystem h :)

/-- Workbooks with the same inputs have the same input in each cell. -/
theorem content_input_eq (sheet : Nat) (position : Position) :
    (left.content sheet position).input = (right.content sheet position).input := by
  rw [← content_inputs, ← content_inputs, h]

/-- Workbooks with the same inputs have the same formula in each cell. -/
theorem formula_text_eq (sheet : Nat) (position : Position) :
    (left.content sheet position).formulaText = (right.content sheet position).formulaText := by
  rw [← Cell.formula_text_input, content_input_eq h, Cell.formula_text_input]

/-- Workbooks with the same inputs have the same formulas on each sheet. -/
theorem formulas_eq (sheet : Nat) : left.formulas sheet = right.formulas sheet :=
  formulas_congr (formula_text_eq h sheet)

/-- Workbooks with the same inputs have equally many sheets. -/
theorem sheet_count_eq : left.sheetCount = right.sheetCount :=
  (same_frame_of_inputs h).sheet_count

/-- With the same inputs, a cell is the same in both workbooks if its result is. -/
theorem content_eq {sheet : Nat} {position : Position}
    (hresult : left.result? sheet position = right.result? sheet position) :
    left.content sheet position = right.content sheet position :=
  Cell.eq_of_input_eq (content_input_eq h sheet position) hresult

/-- With the same inputs, a cell shows the same in both workbooks if its result is the same. -/
theorem shown_eq_of_result_eq {sheet : Nat} {position : Position}
    (hresult : left.result? sheet position = right.result? sheet position) :
    left.shown sheet position = right.shown sheet position := by
  rw [shown_eq, shown_eq, content_eq h hresult]

/-- Two workbooks with the same inputs and the same results are the same. -/
theorem eq_of_result_eq
    (hresult : ∀ sheet position, left.result? sheet position = right.result? sheet position) :
    left = right := by
  have hsheets : left.sheets = right.sheets := by
    refine List.ext_getElem (sheet_count_eq h) fun index hleft hright => ?_
    have hinputs : left.sheets[index].inputs = right.sheets[index].inputs := by
      have hget := congrArg (fun book => book.sheets[index]?) h
      simpa [inputs, hleft, hright] using hget
    have hcell : ∀ position,
        left.sheets[index].cell position = right.sheets[index].cell position := by
      intro position
      simpa [content, sheet?, hleft, hright] using content_eq h (hresult index position)
    exact Worksheet.eq_of_cell_eq (congrArg Worksheet.name hinputs :)
      (congrArg Worksheet.hiddenRows hinputs :) hcell
  have hnames := (same_frame_of_inputs h).names
  have hdates := (same_frame_of_inputs h).dateSystem
  obtain ⟨sheets, names, dates⟩ := left
  obtain ⟨otherSheets, otherNames, otherDates⟩ := right
  simp_all

end Inputs

end Workbook

namespace Calculation

/-- What storing a result does to a workbook. -/
structure Stores (sheet : Nat) (position : Position) (result : Cell) (before after : Workbook) :
    Prop where
  inputs : after.inputs = before.inputs
  result : after.result? sheet position = some result
  others : ∀ other place, ¬ (other = sheet ∧ place = position) →
    after.result? other place = before.result? other place

/-- The result of a formula can be stored. -/
theorem store_in_spec {book : Workbook} {sheet : Nat} {position : Position} {source : String}
    (h : (book.content sheet position).formulaText = some source) (result : Cell) :
    ∃ after, storeIn book sheet position result = .ok after ∧
      Stores sheet position result book after := by
  cases hsheet : book.sheets[sheet]? with
  | none => simp [Workbook.content, Workbook.sheet?, hsheet, Cell.formulaText] at h
  | some found =>
      obtain ⟨hlt, rfl⟩ := List.getElem?_eq_some_iff.mp hsheet
      obtain ⟨before, hcell⟩ := Cell.eq_formula_of_text h
      simp only [Workbook.content, Workbook.sheet?, hsheet, Option.map_some, Option.getD_some]
        at hcell
      obtain ⟨written, hwritten, hinputs, hcells⟩ := Worksheet.store_result_spec hcell result
      refine ⟨book.setSheet sheet written, ?_, ?_, ?_, ?_⟩
      · simp [storeIn, Workbook.sheet?, hsheet, hwritten]
      · have hsame : (book.sheets.map Worksheet.inputs).set sheet book.sheets[sheet].inputs =
            book.sheets.map Worksheet.inputs := by
          rw [← List.map_set, List.set_getElem_self]
        simp [Workbook.inputs, Workbook.setSheet, List.map_set, hinputs, hsame]
      · simp [Workbook.result?, Workbook.content, Workbook.sheet?, Workbook.setSheet, hlt, hcells,
          Cell.result?]
      · intro other place hother
        by_cases hsame : other = sheet
        · subst hsame
          have hplace : place ≠ position := fun h => hother ⟨rfl, h⟩
          simp [Workbook.result?, Workbook.content, Workbook.sheet?, Workbook.setSheet, hlt, hcells,
            hplace]
        · simp [Workbook.result?, Workbook.content, Workbook.sheet?, Workbook.setSheet,
            Ne.symm hsame]

end Calculation

end Spreadsheet
