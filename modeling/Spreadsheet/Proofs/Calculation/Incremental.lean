import Spreadsheet.Proofs.Calculation.FullPass

/-!
# Incremental passes

After cells without formulas have been edited, a pass over the formulas that depend on them is as
good as a full one. The main theorem, `recalculate_eq_calculate`, says that both leave the same
workbook, and that both are broken off where one is.
-/

namespace Spreadsheet.Calculation

open Dependency (Chain FormulaCell)

/-- Whether a workbook comes from another one by edits of some cells that hold no formula, neither
before nor after. -/
structure Edited (changed : List CellId) (before after : Workbook) : Prop where
  frame : before.SameFrame after
  hiddenRows : before.sheets.map Worksheet.hiddenRows = after.sheets.map Worksheet.hiddenRows
  cells : ∀ sheet position, before.content sheet position ≠ after.content sheet position →
    (∃ id ∈ changed, id.sheet = sheet ∧ id.position = position) ∧
      (before.content sheet position).formulaText = none ∧
      (after.content sheet position).formulaText = none

namespace Edited

variable {changed : List CellId} {before after : Workbook} (h : Edited changed before after)
include h

/-- An edit of cells without formulas changes the text of no formula. -/
theorem text_eq (sheet : Nat) (position : Position) :
    (before.content sheet position).formulaText = (after.content sheet position).formulaText := by
  by_cases hsame : before.content sheet position = after.content sheet position
  · rw [hsame]
  · obtain ⟨-, hbefore, hafter⟩ := h.cells sheet position hsame
    rw [hbefore, hafter]

/-- Formulas keep their results. -/
theorem result_eq (sheet : Nat) (position : Position) :
    before.result? sheet position = after.result? sheet position := by
  by_cases hsame : before.content sheet position = after.content sheet position
  · rw [Workbook.result?, hsame, Workbook.result?]
  · obtain ⟨-, hbefore, hafter⟩ := h.cells sheet position hsame
    rw [result_of_text_none hbefore, result_of_text_none hafter]

/-- An edit of cells without formulas leaves the formulas of the workbook as they are. -/
theorem entries_eq : entries before = entries after :=
  entries_eq_of_text_eq h.frame.sheet_count h.text_eq

/-- An edit of cells without formulas leaves the formulas to calculate as they are. -/
theorem formula_cells_eq : formulaCells before = formulaCells after := by
  rw [formulaCells, formulaCells, h.entries_eq]

/-- What does not read a changed cell sees no difference. -/
theorem shown_eq {cell : FormulaCell} (hreads : ∀ id ∈ changed,
      (cell.references before).reads id.sheet id.position = false) {sheet : Nat}
    {position : Position}
    (hread : (cell.references before).reads sheet position = true) :
    before.shown sheet position = after.shown sheet position := by
  have hsame : before.content sheet position = after.content sheet position := by
    by_contra hdiffer
    obtain ⟨⟨id, hid, rfl, rfl⟩, -⟩ := h.cells sheet position hdiffer
    rw [hreads id hid] at hread
    cases hread
  rw [Workbook.shown_eq, Workbook.shown_eq, hsame]

/-- An edit of cells without formulas leaves a workbook predictable. -/
theorem predictable (hpredictable : Predictable before) : Predictable after := by
  intro cell hcell
  rw [← h.formula_cells_eq] at hcell
  obtain ⟨hsteady, hcovered⟩ := hpredictable cell hcell
  refine ⟨hsteady.congr h.frame, hcovered.congr h.frame⟩

/-- A cell that reads no changed cell keeps its value. -/
theorem settles {cell : FormulaCell} (hcovered : ReadsCovered before cell)
    (hreads : ∀ id ∈ changed, (cell.references before).reads id.sheet id.position = false)
    (hsettles : Settles before cell) : Settles after cell := by
  intro setting draw
  obtain ⟨result, hvalue, hresult⟩ := hsettles setting draw
  refine ⟨result, ?_, ?_⟩
  · rw [← hvalue, hcovered before after ⟨rfl, rfl, rfl⟩ h.frame (fun _ _ => h.shown_eq hreads)
      setting draw]
  · rw [← h.result_eq, hresult]

end Edited

/-- Writing a cell that holds no formula, neither before nor after, is such an edit. -/
theorem edited_of_insert {book : Workbook} {id : CellId} {sheet : Worksheet}
    (hsheet : book.sheet? id.sheet = some sheet)
    (hbefore : (sheet.cell id.position).formulaText = none) {content : Cell}
    (hcontent : content.formulaText = none) (hfits : content.FitsAt id.position) :
    Edited [id] book (book.setSheet id.sheet (sheet.insert id.position content hfits)) := by
  obtain ⟨hlt, rfl⟩ := List.getElem?_eq_some_iff.mp hsheet
  let edited := book.sheets[id.sheet].insert id.position content hfits
  -- what is read off sheets one by one stays if it does on the edited one
  have hsame : ∀ {α : Type} (part : Worksheet → α), part edited = part book.sheets[id.sheet] →
      (book.sheets.set id.sheet edited).map part = book.sheets.map part := by
    intro α part hpart
    rw [List.map_set, hpart, ← List.map_set, List.set_getElem_self]
  refine ⟨⟨(hsame _ rfl).symm, rfl, rfl⟩, (hsame _ rfl).symm, fun on position hdiffer => ?_⟩
  have hat : id.sheet = on ∧ id.position = position := by
    by_contra hother
    refine hdiffer ?_
    by_cases hon : on = id.sheet
    · subst hon
      have hposition : id.position ≠ position := fun h => hother ⟨rfl, h⟩
      simp [Workbook.content, Workbook.sheet?, Workbook.setSheet, hlt, Worksheet.cell,
        Worksheet.insert, Std.ExtTreeMap.getElem?_insert, Std.LawfulEqCmp.compare_eq_iff_eq,
        hposition]
    · simp [Workbook.content, Workbook.sheet?, Workbook.setSheet, Ne.symm hon]
  obtain ⟨rfl, rfl⟩ := hat
  refine ⟨⟨id, by simp⟩, ?_, ?_⟩
  · simpa [Workbook.content, Workbook.sheet?, hlt] using hbefore
  · simpa [Workbook.content, Workbook.sheet?, Workbook.setSheet, hlt, Worksheet.cell,
      Worksheet.insert] using hcontent

/-- Whether a state works on the chain of a consistent one, on a workbook that has been edited
since. -/
structure Outdated (changed : List CellId) (before state : State) : Prop where
  consistent : Consistent false before
  predictable : Predictable before.workbook
  sheets : before.workbook.sheetCount ≤ CellId.sheetLimit
  edited : Edited changed before.workbook state.workbook
  chain : state.chain = before.chain

namespace Outdated

variable {changed : List CellId} {before state after : State} (h : Outdated changed before state)
  {withVolatile : Bool} {place : Nat} {cell : FormulaCell}
include h

/-- The chain still fits the workbook. -/
theorem chained : Chained before.chain before.workbook state :=
  ⟨(chained_of_registered h.consistent.registered h.consistent.built).distinct,
    h.chain.trans h.consistent.built, h.edited.frame⟩

/-- The edited workbook has no more sheets than the chain can hold. -/
theorem sheets_edited : state.workbook.sheetCount ≤ CellId.sheetLimit := by
  rw [← h.edited.frame.sheet_count]
  exact h.sheets

/-- The cells of the chain were formulas of the workbook before the edit. -/
theorem mem_formula_cells (hcell : state.chain.cell? place = some cell) :
    cell ∈ formulaCells before.workbook := by
  rw [h.chain] at hcell
  rw [← h.consistent.registered]
  exact Chain.mem_registered_of_cell hcell

/-- The cells of the chain can be calculated in the edited workbook. -/
theorem calculable (hcell : state.chain.cell? place = some cell) :
    Calculable state.workbook cell := by
  refine (h.edited.predictable h.predictable).calculable ?_
  rw [← h.edited.formula_cells_eq]
  exact h.mem_formula_cells hcell

/-- A place that is not calculated again reads no changed cell. -/
theorem reads_no_change (hcell : state.chain.cell? place = some cell)
    (hplace : place ∉ state.chain.recalculationOrder changed withVolatile) :
    ∀ id ∈ changed, (cell.references before.workbook).reads id.sheet id.position = false := by
  intro id hid
  rw [h.chain, h.consistent.built] at hcell hplace
  by_contra hreads
  exact hplace (Chain.mem_recalculation_order_of_reads hcell hid (by simpa using hreads))

/-- A place that is not calculated again keeps its value: neither what was edited nor what is
calculated again is read there. -/
theorem settles_left_out (hcell : state.chain.cell? place = some cell)
    (hfree : state.chain.isCircular place = false)
    (hplace : place ∉ state.chain.recalculationOrder changed withVolatile)
    (htouches : Touches ((state.chain.recalculationOrder changed withVolatile).filterMap
      state.chain.cell?) state after) : Settles after.workbook cell := by
  have hbefore : Settles before.workbook cell := by
    rw [h.chain] at hcell hfree
    exact h.consistent.settles hcell hfree
  have hnow := h.edited.settles (h.predictable cell (h.mem_formula_cells hcell)).2
    (h.reads_no_change hcell hplace) hbefore
  refine h.chained.settles htouches hcell (h.calculable hcell) hnow hplace fun other hother => ?_
  rw [h.chain, h.consistent.built] at hplace hother ⊢
  exact Chain.not_mem_precedents_of_recalculation hplace hother

/-- A place on a cycle that is not calculated again keeps the error value of a cycle. -/
theorem refused_left_out (hcell : state.chain.cell? place = some cell)
    (hcircle : state.chain.isCircular place = true)
    (hplace : place ∉ state.chain.recalculationOrder changed withVolatile)
    (htouches : Touches ((state.chain.recalculationOrder changed withVolatile).filterMap
      state.chain.cell?) state after) :
    after.workbook.result? cell.id.sheet cell.id.position = some (.error .reference) := by
  rw [h.chained.result_eq htouches hcell hplace, ← h.edited.result_eq]
  rw [h.chain] at hcell hcircle
  exact h.consistent.refused hcell hcircle rfl

/-- Formulas that cannot be read stay as they are. -/
theorem unreadable_kept {places : List Nat}
    (htouches : Touches (places.filterMap state.chain.cell?) state after) {entry : Entry}
    (hentry : entry ∈ entries after.workbook) (hnone : entry.readable = none) :
    after.workbook.result? entry.sheet entry.position = some (.error .name) := by
  rw [entries_congr htouches.inputs, ← h.edited.entries_eq] at hentry
  rw [htouches.others _ _ fun cell hcell => ?_, ← h.edited.result_eq]
  · exact h.consistent.unreadable hentry hnone
  · obtain ⟨place, -, hfound⟩ := List.mem_filterMap.mp hcell
    exact not_is_at_of_unreadable hentry hnone (h.mem_formula_cells hfound)

/-- What a pass over the places from which a change spreads leaves is consistent as far as the cells
at these places have their values. -/
theorem consistent_before
    (htouches : Touches ((state.chain.recalculationOrder changed withVolatile).filterMap
      state.chain.cell?) state after) {limit : Nat}
    (hsettles : ∀ place ∈ state.chain.recalculationOrder changed withVolatile, place < limit →
      ∀ cell, state.chain.cell? place = some cell → state.chain.isCircular place = false →
        Settles after.workbook cell)
    (hrefused : ∀ place ∈ state.chain.recalculationOrder changed withVolatile, ∀ cell,
      state.chain.cell? place = some cell → state.chain.isCircular place = true →
        after.workbook.result? cell.id.sheet cell.id.position = some (.error .reference)) :
    ConsistentBefore false limit after := by
  constructor
  case registered =>
    rw [htouches.chain, h.chain, formula_cells_congr htouches.inputs, ← h.edited.formula_cells_eq,
      h.consistent.registered]
  case built =>
    rw [htouches.chain, h.chain, h.consistent.built]
    refine (build_build ?_ _).symm
    exact h.edited.frame.trans (Workbook.same_frame_of_inputs htouches.inputs.symm)
  case unreadable => exact fun _ => h.unreadable_kept htouches
  case settles =>
    intro place hlimit cell hcell hfree
    rw [htouches.chain] at hcell hfree
    by_cases hplace : place ∈ state.chain.recalculationOrder changed withVolatile
    · exact hsettles place hplace hlimit cell hcell hfree
    · exact h.settles_left_out hcell hfree hplace htouches
  case refused =>
    intro place cell hcell hcircle _
    rw [htouches.chain] at hcell hcircle
    by_cases hplace : place ∈ state.chain.recalculationOrder changed withVolatile
    · exact hrefused place hplace cell hcell hcircle
    · exact h.refused_left_out hcell hcircle hplace htouches

end Outdated

namespace Pass

variable {setting : Setting}

/-- Calculating the places from which a change spreads makes an edited workbook consistent again,
unless one of the formulas is stuck. -/
theorem run_changed_ends (hrefuse : setting.supervision.refuseAfter = none)
    (hiterative : setting.options.iterative = false) {before state : State} {changed : List CellId}
    (h : Outdated changed before state) (withVolatile : Bool) :
    Ends (runPlaces setting (state.chain.recalculationOrder changed withVolatile)) state
      (fun after => after.workbook.inputs = state.workbook.inputs ∧ BrokenOff false after)
      fun _ after => after.workbook.inputs = state.workbook.inputs ∧
        (after.statistics.completed = true → Consistent false after) := by
  refine ((run_places_ends hrefuse h.chained
    (state.chain.recalculation_order_pairwise changed withVolatile)
    fun _ _ _ hcell => h.calculable hcell).mono_broken ?_).mono ?_
  · rintro after ⟨place, hbroken⟩
    have htouches := hbroken.touches
    refine ⟨htouches.inputs, place, hbroken.stuck, fun _ => ⟨?_, ?_⟩⟩
    · rw [htouches.chain]
      exact hbroken.free hiterative
    · exact h.consistent_before htouches (hbroken.earlier hiterative) (hbroken.refused hiterative)
  · rintro _ after ⟨htouches, hresults⟩
    refine ⟨htouches.inputs, fun hdone limit => h.consistent_before htouches
      (fun place hplace _ cell hcell => ?_) fun place hplace cell hcell hcircle => ?_⟩
    · exact (hresults hdone place hplace cell hcell).1
    · exact (hresults hdone place hplace cell hcell).2 hcircle hiterative

/-- A pass over changes makes an edited workbook consistent again, unless one of the formulas is
stuck. -/
theorem calculate_changed_ends (hrefuse : setting.supervision.refuseAfter = none)
    (hiterative : setting.options.iterative = false) {before : State} {changed : List CellId}
    {edited : Workbook} (h : Outdated changed before (.initial edited before.chain)) :
    Ends (calculateChanged setting changed) (.initial edited before.chain)
      (fun after => after.workbook.inputs = edited.inputs ∧ BrokenOff false after) fun _ after =>
        after.workbook.inputs = edited.inputs ∧
        (after.statistics.completed = true → Consistent false after) := by
  unfold calculateChanged
  refine Ends.of_get ?_
  dsimp only
  split
  · have hall := calculate_all_ends hrefuse h.sheets_edited (h.edited.predictable h.predictable)
      before.chain
    rwa [hiterative] at hall
  · refine Ends.of_count_chain fun counted hworkbook hchain => ?_
    have hcounted : Outdated changed before counted := by
      refine ⟨h.consistent, h.predictable, h.sheets, ?_, hchain⟩
      rw [hworkbook]
      exact h.edited
    have hrun := run_changed_ends hrefuse hiterative hcounted setting.options.recalculateVolatile
    rw [hchain, hworkbook] at hrun
    exact hrun

end Pass

/-- A pass over changes that finishes leaves a consistent workbook. -/
theorem recalculate_concludes {setting : Setting}
    (hrefuse : setting.supervision.refuseAfter = none)
    (hiterative : setting.options.iterative = false) {before : State} {changed : List CellId}
    {edited : Workbook} (h : Outdated changed before (.initial edited before.chain)) :
    ∃ outcome after, recalculate setting edited before.chain changed = (outcome, after) ∧
      after.workbook.inputs = edited.inputs ∧ Concludes setting outcome after ∧
      (Finishes outcome → Consistent setting.options.iterative after) := by
  have hends := Pass.calculate_changed_ends hrefuse hiterative h
  rw [← hiterative] at hends
  exact Concludes.of_ends hends fun hunstopped => completed_of_recalculate hunstopped rfl

/-- Of two passes that have begun with the same one cannot be broken off if the other finishes. -/
theorem Consistent.not_broken_off {left right : State} (hleft : Consistent false left)
    (hinputs : left.workbook.inputs = right.workbook.inputs)
    (hpredictable : Predictable left.workbook) (setting : Setting) :
    ¬ BrokenOff false right := by
  rintro ⟨place, hstuck, hbefore⟩
  obtain ⟨hfree, hconsistent⟩ := hbefore rfl
  exact hleft.not_stuck_at hconsistent hinputs hpredictable setting hfree hstuck

/-- After a full pass, edits of cells without formulas, and a pass over what depends on them, the
workbook is the one that a full pass over the edited workbook leaves, whatever moments, chances and
earlier chains the passes have. Nothing is iterated; formulas lead to no volatile function and have
values that depend on nothing but what is scanned from them. Neither pass is broken off where the
other one finishes. -/
theorem recalculate_eq_calculate {first second third : Setting}
    (hrefuse : ∀ setting ∈ [first, second, third], setting.supervision.refuseAfter = none)
    (hiterative : ∀ setting ∈ [first, second, third], setting.options.iterative = false)
    {book : Workbook} (hsheets : book.sheetCount ≤ CellId.sheetLimit)
    (hpredictable : Predictable book) {chain other : Chain} {statistics : Statistics}
    {before : State}
    (hbefore : calculate first book chain = (.ok statistics, before))
    (hcompleted : statistics.completed = true) {changed : List CellId} {edited : Workbook}
    (hedited : Edited changed before.workbook edited) :
    ∃ partly again fully fresh,
      recalculate second edited before.chain changed = (partly, again) ∧
      calculate third edited other = (fully, fresh) ∧
      Concludes second partly again ∧ Concludes third fully fresh ∧
      (Finishes partly → fully ≠ .error .indexNotNumber) ∧
      (Finishes fully → partly ≠ .error .indexNotNumber) ∧
      (Finishes partly → Finishes fully → again.workbook = fresh.workbook) := by
  obtain ⟨hfirst, hsecond, hthird⟩ : first.options.iterative = false ∧
      second.options.iterative = false ∧ third.options.iterative = false := by
    simpa using hiterative
  obtain ⟨outcome, after, hperform, hinputs, -, hconsistent⟩ :=
    calculate_concludes (hrefuse first (by simp)) hsheets hpredictable chain
  obtain ⟨rfl, rfl⟩ := Prod.mk.inj (hbefore.symm.trans hperform)
  rw [hfirst] at hconsistent
  have hpredictableBefore := hpredictable.congr hinputs.symm
  have hsheetsBefore : before.workbook.sheetCount ≤ CellId.sheetLimit := by
    rwa [Workbook.sheet_count_eq hinputs]
  have hsheetsEdited : edited.sheetCount ≤ CellId.sheetLimit := by
    rwa [← hedited.frame.sheet_count]
  have hpredictableEdited := hedited.predictable hpredictableBefore
  have houtdated : Outdated changed before (.initial edited before.chain) :=
    ⟨hconsistent ⟨statistics, rfl, hcompleted⟩, hpredictableBefore, hsheetsBefore, hedited, rfl⟩
  obtain ⟨partly, again, hagain, hagainInputs, hpartly, hagainConsistent⟩ :=
    recalculate_concludes (hrefuse second (by simp)) hsecond houtdated
  obtain ⟨fully, fresh, hfresh, hfreshInputs, hfully, hfreshConsistent⟩ :=
    calculate_concludes (hrefuse third (by simp)) hsheetsEdited hpredictableEdited other
  rw [hsecond] at hagainConsistent
  rw [hthird] at hfreshConsistent
  have hsame := hagainInputs.trans hfreshInputs.symm
  refine ⟨partly, again, fully, fresh, hagain, hfresh, hpartly, hfully, fun hdone hstopped => ?_,
    fun hdone hstopped => ?_, fun hdone hothers => ?_⟩
  · have hbroken := hfully.broken_off hstopped
    rw [hthird] at hbroken
    exact (hagainConsistent hdone).not_broken_off hsame
      (hpredictableEdited.congr hagainInputs.symm) first hbroken
  · have hbroken := hpartly.broken_off hstopped
    rw [hsecond] at hbroken
    exact (hfreshConsistent hdone).not_broken_off hsame.symm
      (hpredictableEdited.congr hfreshInputs.symm) first hbroken
  · exact (hagainConsistent hdone).workbook_eq (hfreshConsistent hothers) hsame
      (hpredictableEdited.congr hagainInputs.symm) first

/-- The sheet of the workbook with a copy as a full pass leaves it. -/
def copySheet : Worksheet :=
  (calculate plainSetting copyBook .empty).2.workbook.sheets.headD (Worksheet.blank "Sheet1")

/-- The workbook with a copy as a full pass leaves it, after the text has been changed. -/
def editedCopyBook : Workbook :=
  (calculate plainSetting copyBook .empty).2.workbook.setSheet 0
    (copySheet.insert ⟨0, 0⟩ (.text "y") ⟨by decide, rfl⟩)

/-- After the text of `A1` has been changed, calculating what depends on it is as good as
calculating all. -/
theorem recalculate_eq_calculate_of_copy :
    ∃ statistics before partly again fully fresh,
      calculate plainSetting copyBook .empty = (.ok statistics, before) ∧
      Edited [⟨0⟩] before.workbook editedCopyBook ∧
      editedCopyBook.shown 0 ⟨0, 0⟩ = .text "y" ∧
      recalculate plainSetting editedCopyBook before.chain [⟨0⟩] = (.ok partly, again) ∧
      calculate plainSetting editedCopyBook .empty = (.ok fully, fresh) ∧
      again.workbook = fresh.workbook := by
  have hpartly : (recalculate plainSetting editedCopyBook
      (calculate plainSetting copyBook .empty).2.chain [⟨0⟩]).1 =
        .ok ⟨1, 1, 1, 0, 0, 0, true, true⟩ := by decide +kernel
  have hfully : (calculate plainSetting editedCopyBook .empty).1 =
      .ok ⟨1, 1, 1, 0, 0, 0, true, true⟩ := by decide +kernel
  have hsheet : (calculate plainSetting copyBook .empty).2.workbook.sheet? 0 = some copySheet := by
    have hcount : (calculate plainSetting copyBook .empty).2.workbook.sheets.length = 1 := by
      decide +kernel
    obtain ⟨sheet, hsheets⟩ := List.length_eq_one_iff.mp hcount
    rw [Workbook.sheet?, copySheet, hsheets]
    rfl
  have htext : (copySheet.cell ⟨0, 0⟩).formulaText = none := by decide +kernel
  have hedited : Edited [⟨0⟩] (calculate plainSetting copyBook .empty).2.workbook editedCopyBook :=
    edited_of_insert hsheet htext rfl _
  have hplain : ∀ setting ∈ [plainSetting, plainSetting, plainSetting], setting = plainSetting := by
    simp
  obtain ⟨_, again, _, fresh, hagain, hfresh, -, -, -, -, hsame⟩ :=
    recalculate_eq_calculate (fun setting hsetting => by rw [hplain setting hsetting]; rfl)
      (fun setting hsetting => by rw [hplain setting hsetting]; rfl) (by decide)
      predictable_copy_book (Prod.ext report_of_copy_book rfl) rfl hedited
  rw [hagain] at hpartly
  rw [hfresh] at hfully
  subst hpartly hfully
  refine ⟨_, _, _, again, _, fresh, Prod.ext report_of_copy_book rfl, hedited, ?_, hagain, hfresh,
    hsame ⟨_, rfl, rfl⟩ ⟨_, rfl, rfl⟩⟩
  have hlt : 0 < (calculate plainSetting copyBook .empty).2.workbook.sheets.length :=
    (List.getElem?_eq_some_iff.mp hsheet).1
  simp [editedCopyBook, Workbook.shown, Workbook.sheet?, Workbook.setSheet, hlt, Worksheet.shown,
    Worksheet.cell, Worksheet.insert, Cell.effective]

end Spreadsheet.Calculation
