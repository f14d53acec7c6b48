import Spreadsheet.Proofs.Calculation.FullPass

/-!
# What a full pass leaves alone

Whatever the formulas are and whether or not they are iterated, stopped or fail, a full pass writes
results of formulas and nothing else. The main theorem, `calculate_preserves`, says so, and that a
pass over a workbook that stores what it is given comes to its end unless a call in some formula
breaks off: a lookup by what is no number, or a random draw between bounds that leave no number.
-/

namespace Spreadsheet

/-- Whether two workbooks differ in nothing but the results of formulas. -/
structure Workbook.DiffersInResults (before after : Workbook) : Prop where
  sheetNames : after.sheets.map Worksheet.name = before.sheets.map Worksheet.name
  hiddenRows : after.sheets.map Worksheet.hiddenRows = before.sheets.map Worksheet.hiddenRows
  /-- The same cells are filled. -/
  filled : (after.sheets.map fun sheet => sheet.cells.keys) =
    before.sheets.map fun sheet => sheet.cells.keys
  names : after.names = before.names
  dateSystem : after.dateSystem = before.dateSystem
  cells : ∀ sheet position, after.content sheet position = before.content sheet position ∨
    ∃ source old new, before.content sheet position = .formula source old ∧
      after.content sheet position = .formula source new

/-- A cell with the same input as before is the same cell, or the same formula
with another result. -/
theorem Cell.eq_or_formula_of_input {before after : Cell} (h : after.input = before.input) :
    after = before ∨
      ∃ source old new, before = .formula source old ∧ after = .formula source new := by
  cases before with
  | formula source old =>
      cases after with
      | formula found new =>
          obtain rfl : found = source := by simpa [input] using h
          exact Or.inr ⟨found, old, new, rfl, rfl⟩
      | _ => simp [input] at h
  | _ => cases after <;> simp_all [input]

/-- Workbooks into which the same was put differ in results only. -/
theorem Workbook.differs_in_results {before after : Workbook} (h : after.inputs = before.inputs) :
    before.DiffersInResults after where
  sheetNames := (same_frame_of_inputs h).sheetNames
  hiddenRows := by
    have hhidden := congrArg (fun book => book.sheets.map Worksheet.hiddenRows) h
    simpa [inputs, Worksheet.inputs, Function.comp_def] using hhidden
  filled := by
    have hkeys := congrArg (fun book => book.sheets.map fun sheet => sheet.cells.keys) h
    simpa [inputs, Worksheet.inputs, Function.comp_def] using hkeys
  names := (same_frame_of_inputs h).names
  dateSystem := (same_frame_of_inputs h).dateSystem
  cells sheet position := Cell.eq_or_formula_of_input (content_input_eq h sheet position)

namespace Calculation

open Dependency (Chain FormulaCell)
open Formula (FormulaError)

/-- Whether a formula of a workbook leads to a function whose calls break off with a failure. -/
def CanBreakOff (book : Workbook) (failure : FormulaError) : Prop :=
  ∃ cell ∈ formulaCells book, ∃ tree word, Formula.parseTokens cell.tokens = .ok tree ∧
    tree.LeadsTo book cell.id.sheet (.function word) ∧ Builtin.BreaksOff (Text.upper word) failure

/-- What holds of a state all the time that formulas of a workbook are calculated. -/
structure Framed (book : Workbook) (state : State) : Prop where
  inputs : state.workbook.inputs = book.inputs
  registered : ∀ cell ∈ state.chain.registered.toList, cell ∈ formulaCells book

namespace Pass

variable {α β : Type} {setting : Setting} {book : Workbook} {state : State}

/-- Whether a step, however it ends, writes nothing but results, and fails only where a call breaks
off. -/
def Frames (book : Workbook) (pass : Pass α) (state : State) : Prop :=
  Framed book (pass.run.run state).2 ∧
    ∀ failure, (pass.run.run state).1 = .error failure → CanBreakOff book failure

/-- A step that ends in a framed state frames it. -/
theorem Frames.of_run {pass : Pass α} {value : α} {after : State}
    (hrun : pass.run.run state = (.ok value, after)) (h : Framed book after) :
    Frames book pass state := by
  unfold Frames
  rw [hrun]
  refine ⟨h, fun failure hfailure => ?_⟩
  cases hfailure

/-- A step that does nothing stays within the frame. -/
theorem frames_pure (value : α) (h : Framed book state) : Frames book (pure value) state :=
  .of_run rfl h

/-- A change of the state stays within the frame if it leads to a framed state. -/
theorem frames_modify {change : State → State} (h : Framed book (change state)) :
    Frames book (modify change) state :=
  .of_run rfl h

/-- Two steps in a row stay within the frame if the first one does and the second one does from
every framed state. -/
theorem Frames.bind {pass : Pass α} {goOn : α → Pass β} (h : Frames book pass state)
    (hnext : ∀ value after, Framed book after → Frames book (goOn value) after) :
    Frames book (pass >>= goOn) state := by
  obtain ⟨hframed, hfailure⟩ := h
  unfold Frames
  rw [ExceptT.run_bind, StateT.run_bind]
  cases hrun : pass.run.run state with
  | mk result after =>
      rw [hrun] at hframed hfailure
      cases result with
      | error failure =>
          refine ⟨hframed, fun found hfound => hfailure found ?_⟩
          exact congrArg Except.error (Except.error.inj hfound)
      | ok value => exact hnext value after hframed

/-- A step whose value is dropped stays within the frame if it does otherwise. -/
theorem Frames.discard {pass : Pass α} (h : Frames book pass state) :
    Frames book (Functor.discard pass) state := by
  show Frames book ((fun _ => PUnit.unit) <$> pass) state
  rw [map_eq_pure_bind]
  exact h.bind fun _ _ hafter => frames_pure _ hafter

/-- What goes on from the present state may be judged at that state. -/
theorem Frames.of_get {goOn : State → Pass β} (h : Frames book (goOn state) state) :
    Frames book (get >>= goOn) state := h

/-- Replacing the state by another one may be judged at the new state. -/
theorem Frames.of_set {after : State} {goOn : PUnit → Pass β} (h : Frames book (goOn ⟨⟩) after) :
    Frames book (set after >>= goOn) state := h

/-- What is never broken off goes on from where it ends. -/
theorem Ends.frames {pass : Pass α} {goOn : α → Pass β} {mid : α → State → Prop}
    (h : Ends pass state (fun _ => False) mid)
    (hnext : ∀ value after, mid value after → Frames book (goOn value) after) :
    Frames book (pass >>= goOn) state := by
  obtain ⟨value, after, hrun, hmid⟩ | ⟨_, -, hnone⟩ := h
  · unfold Frames
    rw [ExceptT.run_bind, StateT.run_bind, hrun]
    exact hnext value after hmid
  · exact hnone.elim

/-- Counting changes nothing that was put in. -/
theorem frames_count (h : Framed book state) (change : Statistics → Statistics) :
    Frames book (count change) state :=
  frames_modify ⟨h.inputs, h.registered⟩

/-- Cells at places of the chain are formulas of the workbook. -/
theorem mem_formula_cells_of_places (h : Framed book state) (places : List Nat) :
    ∀ cell ∈ places.filterMap state.chain.cell?, cell ∈ formulaCells book := by
  intro cell hcell
  obtain ⟨place, -, hplace⟩ := List.mem_filterMap.mp hcell
  exact h.registered cell (Chain.mem_registered_of_cell hplace)

/-- The value of a formula is missing for a reason that has an error value, or because a call breaks
off. -/
theorem failure_of_evaluate_in {workbook : Workbook} {draw : Nat} {cell : FormulaCell}
    {failure : FormulaError} (h : evaluateIn setting workbook draw cell = .error failure) :
    (∃ fault, failureValue failure = some fault) ∨
      ∃ tree word, Formula.parseTokens cell.tokens = .ok tree ∧
        tree.LeadsTo workbook cell.id.sheet (.function word) ∧
        Builtin.BreaksOff (Text.upper word) failure := by
  cases hparse : Formula.parseTokens cell.tokens with
  | error refusal =>
      obtain rfl : FormulaError.invalid refusal = failure := by
        simpa [evaluateIn, hparse, Except.mapError, bind, Except.bind] using h
      exact Or.inl ⟨_, rfl⟩
  | ok tree =>
      have hevaluate : Evaluation.evaluate
          (.ofCell workbook cell.id.sheet cell.id.position setting.moment) tree
          (setting.seed.child draw) = .error failure := by
        simpa [evaluateIn, hparse, Except.mapError, bind, Except.bind] using h
      cases Evaluation.failure_of_evaluate hevaluate with
      | circular => exact Or.inl ⟨_, rfl⟩
      | call hleads hbreaks => exact Or.inr ⟨tree, _, rfl, hleads, hbreaks⟩

/-- Evaluating a formula of the workbook writes nothing. -/
theorem frames_evaluate (h : Framed book state) {cell : FormulaCell}
    (hcell : cell ∈ formulaCells book) : Frames book (evaluate setting cell) state := by
  refine .of_get (.of_set ?_)
  have hafter : Framed book { state with evaluated := state.evaluated + 1 } :=
    ⟨h.inputs, h.registered⟩
  cases houtcome : evaluateIn setting state.workbook state.evaluated cell with
  | ok value => exact frames_pure _ hafter
  | error failure =>
      dsimp only
      rcases failure_of_evaluate_in houtcome with ⟨fault, hfault⟩ |
        ⟨tree, word, hparse, hleads, hbreaks⟩
      · rw [hfault]
        exact (frames_count hafter _).bind fun _ _ hcounted => frames_pure _ hcounted
      · have hnone : failureValue failure = none := by cases hbreaks <;> rfl
        rw [hnone]
        rw [(Workbook.same_frame_of_inputs h.inputs).leads_to] at hleads
        refine ⟨hafter, fun found hfound => ⟨cell, hcell, tree, word, hparse, hleads, ?_⟩⟩
        obtain rfl : failure = found := Except.error.inj hfound
        exact hbreaks

section Stores

variable (hrefuse : setting.supervision.refuseAfter = none)
include hrefuse

/-- Storing the result of a formula of the workbook stays within the frame, even if
it is refused. -/
theorem frames_store (h : Framed book state) {cell : FormulaCell} (hcell : cell ∈ formulaCells book)
    (result : Cell) :
    Frames book (store setting cell.id.sheet cell.id.position result) state := by
  have hformula : (state.workbook.content cell.id.sheet cell.id.position).formulaText.isSome := by
    obtain ⟨entry, hentry, -, hsheet, hposition⟩ := exists_entry_of_formula_cell hcell
    rw [Workbook.formula_text_eq h.inputs, hsheet, hposition, mem_entries_iff.mp hentry]
    rfl
  have hstore : Ends (store setting cell.id.sheet cell.id.position result) state (fun _ => False)
      _ := store_ends hrefuse hformula result
  obtain ⟨_, after, hrun, hstores, hchain, -⟩ | ⟨_, -, hnone⟩ := hstore
  · refine .of_run hrun ⟨hstores.inputs.trans h.inputs, ?_⟩
    rw [hchain]
    exact h.registered
  · exact hnone.elim

/-- Calculating a formula of the workbook stays within the frame, whether or not it fails. -/
theorem frames_run_cell (h : Framed book state) {cell : FormulaCell}
    (hcell : cell ∈ formulaCells book) : Frames book (runCell setting cell) state :=
  (frames_evaluate h hcell).bind fun _ _ hvalue => (frames_store hrefuse hvalue hcell _).bind
    fun _ _ hstored => frames_pure _ hstored

/-- Calculating formulas of the workbook in a row stays within the frame. -/
theorem frames_run_all (h : Framed book state) (cells : List FormulaCell)
    (hcells : ∀ cell ∈ cells, cell ∈ formulaCells book) :
    Frames book (runAll setting cells) state := by
  induction cells generalizing state with
  | nil => exact frames_pure _ h
  | cons cell rest ih =>
      obtain ⟨hcell, hrest⟩ := List.forall_mem_cons.mp hcells
      refine .of_get ?_
      split
      · exact (frames_count h _).bind fun _ _ hstopped => frames_pure _ hstopped
      · exact (frames_run_cell hrefuse h hcell).discard.bind fun _ _ hran =>
          (frames_count hran _).bind fun _ _ hcounted => ih hcounted hrest

/-- Refusing formulas of the workbook as circular stays within the frame. -/
theorem frames_refuse_circular (h : Framed book state) (cells : List FormulaCell)
    (hcells : ∀ cell ∈ cells, cell ∈ formulaCells book) :
    Frames book (refuseCircular setting cells) state := by
  induction cells generalizing state with
  | nil => exact frames_pure _ h
  | cons cell rest ih =>
      obtain ⟨hcell, hrest⟩ := List.forall_mem_cons.mp hcells
      exact (frames_store hrefuse h hcell _).bind fun _ _ hstored =>
        (frames_count hstored _).bind fun _ _ hcounted => ih hcounted hrest

/-- One sweep over formulas of the workbook stays within the frame. -/
theorem frames_sweep (h : Framed book state) (first : Bool) (cells : List FormulaCell)
    (hcells : ∀ cell ∈ cells, cell ∈ formulaCells book) (largest : Float) :
    Frames book (sweep setting first cells largest) state := by
  induction cells generalizing largest state with
  | nil => exact frames_pure _ h
  | cons cell rest ih =>
      obtain ⟨hcell, hrest⟩ := List.forall_mem_cons.mp hcells
      refine .of_get ?_
      split
      · exact (frames_count h _).bind fun _ _ hstopped => frames_pure _ hstopped
      · refine .of_get ((frames_run_cell hrefuse h hcell).bind fun _ _ hran => ?_)
        split
        · exact (frames_count hran _).bind fun _ _ hcounted => ih hcounted hrest _
        · exact ih hran hrest _

/-- However often formulas on a cycle are calculated, only their results change. -/
theorem frames_iterate (h : Framed book state) (cells : List FormulaCell)
    (hcells : ∀ cell ∈ cells, cell ∈ formulaCells book) (remaining done : Nat) :
    Frames book (iterate setting cells remaining done) state := by
  induction remaining generalizing done state with
  | zero => exact frames_pure _ h
  | succ remaining ih =>
      refine (frames_count h _).bind fun _ _ hcounted =>
        (frames_sweep hrefuse hcounted _ cells hcells _).bind fun change _ hswept => ?_
      cases change with
      | none => exact frames_pure _ hswept
      | some largest =>
          dsimp only
          split
          · exact (frames_count hswept _).bind fun _ _ hconverged => frames_pure _ hconverged
          · exact ih hswept _

/-- The iterative part of a pass stays within the frame. -/
theorem frames_run_iterative (h : Framed book state) (circular ordered : List Nat) :
    Frames book (runIterative setting circular ordered) state := by
  refine .of_get ((frames_run_all hrefuse h _ (mem_formula_cells_of_places h _)).bind
    fun finished ran hran => ?_)
  split
  · exact frames_count hran _
  · refine (frames_count hran _).bind fun _ begun hbegun => .of_get
      ((frames_iterate hrefuse hbegun _ (mem_formula_cells_of_places hbegun _) _ _).bind
        fun settled iterated hiterated => ?_)
    split
    · refine .of_get (.of_get (.of_get ?_))
      exact (frames_run_all hrefuse hiterated _
        (mem_formula_cells_of_places hiterated _)).discard.bind fun _ _ hagain =>
          frames_count hagain _
    · exact frames_pure _ hiterated

/-- Calculating any places of the chain stays within the frame. -/
theorem frames_run_places (h : Framed book state) (places : List Nat) :
    Frames book (runPlaces setting places) state := by
  refine .of_get ?_
  dsimp only
  split
  · exact frames_run_iterative hrefuse h _ _
  · refine .of_get ((frames_refuse_circular hrefuse h _ (mem_formula_cells_of_places h _)).bind
      fun _ refused hrefused => (frames_count hrefused _).bind fun _ counted hcounted => ?_)
    exact .of_get
      (frames_run_all hrefuse hcounted _ (mem_formula_cells_of_places hcounted _)).discard

/-- A full pass registers the formulas of the workbook without failure, and then calculates them. -/
theorem frames_calculate_all (hsheets : book.sheetCount ≤ CellId.sheetLimit) (chain : Chain) :
    Frames book (calculateAll setting) (.initial book chain) := by
  rw [calculate_all_eq]
  refine (enroll_registers hrefuse hsheets chain).frames fun _ after hafter => .of_get ?_
  obtain ⟨registered, hregistered, hworkbook, hchain⟩ := hafter
  refine frames_run_places hrefuse ⟨?_, ?_⟩ _
  · rw [hworkbook]
    exact hregistered.inputs
  · intro cell hcell
    have hcells : registered.chain.registered.toList = formulaCells book := hregistered.registered
    rw [hchain] at hcell
    exact hcells ▸ hcell

end Stores

end Pass

/-- A full pass over a workbook that stores what it is given writes results of formulas and nothing
else, with every setting and whatever the formulas are. No failure comes out of it: only a lookup by
what is no number and a random draw between bounds that leave no number break it off, and only where
some formula leads to such a call. -/
theorem calculate_preserves (setting : Setting) (hrefuse : setting.supervision.refuseAfter = none)
    (book : Workbook) (hsheets : book.sheetCount ≤ CellId.sheetLimit) (chain : Chain) :
    (∀ failure, (calculate setting book chain).1 = .error failure → CanBreakOff book failure) ∧
      book.DiffersInResults (calculate setting book chain).2.workbook := by
  obtain ⟨hframed, hfailure⟩ := Pass.frames_calculate_all hrefuse hsheets chain
  refine ⟨fun failure h => hfailure failure ?_, Workbook.differs_in_results hframed.inputs⟩
  exact except_map_eq_error_iff.mp h

/-- A full pass over a workbook with a copy of a text leaves both cells as they were put in. -/
theorem calculate_preserves_copy :
    plainSetting.supervision.refuseAfter = none ∧ copyBook.sheetCount ≤ CellId.sheetLimit ∧
      (∀ failure, (calculate plainSetting copyBook .empty).1 = .error failure →
        CanBreakOff copyBook failure) ∧
      copyBook.DiffersInResults (calculate plainSetting copyBook .empty).2.workbook := by
  have hsheets : copyBook.sheetCount ≤ CellId.sheetLimit := by decide
  exact ⟨rfl, hsheets, calculate_preserves plainSetting rfl copyBook hsheets .empty⟩

end Calculation

end Spreadsheet
