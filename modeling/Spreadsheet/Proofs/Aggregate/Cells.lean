import Spreadsheet.Proofs.Address.Walk
import Spreadsheet.Proofs.Aggregate.Arrays
import Spreadsheet.Proofs.Evaluation.Locality
import Spreadsheet.Proofs.Lookup.Materialized

/-!
# Aggregates of a range and of its cells

A range reaches a function as one array, its cells written one by one reach it as single values.
Counting sees the same either way. Aggregates pass over texts and logical values in an array, but
read them as numbers where they stand alone. The main theorem, `aggregates_of_range_and_cells`, says
what becomes of both forms, and that both join the same numbers exactly if there are only numbers
and blanks in the cells.
-/

namespace Spreadsheet

open Evaluation (evaluate evaluateWith operandValues Resolver settle)
open Formula (Expr)

/-! ## Single values -/

/-- The value of a cell is never an array. -/
theorem Value.is_array_of_cell (cell : Cell) : (ofCell cell).isArray = false := by
  unfold ofCell
  cases cell.effective <;> rfl

/-- A value that is no error gives none. -/
theorem Value.error_eq_none {value : Value} (h : value.isError = false) : value.error? = none := by
  cases value with
  | error fault => cases h
  | empty | number | text | logical | array => rfl

namespace Builtin

/-- The name that formulas call an aggregate by. -/
def Aggregate.name : Aggregate → String
  | sum => "SUM"
  | product => "PRODUCT"
  | average => "AVERAGE"
  | minimum => "MIN"
  | maximum => "MAX"

/-- Every aggregate is found in the registry under its own name. -/
theorem Aggregate.find_name (aggregate : Aggregate) :
    find? aggregate.name = some (ofValues aggregate.name 1 none aggregate.apply) := by
  cases aggregate <;> rfl

/-- The numbers that single values are read as, unless there is one that is not; blanks are left
out. -/
def readNumbers (values : List Value) : Except ErrorValue (List Float) :=
  (values.filter fun value => !value.isEmpty).mapM Value.toNumber

section Singles

variable {value : Value} {values : List Value}

/-- A blank cell is left out of the numbers read. -/
theorem read_blank_cons (h : value.isEmpty = true) (rest : List Value) :
    readNumbers (value :: rest) = readNumbers rest := by
  rw [readNumbers, List.filter_cons_of_neg (by simp [h]), ← readNumbers]

/-- A cell that is not blank is read as a number before the rest is. -/
theorem read_cons (h : value.isEmpty = false) (rest : List Value) :
    readNumbers (value :: rest) = do
      let amount ← value.toNumber
      let others ← readNumbers rest
      return amount :: others := by
  rw [readNumbers, List.filter_cons_of_pos (by simp [h]), List.mapM_cons, ← readNumbers]

/-- An operand that is neither an array nor blank has to be a number, or to read as one. -/
theorem operand_numbers_single (harray : value.isArray = false) (hempty : value.isEmpty = false) :
    operandNumbers value = value.toNumber >>= fun amount => pure [amount] := by
  cases value with
  | array rows => cases harray
  | empty => cases hempty
  | number | text | logical | error => rfl

/-- Aggregates read single values as numbers, one after the other. -/
theorem numbers_singles (h : ∀ value ∈ values, value.isArray = false) :
    numbers values = readNumbers values := by
  induction values with
  | nil => rfl
  | cons value rest ih =>
      obtain ⟨hvalue, hrest⟩ := List.forall_mem_cons.mp h
      have hothers := ih hrest
      unfold numbers at hothers ⊢
      rw [List.mapM_cons]
      cases hempty : value.isEmpty with
      | true =>
          rw [read_blank_cons hempty, ← hothers]
          cases value with
          | empty => cases rest.mapM operandNumbers <;> rfl
          | number | text | logical | error | array => cases hempty
      | false =>
          rw [read_cons hempty, ← hothers, operand_numbers_single hvalue hempty]
          cases value.toNumber with
          | error fault => rfl
          | ok amount => cases rest.mapM operandNumbers <;> rfl

/-- As many numbers are read as there are operands that are not blank. -/
theorem length_of_read {amounts : List Float} (h : readNumbers values = .ok amounts) :
    amounts.length = values.countP fun value => !value.isEmpty := by
  induction values generalizing amounts with
  | nil =>
      cases h
      rfl
  | cons value rest ih =>
      cases hempty : value.isEmpty with
      | true =>
          rw [read_blank_cons hempty] at h
          rw [List.countP_cons_of_neg (by simp [hempty]), ih h]
      | false =>
          rw [read_cons hempty] at h
          obtain ⟨amount, -, h⟩ := bind_eq_ok_iff.mp h
          obtain ⟨others, hothers, h⟩ := bind_eq_ok_iff.mp h
          cases h
          rw [List.countP_cons_of_pos (by simp [hempty]), List.length_cons, ih hothers]

/-- There are at most as many numbers as there are operands that are not blank. -/
theorem count_numbers_le (values : List Value) :
    (values.filterMap Value.number?).length ≤ values.countP fun value => !value.isEmpty := by
  rw [List.length_filterMap_eq_countP]
  refine List.countP_mono_left fun value _ hnumber => ?_
  cases value with
  | number amount => rfl
  | empty | text | logical | error | array => cases hnumber

/-- Reading single values gives the numbers among them exactly if there are only blanks besides. -/
theorem read_numbers_eq_iff :
    readNumbers values = .ok (values.filterMap Value.number?) ↔
      ∀ value ∈ values, value.isNumber = true ∨ value.isEmpty = true := by
  induction values with
  | nil => exact iff_of_true rfl nofun
  | cons value rest ih =>
      rw [List.forall_mem_cons, ← ih]
      cases value with
      | empty =>
          rw [read_blank_cons rfl]
          exact ⟨fun hread => ⟨Or.inr rfl, hread⟩, fun hboth => hboth.2⟩
      | number amount =>
          rw [read_cons rfl]
          constructor
          · intro hread
            obtain ⟨_, hamount, hread⟩ := bind_eq_ok_iff.mp hread
            cases hamount
            obtain ⟨others, hothers, hsame⟩ := bind_eq_ok_iff.mp hread
            refine ⟨Or.inl rfl, ?_⟩
            rw [hothers]
            exact congrArg Except.ok (List.cons.inj (Except.ok.inj hsame)).2
          · intro hboth
            rw [hboth.2]
            rfl
      | text | logical | error | array =>
          refine iff_of_false (fun hread => ?_) (by simp [Value.isNumber, Value.isEmpty])
          -- more is read than there are numbers
          have hlength := length_of_read hread
          have hle := count_numbers_le rest
          rw [List.countP_cons_of_pos rfl, List.filterMap_cons_none rfl] at hlength
          omega

/-- On operands without an array an aggregate joins the numbers read of them. -/
theorem Aggregate.apply_singles (aggregate : Aggregate)
    (h : ∀ value ∈ values, value.isArray = false) :
    aggregate.apply values = readNumbers values >>= aggregate.join := by
  rw [apply_eq, numbers_singles h]

/-- Of an array without error values aggregates join the numbers that it holds itself. -/
theorem Aggregate.apply_array (aggregate : Aggregate) {rows : List (List Value)}
    (h : ∀ value ∈ rows.flatten, value.isError = false) :
    aggregate.apply [.array rows] = aggregate.join (rows.flatten.filterMap Value.number?) := by
  have hnone : rows.flatten.findSome? Value.error? = none :=
    List.findSome?_eq_none_iff.mpr fun value hvalue => Value.error_eq_none (h value hvalue)
  have hnumbers : numbers [.array rows] = seen [rows].flatten.flatten := numbers_arrays [rows]
  rw [apply_eq, hnumbers, List.flatten_singleton, seen, hnone]
  rfl

/-- An array as the only operand is taken apart into what its elements are. -/
theorem flatten_of_array (rows : List (List Value)) :
    [Value.array rows].flatMap Value.flatten = rows.flatten.flatMap Value.flatten := by
  rw [List.flatMap_singleton, Value.flatten_array]

/-- An array is counted as what it holds is. -/
theorem count_array (rows : List (List Value)) : count [.array rows] = count rows.flatten := by
  rw [count, count, flatten_of_array]

/-- The filled operands of an array are counted as the filled elements of it. -/
theorem count_filled_array (rows : List (List Value)) :
    countFilled [.array rows] = countFilled rows.flatten := by
  rw [countFilled, countFilled, flatten_of_array]

end Singles

end Builtin

/-! ## Calls -/

namespace Evaluation

section Calls

variable {book : Workbook} {home : Nat} {position : Position} {moment : Moment}
  {sheet : Option String} {index : Nat} {context : Context} {resolve : Resolver}

/-- A sheet with an index is one that the workbook has. -/
theorem has_sheet_of_index
    (h : (Context.ofCell book home position moment).sheetIndex sheet = .ok index) :
    (Context.ofCell book home position moment).hasSheet index = true := by
  show decide (index < book.sheetCount) = true
  rw [decide_eq_true_iff]
  cases sheet with
  | none =>
      rw [Context.sheet_index_none] at h
      split at h
      · cases h
        assumption
      · cases h
  | some spelling =>
      rw [Context.sheet_index_some] at h
      cases hfound : book.sheetIndex spelling with
      | none =>
          rw [hfound] at h
          cases h
      | some found =>
          rw [hfound] at h
          cases h
          exact (List.findIdx?_eq_some_iff_getElem.mp hfound).1

/-- A function over values, called with operands that have been read. -/
theorem evaluate_values {name : String} {least : Nat} {most : Option Nat}
    {apply : List Value → Builtin.Result}
    (hfind : Builtin.find? name = some (.ofValues name least most apply))
    {trees : List Expr} {seed : Seed} {values : List Value}
    (haccepts : (Builtin.ofValues name least most apply).accepts trees.length = true)
    (hread : operandValues context resolve false trees (seed.child 0) = .ok (.ok values)) :
    evaluateWith context resolve (.call name trees) seed = .ok (settle (apply values)) := by
  rw [evaluateWith, hfind]
  dsimp only
  rw [haccepts]
  show (do applyValues _ context seed (← operandValues context resolve false trees _)) = _
  rw [hread]
  rfl

/-- A list of operands is worth the value of its first tree, which is no error, and then those of
the others. -/
theorem operand_values_cons {tree : Expr} {rest : List Expr} {value : Value} {values : List Value}
    {seed : Seed} (hvalue : evaluateWith context resolve tree (seed.child 0) = .ok value)
    (herror : value.isError = false)
    (hrest : operandValues context resolve false rest (seed.child 1) = .ok (.ok values)) :
    operandValues context resolve false (tree :: rest) seed = .ok (.ok (value :: values)) := by
  rw [operandValues, hvalue, hrest]
  cases value with
  | error fault => cases herror
  | empty | number | text | logical | array => rfl

/-- References to cells are worth what the cells show, in order, if none of them shows an error. -/
theorem operand_values_cells {shown : Position → Value}
    (hshown : ∀ cell, context.cellValue sheet cell = shown cell) (cells : List Address)
    (herror : ∀ cell ∈ cells.map Address.position, (shown cell).isError = false) (seed : Seed) :
    operandValues context resolve false (cells.map (.cell sheet)) seed =
      .ok (.ok ((cells.map Address.position).map shown)) := by
  induction cells generalizing seed with
  | nil => rfl
  | cons cell rest ih =>
      obtain ⟨hcell, hrest⟩ := List.forall_mem_cons.mp herror
      refine operand_values_cons ?_ hcell (ih hrest _)
      rw [evaluateWith, hshown]

/-- A range of a sheet the workbook has is worth what its cells show, in row-major order. -/
theorem range_values_cells (h : context.hasSheet index = true) (range : CellRange) :
    ∃ rows, context.rangeValues ⟨index, range⟩ = .array rows ∧
      rows.flatten = range.cells.map (context.shown index) := by
  refine ⟨Builtin.linesAlong context ⟨index, range⟩ .vertical, Builtin.range_values_eq h, ?_⟩
  rw [CellRange.cells_eq_rows, List.map_flatMap, List.flatMap_def]
  simp only [List.map_map, Function.comp_def]
  rfl

end Calls

/-- A function over the values of a range, called with the range or with each of its cells. -/
theorem evaluate_range_and_cells {book : Workbook} {home : Nat} {position : Position}
    {moment : Moment} {sheet : Option String} {index : Nat}
    (hindex : (Context.ofCell book home position moment).sheetIndex sheet = .ok index)
    {range : CellRange} {cells : List Address} (hcells : cells.map Address.position = range.cells)
    (herror : ∀ cell ∈ range.cells, (Value.ofCell (book.shown index cell)).isError = false)
    (seed : Seed) :
    ∃ rows : List (List Value),
      rows.flatten = range.cells.map (fun cell => .ofCell (book.shown index cell)) ∧
      ∀ (name : String) (apply : List Value → Builtin.Result),
        Builtin.find? name = some (.ofValues name 1 none apply) →
        evaluate (.ofCell book home position moment) (.call name [.range sheet range]) seed =
            .ok (settle (apply [.array rows])) ∧
          evaluate (.ofCell book home position moment) (.call name (cells.map (.cell sheet))) seed =
            .ok (settle (apply rows.flatten)) := by
  obtain ⟨rows, hrows, hvalues⟩ := range_values_cells (has_sheet_of_index hindex) range
  have hshown : ∀ cell : Position,
      (Context.ofCell book home position moment).cellValue sheet cell =
        .ofCell (book.shown index cell) := by
    intro cell
    rw [Context.cellValue, hindex]
    rfl
  refine ⟨rows, hvalues, fun name apply hfind => ⟨?_, ?_⟩⟩
  · refine evaluate_values hfind rfl ?_
    refine operand_values_cons ?_ rfl rfl
    rw [evaluateWith, Context.rangeAddress, hindex]
    exact congrArg Except.ok hrows
  · have hlength : 1 ≤ (cells.map (Expr.cell sheet)).length := by
      rw [List.length_map, ← List.length_map Address.position, hcells, CellRange.length_cells]
      exact Nat.mul_pos (Nat.succ_pos _) range.column_count_pos
    refine evaluate_values hfind (by simpa [Builtin.accepts, Builtin.ofValues] using hlength) ?_
    rw [operand_values_cells hshown cells (hcells ▸ herror), hcells, hvalues]
    rfl

/-- Called with a range or with each of its cells, the counting functions have one result, if there
are no error values in the cells. Of the range an aggregate joins the numbers in the cells, of the
cells all that these are read as, so that both join the same exactly if there are only numbers and
blanks in them. -/
theorem aggregates_of_range_and_cells {book : Workbook} {home : Nat} {position : Position}
    {moment : Moment} {sheet : Option String} {index : Nat}
    (hindex : (Context.ofCell book home position moment).sheetIndex sheet = .ok index)
    {range : CellRange} {cells : List Address} (hcells : cells.map Address.position = range.cells)
    (herror : ∀ cell ∈ range.cells, (Value.ofCell (book.shown index cell)).isError = false)
    (seed : Seed) :
    let values := range.cells.map fun cell => Value.ofCell (book.shown index cell)
    let amounts := values.filterMap Value.number?
    let ofRange := fun name =>
      evaluate (.ofCell book home position moment) (.call name [.range sheet range]) seed
    let ofCells := fun name =>
      evaluate (.ofCell book home position moment) (.call name (cells.map (.cell sheet))) seed
    (∀ name ∈ ["COUNT", "COUNTA"], ofCells name = ofRange name) ∧
      (∀ aggregate : Builtin.Aggregate,
        ofRange aggregate.name = .ok (settle (aggregate.join amounts)) ∧
        ofCells aggregate.name =
          .ok (settle (Builtin.readNumbers values >>= aggregate.join))) ∧
      (Builtin.readNumbers values = .ok amounts ↔
        ∀ value ∈ values, value.isNumber = true ∨ value.isEmpty = true) ∧
      ((∀ value ∈ values, value.isNumber = true ∨ value.isEmpty = true) →
        ∀ aggregate : Builtin.Aggregate, ofCells aggregate.name = ofRange aggregate.name) := by
  intro values amounts ofRange ofCells
  obtain ⟨rows, hvalues, hcall⟩ := evaluate_range_and_cells hindex hcells herror seed
  change rows.flatten = values at hvalues
  have hsingle : ∀ value ∈ values, value.isArray = false :=
    List.forall_mem_map.mpr fun cell _ => Value.is_array_of_cell _
  have hshown : ∀ value ∈ rows.flatten, value.isError = false :=
    hvalues ▸ List.forall_mem_map.mpr herror
  have hrange : ∀ aggregate : Builtin.Aggregate,
      ofRange aggregate.name = .ok (settle (aggregate.join amounts)) := by
    intro aggregate
    refine (hcall _ _ aggregate.find_name).1.trans ?_
    rw [aggregate.apply_array hshown, hvalues]
  have hlisted : ∀ aggregate : Builtin.Aggregate,
      ofCells aggregate.name = .ok (settle (Builtin.readNumbers values >>= aggregate.join)) := by
    intro aggregate
    refine (hcall _ _ aggregate.find_name).2.trans ?_
    rw [hvalues, aggregate.apply_singles hsingle]
  have hcount : ofCells "COUNT" = ofRange "COUNT" := by
    obtain ⟨hone, hmany⟩ := hcall "COUNT" Builtin.count rfl
    exact hmany.trans (Builtin.count_array rows ▸ hone.symm)
  have hfilled : ofCells "COUNTA" = ofRange "COUNTA" := by
    obtain ⟨hone, hmany⟩ := hcall "COUNTA" Builtin.countFilled rfl
    exact hmany.trans (Builtin.count_filled_array rows ▸ hone.symm)
  refine ⟨?_, fun aggregate => ⟨hrange aggregate, hlisted aggregate⟩,
    Builtin.read_numbers_eq_iff, fun hplain aggregate => ?_⟩
  · simp [hcount, hfilled]
  · rw [hlisted, hrange, Builtin.read_numbers_eq_iff.mpr hplain]
    rfl

/-- A sheet with a text above the number one. -/
def labelBook : Workbook :=
  { Workbook.new with
    sheets := [((Worksheet.blank "Sheet1").insert ⟨0, 0⟩ (.text "label") ⟨by decide, rfl⟩).insert
      ⟨1, 0⟩ (.number 1.0) ⟨by decide, rfl⟩] }

/-- The first three cells of the column, the last of them blank: both forms count one number, and
the range adds up to it. -/
theorem aggregates_of_range_and_cells_of_label :
    let context := Context.ofCell labelBook 0 ⟨0, 1⟩ default
    let cells : List Address := [⟨0, 0, false, false⟩, ⟨1, 0, false, false⟩, ⟨2, 0, true, true⟩]
    let range := CellRange.ofPositions ⟨0, 0⟩ ⟨2, 0⟩
    context.sheetIndex none = .ok 0 ∧ cells.map Address.position = range.cells ∧
      (∀ cell ∈ range.cells, (Value.ofCell (labelBook.shown 0 cell)).isError = false) ∧
      evaluate context (.call "COUNT" (cells.map (.cell none))) default =
        evaluate context (.call "COUNT" [.range none range]) default ∧
      evaluate context (.call "SUM" [.range none range]) default =
        .ok (settle (Builtin.Aggregate.sum.join [1.0])) := by
  intro context cells range
  have hindex : context.sheetIndex none = .ok 0 := rfl
  have hcells : cells.map Address.position = range.cells := rfl
  have herror : ∀ cell ∈ range.cells, (Value.ofCell (labelBook.shown 0 cell)).isError = false := by
    decide
  obtain ⟨hcount, hjoined, -, -⟩ := aggregates_of_range_and_cells hindex hcells herror default
  exact ⟨hindex, hcells, herror, hcount "COUNT" List.mem_cons_self, (hjoined .sum).1⟩

/-- A text that spells no number is passed over in a range, and refused as a cell. -/
theorem label_summed_apart :
    ∃ ofRange ofCells, Formula.parse "=SUM(A1:A2)" = .ok ofRange ∧
      Formula.parse "=SUM(A1,A2)" = .ok ofCells ∧
      evaluate (.ofCell labelBook 0 ⟨0, 1⟩ default) ofRange default =
        .ok (.number (Builtin.total [1.0])) ∧
      evaluate (.ofCell labelBook 0 ⟨0, 1⟩ default) ofCells default = .ok (.error .value) := by
  have hrange : Formula.tokens "=SUM(A1:A2)" = .ok [.identifier "SUM", .symbol .leftParen,
      .cell ⟨0, 0, false, false⟩, .symbol .colon, .cell ⟨1, 0, false, false⟩,
      .symbol .rightParen] := by rfl
  have hcells : Formula.tokens "=SUM(A1,A2)" = .ok [.identifier "SUM", .symbol .leftParen,
      .cell ⟨0, 0, false, false⟩, .symbol .comma, .cell ⟨1, 0, false, false⟩,
      .symbol .rightParen] := by rfl
  exact ⟨_, _, bind_eq_ok_iff.mpr ⟨_, hrange, rfl⟩, bind_eq_ok_iff.mpr ⟨_, hcells, rfl⟩, rfl, rfl⟩

end Evaluation

end Spreadsheet
