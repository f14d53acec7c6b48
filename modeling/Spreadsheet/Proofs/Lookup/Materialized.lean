import Mathlib.Data.List.Forall2
import Spreadsheet.Builtin.Registry
import Spreadsheet.Proofs.Address.Range

/-!
# Ranges and the data in them

A lookup reads the keys and results of a range from the workbook as it goes, and those of an array
from lines that the array is cut into first. The main theorem, `lookup_materialized`, says that a
range gives the same as the array of its values. The reason is that both are the same walk: the
lines of the array along a direction are the rows or columns of the range.
-/

namespace Spreadsheet.Builtin

open Lookup (Direction Source Request LookupError MatchMode)
open Lookup hiding search

/-! ## The lines of a range -/

/-- The numbers of the lines of a range that hold a key and its results each. -/
def lineNumbers (range : CellRange) : Direction → List Nat
  | .vertical => range.rows
  | .horizontal => range.columns

/-- The numbers of the places in such a line. -/
def placeNumbers (range : CellRange) : Direction → List Nat
  | .vertical => range.columns
  | .horizontal => range.rows

/-- The cell of a line and a place. -/
def cellOf : Direction → (line place : Nat) → Position
  | .vertical, line, place => ⟨line, place⟩
  | .horizontal, line, place => ⟨place, line⟩

/-- The values of a line of a range. -/
def lineValues (context : Context) (address : SheetRange) (along : Direction) (line : Nat) :
    List Value :=
  (placeNumbers address.range along).map fun place =>
    context.shown address.sheet (cellOf along line place)

/-- The values of a range, line by line. -/
def linesAlong (context : Context) (address : SheetRange) (along : Direction) :
    List (List Value) :=
  (lineNumbers address.range along).map (lineValues context address along)

section Lines

variable {context : Context} {address : SheetRange}

/-- A context with a sheet has a workbook. -/
theorem workbook_of_sheet {sheet : Nat} (h : context.hasSheet sheet) :
    context.workbook.isNone = false := by
  unfold Context.hasSheet at h
  cases found : context.workbook with
  | none => rw [found] at h; cases h
  | some workbook => rfl

/-- A range on a sheet is worth its rows. -/
theorem range_values_eq (h : context.hasSheet address.sheet) :
    context.rangeValues address = .array (linesAlong context address .vertical) := by
  unfold Context.rangeValues
  rw [workbook_of_sheet h, h]
  rfl

/-- Every range has a line. -/
theorem line_numbers_pos (range : CellRange) (along : Direction) :
    0 < (lineNumbers range along).length := by
  cases along <;> simp [lineNumbers, CellRange.rows, CellRange.columns, CellRange.rowCount,
    CellRange.columnCount]

/-- A line has as many places as the range has across it. -/
theorem head_lines (along : Direction) :
    ((linesAlong context address along).headD []).length =
      (placeNumbers address.range along).length := by
  have filled := line_numbers_pos address.range along
  unfold linesAlong
  cases lines : lineNumbers address.range along with
  | nil => simp [lines] at filled
  | cons line rest => simp [lineValues]

/-- The columns of the rows of a range are its lines the other way. -/
theorem transpose_lines :
    transpose (linesAlong context address .vertical) = linesAlong context address .horizontal := by
  rw [transpose, head_lines]
  apply List.ext_getElem
  · simp [linesAlong, lineNumbers, placeNumbers]
  · intro column inside _
    have within : column < address.range.columns.length := by
      simpa [placeNumbers] using inside
    simp [linesAlong, lineValues, lineNumbers, placeNumbers, cellOf, itemIn, within]

/-- A range and the array of its values have the same source of keys, line by line. -/
theorem table_of_values (along : Direction) :
    table (.value (.array (linesAlong context address .vertical))) along =
      (.array ((linesAlong context address along).map fun line => .array [line]), .vertical) := by
  cases along with
  | vertical => rfl
  | horizontal =>
      show (Source.array (List.map _ (transpose (linesAlong context address .vertical))), _) = _
      rw [transpose_lines]

end Lines

/-! ## The walk over lines -/

/-- What stands some steps away from a key, in the line of that key. -/
def valueBeside (lines : List (List Value)) (key steps : Nat) : Value :=
  ((lines[key]?).bind fun values => values[steps]?).getD .empty

/-- The walk over the lines of a range. -/
def walkLines (context : Context) (address : SheetRange) (along : Direction) (index : Nat) :
    Except LookupError Navigator :=
  if (placeNumbers address.range along).length ≤ index then .error (.cell .reference)
  else
    .ok {
      length := (lineNumbers address.range along).length
      keyAt := fun key => valueBeside (linesAlong context address along) key 0
      resultAt := fun key => valueBeside (linesAlong context address along) key index
      position := 0 }

section Walk

variable {context : Context} {address : SheetRange}

/-- An array of the lines of a range extends as far as the range has places. -/
theorem extent_lines (along : Direction) :
    extent ((linesAlong context address along).map fun line => .array [line]) =
      (placeNumbers address.range along).length := by
  rw [← @head_lines context address along]
  have filled := line_numbers_pos address.range along
  unfold linesAlong
  cases lines : lineNumbers address.range along with
  | nil => simp [lines] at filled
  | cons line rest => rfl

/-- A line of an array gives what stands beside its key. -/
theorem item_of_line (along : Direction) {index : Nat}
    (within : index < (placeNumbers address.range along).length) (key : Nat) :
    (((linesAlong context address along)[key]?).map fun line => itemOf (.array [line]) index).getD
        .empty =
      valueBeside (linesAlong context address along) key index := by
  unfold valueBeside
  cases at_key : (linesAlong context address along)[key]? with
  | none => rfl
  | some line =>
      have long : index < line.length := by
        simp only [linesAlong, List.getElem?_map, Option.map_eq_some_iff] at at_key
        obtain ⟨number, -, rfl⟩ := at_key
        simpa [lineValues] using within
      simp [itemOf, long]

/-- A walk over an array of lines is the walk over these lines. -/
theorem over_array_lines (along : Direction) (value : Value) (index : Nat) (approximate : Bool) :
    overArray .vertical ⟨value, index,
        .array ((linesAlong context address along).map fun line => .array [line]), approximate⟩ =
      walkLines context address along index := by
  unfold overArray walkLines
  simp only [extent_lines]
  by_cases beyond : (placeNumbers address.range along).length ≤ index
  · rw [if_pos beyond, if_pos beyond]
  · rw [if_neg beyond, if_neg beyond]
    have within := Nat.lt_of_not_le beyond
    congr 2
    · simp [linesAlong]
    · funext key
      rw [← item_of_line along (Nat.zero_lt_of_lt within)]
      simp only [List.getElem?_toArray, List.getElem?_map, Option.map_map]
      rfl
    · funext key
      rw [← item_of_line along within]
      simp only [List.getElem?_toArray, List.getElem?_map]
      cases (linesAlong context address along)[key]? <;> rfl

/-- A cell some rows and columns from the first one is in the range exactly if there are so many. -/
theorem contains_offset_iff (range : CellRange) (row column : Nat) :
    range.contains ⟨range.first.row + row, range.first.column + column⟩ =
      (decide (row < range.rowCount) && decide (column < range.columnCount)) := by
  have rows_ordered := range.rows_ordered
  have columns_ordered := range.columns_ordered
  rw [Bool.eq_iff_iff, CellRange.contains_iff, CellRange.mem_rows_iff, CellRange.mem_columns_iff,
    Bool.and_eq_true, decide_eq_true_iff, decide_eq_true_iff]
  unfold CellRange.rowCount CellRange.columnCount
  dsimp only
  omega

/-- A cell of a range is a place in one of its lines. -/
theorem value_beside_vertical (key steps : Nat) :
    valueBeside (linesAlong context address .vertical) key steps =
      if address.range.contains ⟨address.range.first.row + key, address.range.first.column + steps⟩
      then context.shown address.sheet
        ⟨address.range.first.row + key, address.range.first.column + steps⟩
      else .empty := by
  rw [contains_offset_iff]
  by_cases inLines : key < address.range.rowCount <;>
    by_cases inPlaces : steps < address.range.columnCount <;>
      simp [valueBeside, linesAlong, lineValues, lineNumbers, placeNumbers, CellRange.rows,
        CellRange.columns, cellOf, inLines, inPlaces]

/-- What stands beside a key in a row of keys is the cell below it, if the range has one. -/
theorem value_beside_horizontal (key steps : Nat) :
    valueBeside (linesAlong context address .horizontal) key steps =
      if address.range.contains ⟨address.range.first.row + steps, address.range.first.column + key⟩
      then context.shown address.sheet
        ⟨address.range.first.row + steps, address.range.first.column + key⟩
      else .empty := by
  rw [contains_offset_iff]
  by_cases inLines : key < address.range.columnCount <;>
    by_cases inPlaces : steps < address.range.rowCount <;>
      simp [valueBeside, linesAlong, lineValues, lineNumbers, placeNumbers, CellRange.rows,
        CellRange.columns, cellOf, inLines, inPlaces]

/-- A walk over a range is the walk over its lines. -/
theorem over_range_lines (h : context.hasSheet address.sheet) (along : Direction)
    (value : Value) (index : Nat) (approximate : Bool) :
    overRange along ⟨value, index, .range address, approximate⟩ context =
      walkLines context address along index := by
  unfold overRange walkLines
  cases along with
  | vertical =>
      simp [h, value_beside_vertical, placeNumbers, lineNumbers, CellRange.columns, CellRange.rows]
  | horizontal =>
      simp [h, value_beside_horizontal, placeNumbers, lineNumbers, CellRange.columns,
        CellRange.rows]

end Walk

/-! ## Single rows and columns -/

/-- No cell shows an array. -/
theorem shown_ne_array (context : Context) (sheet : Nat) (position : Position)
    (rows : List (List Value)) : context.shown sheet position ≠ .array rows := by
  unfold Context.shown
  split
  · unfold Value.ofCell
    split <;> exact nofun
  · exact nofun

/-- A single value is all that there is of an element. -/
theorem item_of_shown (context : Context) (sheet : Nat) (position : Position) (index : Nat) :
    itemOf (context.shown sheet position) index = context.shown sheet position := by
  unfold itemOf
  split
  · rename_i rows shown
    exact absurd shown (shown_ne_array context sheet position rows)
  · rfl

section Single

variable {context : Context} {address : SheetRange} {along : Direction} {place : Nat}

/-- The keys of a range whose lines have one place each. -/
def keysAt (context : Context) (address : SheetRange) (along : Direction) (place : Nat) :
    List Value :=
  (lineNumbers address.range along).map fun line =>
    context.shown address.sheet (cellOf along line place)

/-- Where lines have one place each, they are the keys. -/
theorem lines_of_single_place (h : placeNumbers address.range along = [place]) :
    linesAlong context address along =
      (keysAt context address along place).map fun key => [key] := by
  rw [linesAlong, keysAt, List.map_map]
  refine List.map_congr_left fun line _ => ?_
  rw [lineValues, h]
  rfl

/-- A range of one row has all its cells in one line. -/
theorem lines_of_one_row (h : address.range.rowCount = 1) :
    linesAlong context address .vertical =
      [keysAt context address .horizontal address.range.first.row] := by
  rw [linesAlong, lineNumbers, CellRange.rows, h]
  rfl

/-- The keys of a range extend as far as it has lines. -/
theorem extent_keys : extent (keysAt context address along place) =
    (lineNumbers address.range along).length := by
  unfold keysAt
  cases lineNumbers address.range along with
  | nil => rfl
  | cons line rest =>
      rw [List.map_cons, extent]
      · simp
      · intro rows others shown
        exact shown_ne_array _ _ _ rows (List.cons.inj shown).1

/-- The walk over single values is the walk over the row or column they come from. -/
theorem over_array_keys (h : placeNumbers address.range along = [place]) (value : Value)
    (approximate : Bool) :
    overArray .vertical ⟨value, 0, .array (keysAt context address along place), approximate⟩ =
      walkLines context address along 0 := by
  have filled := line_numbers_pos address.range along
  unfold overArray walkLines
  simp only [extent_keys, h]
  rw [if_neg (Nat.not_le_of_lt filled), if_neg (by simp)]
  congr 2
  · simp [keysAt]
  · funext key
    rw [valueBeside, lines_of_single_place h]
    simp only [keysAt, List.getElem?_toArray, List.getElem?_map]
    cases (lineNumbers address.range along)[key]? with
    | none => rfl
    | some line => exact item_of_shown _ _ _ 0
  · funext key
    rw [valueBeside, lines_of_single_place h]
    simp only [keysAt, List.getElem?_toArray, List.getElem?_map]
    cases (lineNumbers address.range along)[key]? with
    | none => rfl
    | some line =>
        dsimp only [Option.map_some, Option.bind_some]
        cases shown : context.shown address.sheet (cellOf along line place) with
        | array rows => exact absurd shown (shown_ne_array _ _ _ rows)
        | _ => rfl

end Single

/-! ## Operands and the values in them -/

/-- Two sources with their directions are walked alike for results some steps away. -/
def WalkAlike (context : Context) (index : Nat) (left right : Source × Direction) : Prop :=
  ∀ value approximate,
    navigate left.2 ⟨value, index, left.1, approximate⟩ context =
      navigate right.2 ⟨value, index, right.1, approximate⟩ context

section Operand

variable {context : Context} {address : SheetRange}

/-- A table is walked alike whether it is a range or the values of one. -/
theorem tables_walk_alike (h : context.hasSheet address.sheet) (along : Direction) (index : Nat) :
    WalkAlike context index (table (.value (context.rangeValues address)) along)
      (table (.range address) along) := by
  intro value approximate
  rw [range_values_eq h, table_of_values]
  exact (over_array_lines along value index approximate).trans
    (over_range_lines h along value index approximate).symm

/-- A vector is walked alike whether it is a range or the values of one. -/
theorem keys_walk_alike (h : context.hasSheet address.sheet) {along : Direction} {place : Nat}
    (single : placeNumbers address.range along = [place]) :
    WalkAlike context 0 (.array (keysAt context address along place), .vertical)
      (.range address, along) := by
  intro value approximate
  exact (over_array_keys single value approximate).trans
    (over_range_lines h along value 0 approximate).symm

/-- The values of a range are a single row or column if the range is one. -/
theorem vectors_walk_alike (h : context.hasSheet address.sheet) :
    (∃ fault, vector (.value (context.rangeValues address)) = .error fault ∧
        vector (.range address) = .error fault) ∨
      ∃ left right, vector (.value (context.rangeValues address)) = .ok left ∧
        vector (.range address) = .ok right ∧ WalkAlike context 0 left right := by
  rw [range_values_eq h]
  by_cases one_row : address.range.rowCount = 1
  · refine .inr ⟨(.array (keysAt context address .horizontal address.range.first.row), .vertical),
      (.range address, .horizontal), ?_, ?_, ?_⟩
    · rw [lines_of_one_row one_row]
      simp [vector, rowsOf]
    · simp [vector, one_row]
    · exact keys_walk_alike h (by rw [placeNumbers, CellRange.rows, one_row]; rfl)
  · by_cases one_column : address.range.columnCount = 1
    · have one_place : placeNumbers address.range .vertical = [address.range.first.column] := by
        rw [placeNumbers, CellRange.columns, one_column]
        rfl
      refine .inr
        ⟨(.array (keysAt context address .vertical address.range.first.column), .vertical),
          (.range address, .vertical), ?_, ?_, ?_⟩
      · rw [lines_of_single_place one_place]
        simp [vector, rowsOf, ← List.flatMap_def]
      · simp [vector, one_row, one_column]
      · exact keys_walk_alike h one_place
    · refine .inl ⟨.cell .notAvailable, ?_, ?_⟩
      · have several_rows : 1 < (linesAlong context address .vertical).length := by
          have filled := line_numbers_pos address.range .vertical
          simp [linesAlong, lineNumbers, CellRange.rows] at filled ⊢
          omega
        have several_columns : (linesAlong context address .vertical).any
            fun row => decide (1 < row.length) := by
          have filled := line_numbers_pos address.range .horizontal
          rw [List.any_eq_true]
          refine ⟨lineValues context address .vertical address.range.first.row, ?_, ?_⟩
          · exact List.mem_map_of_mem (CellRange.mem_rows_iff.mpr
              ⟨Nat.le_refl _, address.range.rows_ordered⟩)
          · simp [lineNumbers, lineValues, placeNumbers, CellRange.columns] at filled ⊢
            omega
        exact if_pos ⟨several_rows, several_columns⟩
      · simp [vector, one_row, one_column, fail]

/-- The value of a range operand is the array of its values, or the one value in it. -/
theorem operand_value_range (h : context.hasSheet address.sheet) :
    context.operandValue (.range address) = context.rangeValues address ∨
      ∃ position, context.operandValue (.range address) = context.shown address.sheet position ∧
        context.rangeValues address = .array [[context.shown address.sheet position]] := by
  simp only [Context.operandValue]
  by_cases multi : address.range.isMulti
  · exact .inl (if_pos multi)
  · refine .inr ⟨address.range.first.position, ?_, ?_⟩
    · rw [if_neg multi, workbook_of_sheet h, h]
      rfl
    · simp only [CellRange.isMulti, Bool.or_eq_true, bne_iff_ne, not_or, Decidable.not_not] at multi
      have one_row : address.range.rowCount = 1 := by
        rw [CellRange.rowCount, multi.1, Nat.sub_self]
      have one_column : address.range.columnCount = 1 := by
        rw [CellRange.columnCount, multi.2, Nat.sub_self]
      rw [range_values_eq h, lines_of_one_row one_row, keysAt, lineNumbers, CellRange.columns,
        one_column]
      rfl

end Operand

/-- An operand, which may have become the array of the values of a range on an existing sheet. -/
inductive Materialized (context : Context) : Operand → Operand → Prop
  | same (operand : Operand) : Materialized context operand operand
  | values {address : SheetRange} : context.hasSheet address.sheet →
      Materialized context (.range address) (.value (context.rangeValues address))

namespace Materialized

variable {context : Context} {operand other : Operand}

/-- What an operand contains is the same whether or not it is materialized. -/
theorem flatten_eq (h : Materialized context operand other) :
    (context.operandValue other).flatten = (context.operandValue operand).flatten := by
  cases h with
  | same => rfl
  | values sheet =>
      obtain whole | ⟨position, single, values⟩ := operand_value_range sheet
      · rw [whole]
        rfl
      · rw [single]
        show (Context.rangeValues _ _).flatten = _
        rw [values]
        rfl

/-- The single value of an operand is the same whether or not it is materialized. -/
theorem scalar_eq (h : Materialized context operand other) :
    (context.operandValue other).scalar = (context.operandValue operand).scalar := by
  cases h with
  | same => rfl
  | values sheet =>
      obtain whole | ⟨position, single, values⟩ := operand_value_range sheet
      · rw [whole]
        rfl
      · rw [single]
        show (Context.rangeValues _ _).scalar = _
        rw [values]
        rfl

/-- The dimensions of an operand are the same whether or not it is materialized. -/
theorem dimensions_eq (h : Materialized context operand other) :
    dimensions other = dimensions operand := by
  cases h with
  | same => rfl
  | values sheet =>
      rw [range_values_eq sheet]
      show ((linesAlong _ _ _).length, ((linesAlong _ _ _).headD []).length) = _
      rw [head_lines]
      simp [dimensions, linesAlong, lineNumbers, placeNumbers, CellRange.rows, CellRange.columns]

/-- The table of an operand is walked alike whether or not it is materialized. -/
theorem table_alike (h : Materialized context operand other) (along : Direction) (index : Nat) :
    WalkAlike context index (table other along) (table operand along) := by
  cases h with
  | same => exact fun _ _ => rfl
  | values sheet => exact tables_walk_alike sheet along index

/-- The vector of an operand is refused alike, or walked alike, whether or not
it is materialized. -/
theorem vector_alike (h : Materialized context operand other) :
    (∃ fault, vector other = .error fault ∧ vector operand = .error fault) ∨
      ∃ left right, vector other = .ok left ∧ vector operand = .ok right ∧
        WalkAlike context 0 left right := by
  cases h with
  | same =>
      cases found : vector operand with
      | error fault => exact .inl ⟨fault, rfl, rfl⟩
      | ok source => exact .inr ⟨source, source, rfl, rfl, fun _ _ => rfl⟩
  | values sheet => exact vectors_walk_alike sheet

end Materialized

/-! ## Lookups -/

/-- A request for keys of a source, and what is answered if one is found. -/
def lookUp (context : Context) (keys : Source × Direction) (value : Value) (index : Nat)
    (approximate : Bool) (mode : MatchMode) (answer : Hit → Except LookupError Value) :
    Except LookupError Value := do
  let request ← Request.of value index keys.1 approximate
  match ← Lookup.search keys.2 request mode context with
  | some hit => answer hit
  | none => fail .notAvailable

/-- Sources that are walked alike give the same answer. -/
theorem look_up_alike {context : Context} {left right : Source × Direction} {index : Nat}
    (h : WalkAlike context index left right) (value : Value) (approximate : Bool)
    (mode : MatchMode) (answer : Hit → Except LookupError Value) :
    lookUp context left value index approximate mode answer =
      lookUp context right value index approximate mode answer := by
  have alike : ∀ value,
      Lookup.search left.2 ⟨value, index, left.1, approximate⟩ mode context =
        Lookup.search right.2 ⟨value, index, right.1, approximate⟩ mode context := by
    intro value
    unfold Lookup.search
    rw [h value approximate]
  unfold lookUp
  cases value with
  | error | array => rfl
  | _ =>
      show (Lookup.search left.2 _ mode context >>= _) =
        (Lookup.search right.2 _ mode context >>= _)
      rw [alike]

section Lookups

variable {context : Context} {operands others : List Operand}

/-- The operands at one index are both left out, or count as the same single value. -/
theorem value_at_cases (h : List.Forall₂ (Materialized context) operands others) (index : Nat) :
    (valueAt context others index = none ∧ valueAt context operands index = none) ∨
      ∃ left right, valueAt context others index = some left ∧
        valueAt context operands index = some right ∧ left.scalar = right.scalar := by
  induction h generalizing index with
  | nil => exact .inl ⟨rfl, rfl⟩
  | cons first rest ih =>
      cases index with
      | zero => exact .inr ⟨_, _, rfl, rfl, first.scalar_eq⟩
      | succ index => exact ih index

/-- The number of a result is read alike from operands at one index. -/
theorem result_number_eq (h : List.Forall₂ (Materialized context) operands others) (index : Nat) :
    resultNumber ((valueAt context others index).getD .empty) =
      resultNumber ((valueAt context operands index).getD .empty) := by
  obtain ⟨other, operand⟩ | ⟨left, right, other, operand, scalar_eq⟩ := value_at_cases h index
  · rw [other, operand]
  · rw [other, operand]
    simp only [Option.getD_some, resultNumber, Value.toNumber, scalar_eq]

/-- Whether the nearest key will do. -/
def approximateAt (context : Context) (operands : List Operand) (index : Nat) :
    Except LookupError Bool :=
  match valueAt context operands index with
  | some flag => coerced flag.toLogical
  | none => pure true

/-- Materialized operands ask for an approximate hit exactly if the operands do. -/
theorem approximate_eq (h : List.Forall₂ (Materialized context) operands others) (index : Nat) :
    approximateAt context others index = approximateAt context operands index := by
  unfold approximateAt
  obtain ⟨left, right⟩ | ⟨_, _, left, right, scalar_eq⟩ := value_at_cases h index
  · rw [left, right]
  · rw [left, right]
    simp only [Value.toLogical, scalar_eq]

/-- The functions `VLOOKUP` and `HLOOKUP` read the number of the result and the kind of the hit
before they walk over the table. -/
theorem table_lookup_eq (along : Direction) (operands : List Operand) :
    tableLookup along context operands = (do
      let keys ← operandAt operands 1
      let number ← coerced (resultNumber ((valueAt context operands 2).getD .empty))
      let approximate ← approximateAt context operands 3
      let index ← resultIndex number
      lookUp context (table keys along) ((valueAt context operands 0).getD .empty) index approximate
        (if approximate then .ascending else .exact) fun hit => return returned hit.value) := by
  unfold tableLookup approximateAt
  cases valueAt context operands 3 <;> rfl

/-- The functions `VLOOKUP` and `HLOOKUP` are the same with materialized operands. -/
theorem table_lookup_materialized (along : Direction) (value : Operand)
    (h : List.Forall₂ (Materialized context) operands others) :
    tableLookup along context (value :: others) =
      tableLookup along context (value :: operands) := by
  have all := List.Forall₂.cons (@Materialized.same context value) h
  rw [table_lookup_eq, table_lookup_eq, result_number_eq all, approximate_eq all]
  cases h with
  | nil => rfl
  | cons keys rest =>
      show (coerced _ >>= fun number => approximateAt _ _ _ >>= fun approximate => _) =
        (coerced _ >>= fun number => approximateAt _ _ _ >>= fun approximate => _)
      simp only [look_up_alike (keys.table_alike along _)]
      rfl

/-- The mode of a search for a position. -/
def modeAt (context : Context) (operands : List Operand) (index : Nat) : Except LookupError Int :=
  match valueAt context operands index with
  | some mode => (coerced mode.toNumber).map Number.wholePart
  | none => pure 1

/-- Materialized operands ask for the mode that the operands ask for. -/
theorem mode_eq (h : List.Forall₂ (Materialized context) operands others) (index : Nat) :
    modeAt context others index = modeAt context operands index := by
  unfold modeAt
  obtain ⟨left, right⟩ | ⟨_, _, left, right, scalar_eq⟩ := value_at_cases h index
  · rw [left, right]
  · rw [left, right]
    simp only [Value.toNumber, scalar_eq]

/-- The function `MATCH` reads the mode before it walks over the vector. -/
theorem position_eq (operands : List Operand) :
    position context operands = (do
      let number ← modeAt context operands 2
      let keys ← vector (← operandAt operands 1)
      lookUp context keys ((valueAt context operands 0).getD .empty) 0 (number != 0)
        (.ofNumber number) fun hit => return ofCount (hit.position + 1)) := by
  unfold position modeAt
  cases valueAt context operands 2 <;> rfl

/-- The function `MATCH` is the same with materialized operands. -/
theorem position_materialized (value : Operand)
    (h : List.Forall₂ (Materialized context) operands others) :
    position context (value :: others) = position context (value :: operands) := by
  have all := List.Forall₂.cons (@Materialized.same context value) h
  rw [position_eq, position_eq, mode_eq all]
  cases h with
  | nil => rfl
  | @cons keys other _ _ materialized rest =>
      show (modeAt _ _ _ >>= fun number => vector other >>= fun keys => _) =
        (modeAt _ _ _ >>= fun number => vector keys >>= fun keys => _)
      obtain ⟨fault, left, right⟩ | ⟨_, _, left, right, alike⟩ := materialized.vector_alike
      · rw [left, right]
        rfl
      · rw [left, right]
        show (modeAt _ _ _ >>= fun number => lookUp _ _ _ _ _ _ _) =
          (modeAt _ _ _ >>= fun number => lookUp _ _ _ _ _ _ _)
        simp only [look_up_alike alike]
        rfl

/-- The direction of keys that lie along the longer side. -/
def longerSide (keys : Operand) : Direction :=
  if (dimensions keys).2 ≤ (dimensions keys).1 then .vertical else .horizontal

/-- The steps to the last line beside the keys. -/
def lastIndex (keys : Operand) : Direction → Nat
  | .vertical => (dimensions keys).2 - 1
  | .horizontal => (dimensions keys).1 - 1

/-- The answer from a vector of results. -/
def resultIn (context : Context) (results : Operand) (hit : Hit) : Except LookupError Value :=
  match (context.operandValue results).flatten[hit.position]? with
  | some found => return returned found
  | none => fail .notAvailable

/-- A hit has its result in the same place of materialized results. -/
theorem Materialized.result_in_eq {results other : Operand}
    (h : Materialized context results other) :
    resultIn context other = resultIn context results := by
  unfold resultIn
  rw [h.flatten_eq]

/-- Without results, the answer comes from the last line beside the keys. -/
theorem vector_lookup_alone (value keys : Operand) :
    vectorLookup context [value, keys] =
      lookUp context (table keys (longerSide keys)) (context.operandValue value)
        (lastIndex keys (longerSide keys)) true .ascending
        fun hit => return returned hit.value := by
  have reads : operandAt [value, keys] 1 = pure keys := rfl
  simp only [vectorLookup, longerSide, reads, pure_bind]
  generalize (if (dimensions keys).2 ≤ (dimensions keys).1 then _ else _ : Direction) = along
  cases along <;> exact bind_congr fun _ => bind_congr fun found => by cases found <;> rfl

/-- The function `LOOKUP` with results of their own walks over the longer side of its keys. -/
theorem vector_lookup_beside (value keys results : Operand) (more : List Operand) :
    vectorLookup context (value :: keys :: results :: more) =
      lookUp context (table keys (longerSide keys)) (context.operandValue value) 0 true .ascending
        (resultIn context results) := by
  have reads : operandAt (value :: keys :: results :: more) 1 = pure keys := rfl
  simp only [vectorLookup, longerSide, reads, pure_bind]
  generalize (if (dimensions keys).2 ≤ (dimensions keys).1 then _ else _ : Direction) = along
  cases along <;> exact bind_congr fun _ => bind_congr fun found => by cases found <;> rfl

/-- The function `LOOKUP` is the same with materialized operands. -/
theorem vector_lookup_materialized (value : Operand)
    (h : List.Forall₂ (Materialized context) operands others) :
    vectorLookup context (value :: others) = vectorLookup context (value :: operands) := by
  cases h with
  | nil => rfl
  | cons keys rest =>
      cases rest with
      | nil =>
          rw [vector_lookup_alone, vector_lookup_alone]
          simp only [longerSide, lastIndex, keys.dimensions_eq]
          exact look_up_alike (keys.table_alike _ _) _ _ _ _
      | cons results rest =>
          rw [vector_lookup_beside, vector_lookup_beside, results.result_in_eq]
          simp only [longerSide, keys.dimensions_eq]
          exact look_up_alike (keys.table_alike _ _) _ _ _ _

/-- The functions that look a value up give the same for a range as for the array of its values, in
each of their operands but the value itself. -/
theorem lookup_materialized (h : List.Forall₂ (Materialized context) operands others)
    (value : Operand) {name : String} (named : name ∈ ["VLOOKUP", "HLOOKUP", "MATCH", "LOOKUP"]) :
    ∃ function apply, find? name = some function ∧ function.body = .references apply ∧
      apply context (value :: others) = apply context (value :: operands) := by
  simp only [List.mem_cons, List.not_mem_nil, or_false] at named
  obtain rfl | rfl | rfl | rfl := named
  · exact ⟨_, _, rfl, rfl, table_lookup_materialized .vertical value h⟩
  · exact ⟨_, _, rfl, rfl, table_lookup_materialized .horizontal value h⟩
  · exact ⟨_, _, rfl, rfl, position_materialized value h⟩
  · exact ⟨_, _, rfl, rfl, vector_lookup_materialized value h⟩

/-- `MATCH("x",A1:A3,0)` on a sheet with this text in `A2`. -/
theorem lookup_materialized_of_column :
    let sheet := (Worksheet.blank "Sheet1").insert ⟨1, 0⟩ (.text "x") ⟨by decide, rfl⟩
    let context : Context := .ofCell { Workbook.new with sheets := [sheet] } 0 ⟨0, 1⟩ default
    let column : SheetRange := ⟨0, .ofPositions ⟨0, 0⟩ ⟨2, 0⟩⟩
    List.Forall₂ (Materialized context) [.range column, .value (.number 0.0)]
        [.value (context.rangeValues column), .value (.number 0.0)] ∧
      "MATCH" ∈ ["VLOOKUP", "HLOOKUP", "MATCH", "LOOKUP"] ∧
      ∃ function apply, find? "MATCH" = some function ∧ function.body = .references apply ∧
        apply context
            [.value (.text "x"), .value (context.rangeValues column), .value (.number 0.0)] =
          apply context [.value (.text "x"), .range column, .value (.number 0.0)] := by
  intro sheet context column
  have operands : List.Forall₂ (Materialized context) [.range column, .value (.number 0.0)]
      [.value (context.rangeValues column), .value (.number 0.0)] :=
    .cons (.values rfl) (.cons (.same _) .nil)
  have named : "MATCH" ∈ ["VLOOKUP", "HLOOKUP", "MATCH", "LOOKUP"] := by decide
  exact ⟨operands, named, lookup_materialized operands (.value (.text "x")) named⟩

end Lookups

end Spreadsheet.Builtin
