import Spreadsheet.Builtin.Operands
import Spreadsheet.Lookup.Search

/-!
# Tables

Functions that look values up in a table or take parts of it. A table that is a range of the
workbook is read key by key; one that is a value is cut into the lines that hold a key and its
results each.
-/

namespace Spreadsheet.Builtin

open Lookup (Direction Source LookupError MatchMode)

/-- The rows of a value; a single value is one row of one column. -/
def rowsOf : Value → List (List Value)
  | .array rows => rows
  | single => [[single]]

/-- The value of a row in a column; beyond its end a row is blank. -/
def itemIn (row : List Value) (column : Nat) : Value := (row[column]?).getD .empty

/-- The columns of rows, as many as the first row is long. Where a row is shorter, blanks stand
in. -/
def transpose (rows : List (List Value)) : List (List Value) :=
  (List.range (rows.headD []).length).map fun column =>
    rows.map fun row => itemIn row column

/-- Height and width of an operand. -/
def dimensions : Operand → Nat × Nat
  | .range address => (address.range.rowCount, address.range.columnCount)
  | .value value => ((rowsOf value).length, ((rowsOf value).headD []).length)

/-- The source of a table whose keys lie along a direction, and the direction in which to walk it:
the lines of a value lie below each other. -/
def table (operand : Operand) (along : Direction) : Source × Direction :=
  match operand with
  | .range address => (.range address, along)
  | .value value =>
    let lines := match along with
      | .vertical => rowsOf value
      | .horizontal => transpose (rowsOf value)
    (.array (lines.map fun line => .array [line]), .vertical)

/-- A blank that was looked up reads as zero. -/
def returned : Value → Value
  | .empty => .number 0.0
  | value => value

/-- An error value as the outcome of a lookup. -/
def fail {α : Type} (fault : ErrorValue) : Except LookupError α := .error (.cell fault)

/-- A coercion inside a lookup. -/
def coerced {α : Type} (result : Except ErrorValue α) : Except LookupError α :=
  result.mapError .cell

/-- The value of the operand at an index, if it was given. -/
def valueAt (context : Context) (operands : List Operand) (index : Nat) : Option Value :=
  (operands[index]?).map context.operandValue

/-- The operand at an index, which must have been given. -/
def operandAt (operands : List Operand) (index : Nat) : Except LookupError Operand :=
  (operands[index]?).elim (fail .value) .ok

/-- The number of a result, from one. What is not a number is not less than one. -/
def resultNumber (value : Value) : Except ErrorValue Float := do
  let amount ← value.toNumber
  if !Number.isNotNumber amount && Number.wholePart amount < 1 then throw .value
  return amount

/-- The steps from a key to its result, given the number of the result. No steps lead to what is
not a number. -/
def resultIndex (amount : Float) : Except LookupError Nat :=
  if Number.isNotNumber amount then .error .indexNotNumber
  else .ok (Number.wholePart amount - 1).toNat

/-- `VLOOKUP` and `HLOOKUP`: a value, a table, the number of the result, and whether the nearest key
will do, which it does if that is left out. -/
def tableLookup (along : Direction) (context : Context) (operands : List Operand) :
    Except LookupError Value := do
  let value := (valueAt context operands 0).getD .empty
  let operand ← operandAt operands 1
  let number ← coerced (resultNumber ((valueAt context operands 2).getD .empty))
  let approximate ← match valueAt context operands 3 with
    | some flag => coerced flag.toLogical
    | none => pure true
  let (source, direction) := table operand along
  let request ← Lookup.Request.of value (← resultIndex number) source approximate
  let mode := if approximate then MatchMode.ascending else .exact
  match ← Lookup.search direction request mode context with
  | some hit => return returned hit.value
  | none => fail .notAvailable

/-- The source of a single row or column, with the direction of its keys. -/
def vector : Operand → Except LookupError (Source × Direction)
  | .range address =>
    if address.range.rowCount = 1 then .ok (.range address, .horizontal)
    else if address.range.columnCount = 1 then .ok (.range address, .vertical)
    else fail .notAvailable
  | .value value =>
    let rows := rowsOf value
    if 1 < rows.length ∧ rows.any (fun row => 1 < row.length) then fail .notAvailable
    else .ok (.array rows.flatten, .vertical)

/-- `MATCH(value, vector, mode)`: the position of a key, from one. -/
def position (context : Context) (operands : List Operand) : Except LookupError Value := do
  let value := (valueAt context operands 0).getD .empty
  let number ← match valueAt context operands 2 with
    | some mode => (coerced mode.toNumber).map Number.wholePart
    | none => pure 1
  let (source, direction) ← vector (← operandAt operands 1)
  let request ← Lookup.Request.of value 0 source (number != 0)
  match ← Lookup.search direction request (.ofNumber number) context with
  | some hit => return ofCount (hit.position + 1)
  | none => fail .notAvailable

/-- `LOOKUP(value, keys, results)`: keys lie along the longer side. Without results the answer comes
from the last column or row of the keys. -/
def vectorLookup (context : Context) (operands : List Operand) : Except LookupError Value := do
  let value := (valueAt context operands 0).getD .empty
  let keys ← operandAt operands 1
  let results := operands[2]?
  let (height, width) := dimensions keys
  let along := if width ≤ height then Direction.vertical else .horizontal
  let index := match results, along with
    | some _, _ => 0
    | none, .vertical => width - 1
    | none, .horizontal => height - 1
  let (source, direction) := table keys along
  let request ← Lookup.Request.of value index source true
  match ← Lookup.search direction request .ascending context with
  | none => fail .notAvailable
  | some hit =>
    match results with
    | none => return returned hit.value
    | some operand =>
      match (context.operandValue operand).flatten[hit.position]? with
      | some found => return returned found
      | none => fail .notAvailable

/-- `ROW` and `COLUMN`: a number of the first cell of a reference, or of the formula's own cell,
from one. -/
def place (pick : Position → Nat) (context : Context) (operands : List Operand) :
    Except LookupError Value :=
  match operands with
  | [] => .ok (ofCount (pick context.position + 1))
  | .range address :: _ => .ok (ofCount (pick address.range.first.position + 1))
  | .value _ :: _ => fail .value

/-- `ROWS` and `COLUMNS`: a dimension of a table. -/
def dimension (pick : Nat × Nat → Nat) (_ : Context) (operands : List Operand) :
    Except LookupError Value := do
  return ofCount (pick (dimensions (← operandAt operands 0)))

/-- The part of rows that a row and a column number from one select; zero selects all rows or all
columns. -/
def part (rows : List (List Value)) (row column : Nat) : Result :=
  match row, column with
  | 0, 0 => .ok (.array rows)
  | 0, column + 1 => .ok (.array (rows.map fun line => [itemIn line column]))
  | row + 1, 0 => (rows[row]?).elim (.error .reference) fun line => .ok (.array [line])
  | row + 1, column + 1 =>
    ((rows[row]?).bind fun items => items[column]?).elim (.error .reference) .ok

/-- `INDEX(array, row, column)`: with one number, a single row is indexed by column; a single column
needs no column number. -/
def index (operands : List Value) : Result := do
  let rows := rowsOf (operand operands 0)
  let row ← integer operands 1
  let column ← if operands.length ≤ 2 then pure 0 else integer operands 2
  if row < 0 ∨ column < 0 then throw .value
  let height := rows.length
  let width := (rows.headD []).length
  let (row, column) :=
    if operands.length = 2 ∧ height = 1 then (1, row)
    else if width = 1 ∧ column = 0 then (row, 1)
    else (row, column)
  if (height : Int) < row ∨ (width : Int) < column then throw .reference
  part rows row.toNat column.toNat

/-- `CHOOSE(number, value, …)`: the operand of a number from one. -/
def chooseAmong (operands : List Value) : Result := do
  let amount ← number operands 0
  let whole := Number.wholePart amount
  if Number.isNotNumber amount || whole < 1 || operands.length ≤ whole then throw .value
  return operand operands whole.toNat

end Spreadsheet.Builtin
