import Spreadsheet.Formula.Error
import Spreadsheet.Value
import Spreadsheet.Workbook

/-!
# Where a formula is evaluated

A context is the cell a formula belongs to, the workbook around it and the moment of the
calculation. It resolves sheet names and reads cells, ranges and defined names; what does not
exist becomes an error value here. A formula may also be evaluated without a workbook, and then it
sees no cells.
-/

namespace Spreadsheet

open Calendar (Date DateSystem)

/-- A point in time, by date and second of the day. -/
structure Moment where
  date : Date
  second : Nat
  deriving DecidableEq, Repr, Inhabited

/-- Where and when a formula is evaluated. -/
structure Context where
  workbook : Option Workbook
  sheet : Nat
  position : Position
  dateSystem : DateSystem
  moment : Moment

/-- An operand of a function that takes references: a value, or a range still to be read. -/
inductive Operand where
  | value (value : Value)
  | range (address : SheetRange)
  deriving Inhabited

/-- The value of an operand that is no range. -/
def Operand.value? : Operand → Option Value
  | value content => some content
  | range _ => none

namespace Context

/-- The context of a cell of a workbook. -/
def ofCell (workbook : Workbook) (sheet : Nat) (position : Position) (moment : Moment) : Context :=
  ⟨some workbook, sheet, position, workbook.dateSystem, moment⟩

/-- A context without a workbook. -/
def bare (moment : Moment) : Context := ⟨none, 0, ⟨0, 0⟩, .from1900, moment⟩

/-- The number of a named sheet, or of the sheet of the formula. -/
def sheetIndex (context : Context) (name : Option String) : Except ErrorValue Nat :=
  match context.workbook, name with
  | none, some _ => .error .reference
  | none, none => .ok context.sheet
  | some workbook, some name => (workbook.sheetIndex name).elim (.error .reference) .ok
  | some workbook, none =>
    if context.sheet < workbook.sheetCount then .ok context.sheet else .error .reference

/-- What a cell shows, on a sheet given by number. -/
def shown (context : Context) (sheet : Nat) (position : Position) : Value :=
  match context.workbook with
  | some workbook => .ofCell (workbook.shown sheet position)
  | none => .empty

/-- The value of a cell. -/
def cellValue (context : Context) (sheet : Option String) (position : Position) : Value :=
  match context.sheetIndex sheet with
  | .ok index => context.shown index position
  | .error fault => .error fault

/-- A range on a sheet given by name. -/
def rangeAddress (context : Context) (sheet : Option String) (range : CellRange) :
    Except ErrorValue SheetRange :=
  (context.sheetIndex sheet).map fun index => ⟨index, range⟩

/-- Whether the workbook has a sheet of a number. -/
def hasSheet (context : Context) (sheet : Nat) : Bool :=
  context.workbook.any fun workbook => sheet < workbook.sheetCount

/-- The values of a range, row by row. Without a workbook there are none. -/
def rangeValues (context : Context) (address : SheetRange) : Value :=
  if context.workbook.isNone then .array []
  else if context.hasSheet address.sheet then
    .array (address.range.rows.map fun row =>
      address.range.columns.map fun column => context.shown address.sheet ⟨row, column⟩)
  else .error .reference

/-- The value of an operand: a range of one cell is that cell's value, a larger one an array. -/
def operandValue (context : Context) : Operand → Value
  | .value value => value
  | .range address =>
    if address.range.isMulti then context.rangeValues address
    else if context.workbook.isNone then .empty
    else if context.hasSheet address.sheet then
      context.shown address.sheet address.range.first.position
    else .error .reference

/-- The definition that a name has on a named sheet, or on the sheet of the formula. -/
def definition (context : Context) (sheet : Option String) (name : String) :
    Except ErrorValue (Option DefinedName) :=
  (context.sheetIndex sheet).map fun index =>
    context.workbook.bind fun workbook => workbook.names.get name index

end Context

end Spreadsheet
