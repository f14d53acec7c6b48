import Spreadsheet.Address.SheetQualifier
import Spreadsheet.Formula.Error
import Spreadsheet.Workbook

/-!
# Ranges by their written address

A range can be named from outside a formula, as in `Data!A1:B3`. What it shows is read by position
or by distance from its first corner, and is blank outside it.
-/

namespace Spreadsheet.Workbook

open Formula (FormulaError)

/-- The range that a text names, on the sheet named in it or else on a given one. -/
def resolveRange (book : Workbook) (home : Nat) (reference : String) :
    Except FormulaError SheetRange := do
  let (qualifier, written) := SheetQualifier.split reference
  let sheet ← match qualifier with
    | none => pure home
    | some name => (book.sheetIndex name).elim (.error (.invalidReference (.unknownSheet name))) .ok
  let range ← (CellRange.parse written).mapError fun refusal =>
    .invalidReference (.document refusal)
  if sheet < book.sheetCount then return ⟨sheet, range⟩
  else throw (.invalidReference (.sheetOutOfBounds sheet book.sheetCount))

/-- What a range shows at a position. -/
def shownIn (book : Workbook) (address : SheetRange) (position : Position) : Cell :=
  if address.range.contains position then book.shown address.sheet position else .empty

/-- What a range shows at a distance in rows and columns from its first corner. -/
def shownFromCorner (book : Workbook) (address : SheetRange) (distance : Position) : Cell :=
  book.shownIn address
    ⟨address.range.first.row + distance.row, address.range.first.column + distance.column⟩

/-- The stored cells of a range, row by row. -/
def storedIn (book : Workbook) (address : SheetRange) : List (Position × Cell) :=
  ((book.sheet? address.sheet).map fun sheet => sheet.cellsIn address.range).getD []

end Spreadsheet.Workbook
