import Spreadsheet.Address.Basic

/-!
# Cell keys

A cell of a document has one key below `2 ^ 64`: the digits of a number whose lowest place counts
columns, whose next counts rows, and whose highest counts sheets. So keys order cells by sheet,
then row, then column.
-/

namespace Spreadsheet

/-- The key of a cell among all sheets of a document. -/
structure CellId where
  key : Nat
  deriving DecidableEq, Repr, Inhabited

namespace CellId

/-- A key has room for this many sheets, `2 ^ 30`. -/
def sheetLimit : Nat := 1073741824

/-- Packs a cell of the grid; the row is checked first, then the column, then the sheet. -/
def pack (sheet : Nat) (position : Position) : Except DocumentError CellId := do
  position.check
  if sheetLimit ≤ sheet then .error (.sheetOutOfBounds sheet sheetLimit)
  else .ok ⟨(sheet * rowLimit + position.row) * columnLimit + position.column⟩

/-- The sheet of a key. -/
def sheet (id : CellId) : Nat := id.key / columnLimit / rowLimit

/-- The row of a key. -/
def row (id : CellId) : Nat := id.key / columnLimit % rowLimit

/-- The column of a key. -/
def column (id : CellId) : Nat := id.key % columnLimit

/-- The position of a key on its sheet. -/
def position (id : CellId) : Position := ⟨id.row, id.column⟩

/-- The written form of a key: the sheet by its number in brackets, then the address. -/
def render (id : CellId) : String := s!"[{id.sheet}]{id.position.render}"

end CellId

end Spreadsheet
