import Spreadsheet.Address.Basic

/-!
# Ranges

A range is a rectangle of cells with its first corner at the top left and its last at the bottom
right, whichever corners it was built from. `Cursor` walks over its positions row by row.
-/

namespace Spreadsheet

/-- A rectangle of cells, written by its corners. -/
structure CellRange where
  first : Address
  last : Address
  rows_ordered : first.row ≤ last.row
  columns_ordered : first.column ≤ last.column
  deriving DecidableEq, Repr

namespace CellRange

/-- The rectangle spanned by two corners; each side keeps the mark it was written with. -/
def ofCorners (left right : Address) : CellRange :=
  let top := if left.row ≤ right.row then left else right
  let bottom := if left.row ≤ right.row then right else left
  let start := if left.column ≤ right.column then left else right
  let finish := if left.column ≤ right.column then right else left
  { first := ⟨top.row, start.column, top.fixedRow, start.fixedColumn⟩
    last := ⟨bottom.row, finish.column, bottom.fixedRow, finish.fixedColumn⟩
    rows_ordered := by grind
    columns_ordered := by grind }

/-- The range of one cell. -/
def single (address : Address) : CellRange := ⟨address, address, Nat.le_refl _, Nat.le_refl _⟩

instance : Inhabited CellRange := ⟨single default⟩

/-- The range from one position to another. -/
def ofPositions (left right : Position) : CellRange :=
  ofCorners (Address.ofPosition left) (Address.ofPosition right)

/-- Reads a range from characters without blanks around them: two addresses joined by a colon, or
one address. The first corner that is no address is what is reported. -/
def ofChars (chars : List Char) : Except DocumentError CellRange :=
  let corner (part : List Char) := Address.ofChars (Text.trimChars part)
  match chars.dropWhile (· != ':') with
  | _ :: right => do return ofCorners (← corner (chars.takeWhile (· != ':'))) (← corner right)
  | [] => do return single (← corner chars)

/-- Reads a range; blanks around it and around its corners do not count. -/
def parse (text : String) : Except DocumentError CellRange := ofChars (Text.trimChars text.toList)

/-- Whether a position lies in the rectangle. -/
def contains (range : CellRange) (position : Position) : Bool :=
  range.first.row ≤ position.row && position.row ≤ range.last.row &&
    (range.first.column ≤ position.column && position.column ≤ range.last.column)

/-- Number of rows. -/
def rowCount (range : CellRange) : Nat := range.last.row - range.first.row + 1

/-- Number of columns. -/
def columnCount (range : CellRange) : Nat := range.last.column - range.first.column + 1

/-- Number of cells. -/
def cellCount (range : CellRange) : Nat := range.rowCount * range.columnCount

/-- Whether the range has more than one cell. -/
def isMulti (range : CellRange) : Bool :=
  range.first.row != range.last.row || range.first.column != range.last.column

/-- The cells that two ranges share, if any; the shared range has no marks. -/
def intersect (left right : CellRange) : Option CellRange :=
  let top := max left.first.row right.first.row
  let bottom := min left.last.row right.last.row
  let start := max left.first.column right.first.column
  let finish := min left.last.column right.last.column
  if top ≤ bottom ∧ start ≤ finish then some (ofPositions ⟨top, start⟩ ⟨bottom, finish⟩) else none

/-- The written form: two corners, or one address for a single cell. -/
def render (range : CellRange) : String :=
  if range.isMulti then s!"{range.first.render}:{range.last.render}" else range.first.render

/-- A walk over a range, standing before the position it will give next. -/
structure Cursor where
  range : CellRange
  next : Position
  /-- How many positions are still to come. -/
  remaining : Nat
  deriving Repr

/-- The walk over a whole range, from its first position. -/
def walk (range : CellRange) : Cursor := ⟨range, range.first.position, range.cellCount⟩

/-- One step of the walk: to the right, and from the last column to the first of the next row. -/
def Cursor.step (cursor : Cursor) : Option (Position × Cursor) :=
  match cursor.remaining with
  | 0 => none
  | remaining + 1 =>
    let next : Position :=
      if cursor.next.column = cursor.range.last.column then
        ⟨cursor.next.row + 1, cursor.range.first.column⟩
      else ⟨cursor.next.row, cursor.next.column + 1⟩
    some (cursor.next, ⟨cursor.range, next, remaining⟩)

/-- The next positions of a walk, at most `count` of them, and the walk after them. -/
def Cursor.take : Nat → Cursor → List Position × Cursor
  | 0, cursor => ([], cursor)
  | count + 1, cursor =>
    match cursor.step with
    | none => ([], cursor)
    | some (position, rest) =>
      let (positions, final) := take count rest
      (position :: positions, final)

/-- All positions of a range, row by row. -/
def cells (range : CellRange) : List Position := (range.walk.take range.cellCount).1

/-- The row numbers of a range. -/
def rows (range : CellRange) : List Nat := List.range' range.first.row range.rowCount

/-- The column numbers of a range. -/
def columns (range : CellRange) : List Nat := List.range' range.first.column range.columnCount

end CellRange

/-- A range on one sheet of a document. -/
structure SheetRange where
  sheet : Nat
  range : CellRange
  deriving DecidableEq, Repr, Inhabited

/-- The written form of a range on a sheet, the sheet by its number in brackets. -/
def SheetRange.render (address : SheetRange) : String := s!"[{address.sheet}]{address.range.render}"

end Spreadsheet
