import Spreadsheet.Address.Column
import Spreadsheet.Text.Blank
import Spreadsheet.Number.Reading

/-!
# Cell addresses

An address such as `$B$2` names a position of the grid and keeps the dollar marks it was written
with. `Address.parse` reads one and `Address.render` writes it back.
-/

namespace Spreadsheet

/-- A row and a column, both counted from zero. -/
structure Position where
  row : Nat
  column : Nat
  deriving DecidableEq, Repr, Inhabited

/-- A position inside the grid of a worksheet. -/
def Position.InGrid (position : Position) : Prop :=
  position.row < rowLimit ∧ position.column < columnLimit

instance (position : Position) : Decidable position.InGrid :=
  inferInstanceAs (Decidable (_ ∧ _))

/-- Refuses positions outside the grid, the row first. -/
def Position.check (position : Position) : Except DocumentError Unit :=
  if rowLimit ≤ position.row then .error (.rowOutOfBounds position.row)
  else if columnLimit ≤ position.column then .error (.columnOutOfBounds position.column)
  else .ok ()

/-- The check of a position succeeds exactly inside the grid. -/
theorem Position.check_eq_ok_iff {position : Position} :
    position.check = .ok () ↔ position.InGrid := by
  unfold Position.check Position.InGrid
  split
  · simp; omega
  · split
    · simp; omega
    · simp; omega

/-- A position with the dollar marks it was written with. -/
structure Address where
  row : Nat
  column : Nat
  fixedRow : Bool
  fixedColumn : Bool
  deriving DecidableEq, Repr, Inhabited

namespace Address

/-- The address of a position, without dollar marks. -/
def ofPosition (position : Position) : Address := ⟨position.row, position.column, false, false⟩

/-- The position an address names. -/
def position (address : Address) : Position := ⟨address.row, address.column⟩

/-- The address without its dollar marks. -/
def plain (address : Address) : Address := ofPosition address.position

/-- Splits off a dollar mark. -/
def takeMark : List Char → Bool × List Char
  | '$' :: rest => (true, rest)
  | chars => (false, chars)

/-- Row digits are read as 32-bit integers; longer ones are no row at all. -/
def digitsLimit : Nat := 4294967296

/-- Reads an address from characters without blanks around them. The column is read before the
row, so that a bad column is reported first. -/
def ofChars (chars : List Char) : Except DocumentError Address := do
  let malformed := .error (.invalidAddress (.malformed (String.ofList chars)))
  let (fixedColumn, afterMark) := takeMark chars
  let letters := afterMark.takeWhile Char.isAlpha
  if letters.isEmpty then malformed
  else
    let column ← Column.ofLetters letters
    let (fixedRow, digits) := takeMark (afterMark.dropWhile Char.isAlpha)
    if digits.isEmpty || !digits.all Char.isDigit then malformed
    else
      let row := Number.digitsValue digits
      if row = 0 || digitsLimit ≤ row then malformed
      else if rowLimit < row then .error (.rowOutOfBounds (row - 1))
      else .ok ⟨row - 1, column, fixedRow, fixedColumn⟩

/-- Reads an address; blanks around it do not count. -/
def parse (text : String) : Except DocumentError Address := ofChars (Text.trimChars text.toList)

/-- A dollar mark or nothing. -/
def mark (fixed : Bool) : List Char := if fixed then ['$'] else []

/-- The characters of an address: letters of the column, number of the row, each after its mark. -/
def chars (address : Address) : List Char :=
  mark address.fixedColumn ++ Column.letters address.column ++
    (mark address.fixedRow ++ Nat.toDigits 10 (address.row + 1))

/-- The written form of an address. -/
def render (address : Address) : String := String.ofList address.chars

end Address

/-- The written form of a position. -/
def Position.render (position : Position) : String := (Address.ofPosition position).render

end Spreadsheet
