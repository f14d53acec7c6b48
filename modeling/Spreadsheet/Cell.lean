import Spreadsheet.ErrorValue
import Spreadsheet.Number.Rendering

/-!
# Cells

A cell is blank, holds a constant, or holds the text of a formula with the result of its last
calculation. `Cell.effective` is what the cell shows.
-/

namespace Spreadsheet

/-- What one cell holds. -/
inductive Cell where
  | empty
  | logical (truth : Bool)
  | number (amount : Float)
  | text (content : String)
  | error (fault : ErrorValue)
  /-- Formula text, and its last result if it has been calculated. -/
  | formula (source : String) (result : Option Cell)
  deriving Inhabited

namespace Cell

/-- A formula that has not been calculated. The leading equals sign may be left out. -/
def ofFormula (source : String) : Cell :=
  match source.toList with
  | '=' :: _ => formula source none
  | chars => formula (String.ofList ('=' :: chars)) none

/-- What the cell shows: a constant itself, a formula its last result or nothing. -/
def effective : Cell → Cell
  | formula _ (some result) => result.effective
  | formula _ none => empty
  | constant => constant

/-- Whether the cell is blank. -/
def isEmpty : Cell → Bool
  | empty => true
  | _ => false

/-- Whether the cell holds a formula. -/
def isFormula : Cell → Bool
  | formula _ _ => true
  | _ => false

/-- Whether the cell shows an error value. -/
def isError (cell : Cell) : Bool :=
  match cell.effective with
  | error _ => true
  | _ => false

/-- The number a cell shows; logical values count as one and zero, texts and blanks have none. -/
def asNumber (cell : Cell) : Option Float :=
  match cell.effective with
  | number amount => some amount
  | logical truth => some (if truth then 1.0 else 0.0)
  | _ => none

/-- The number a cell shows, if it shows a number itself. -/
def shownNumber (cell : Cell) : Option Float :=
  match cell.effective with
  | number amount => some amount
  | _ => none

/-- The logical value a cell shows; numbers count as true unless they are zero. -/
def asLogical (cell : Cell) : Option Bool :=
  match cell.effective with
  | logical truth => some truth
  | number amount => some !(Number.isZero amount)
  | _ => none

/-- The text a cell shows, for texts only. -/
def asText (cell : Cell) : Option String :=
  match cell.effective with
  | text content => some content
  | _ => none

/-- The formula text of a cell that holds one. -/
def formulaText : Cell → Option String
  | formula source _ => some source
  | _ => none

/-- The cell as displayed; a formula without a result shows its text. -/
def display : Cell → String
  | empty => ""
  | logical truth => if truth then "TRUE" else "FALSE"
  | number amount => Number.render amount
  | text content => content
  | error fault => fault.literal
  | formula source none => source
  | formula _ (some result) => result.display

end Cell

end Spreadsheet
