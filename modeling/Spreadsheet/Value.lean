import Spreadsheet.Cell
import Spreadsheet.Number.Reading
import Spreadsheet.Text.Ascii
import Spreadsheet.Text.LowerCase

/-!
# Values of formulas

What a formula calculates: a blank, a number, a text, a logical value, an error value, or an array
of values in rows. Operators and functions coerce values with `toNumber`, `toText` and
`toLogical`, which give an error value where there is no coercion. `Value.compare` is the order
that comparisons and lookups share.
-/

namespace Spreadsheet

/-- The result of evaluating a formula or a part of one. -/
inductive Value where
  | empty
  | number (amount : Float)
  | text (content : String)
  | logical (truth : Bool)
  | error (fault : ErrorValue)
  /-- Rows of values; an array may hold arrays. -/
  | array (rows : List (List Value))
  deriving Inhabited

namespace Value

/-- The value that stands for an array where one value is needed: its top left element. An array
without one is an error. -/
def scalar : Value → Value
  | array ((first :: _) :: _) => first.scalar
  | array _ => error .value
  | value => value

/-- The number a value reads as: blanks are zero, logical values one or zero, and texts the finite
number they spell. -/
def asNumber : Value → Option Float
  | number amount => some amount
  | logical truth => some (if truth then 1.0 else 0.0)
  | text content => (Number.read (Text.trimChars content.toList)).filter Number.isFinite
  | empty => some 0.0
  | error _ => none
  | array _ => none

/-- The number an operand stands for. -/
def toNumber (value : Value) : Except ErrorValue Float :=
  match value.scalar with
  | error fault => .error fault
  | other => other.asNumber.elim (.error .value) .ok

/-- The text a single value is written as. -/
def written : Value → String
  | number amount => Number.renderGeneral amount
  | text content => content
  | logical truth => if truth then "TRUE" else "FALSE"
  | error fault => fault.literal
  | empty => ""
  | array _ => ""

/-- The text a value is written as, an array by its top left element. -/
def asText (value : Value) : String := value.scalar.written

/-- The text an operand stands for. -/
def toText (value : Value) : Except ErrorValue String :=
  match value.scalar with
  | error fault => .error fault
  | other => .ok other.written

/-- The logical value an operand stands for: numbers are true unless they are zero, and of texts
only the two words for logical values have one. -/
def toLogical (value : Value) : Except ErrorValue Bool :=
  match value.scalar with
  | logical truth => .ok truth
  | number amount => .ok !(Number.isZero amount)
  | empty => .ok false
  | text content =>
    if Text.eqIgnoringAsciiCase content "TRUE" then .ok true
    else if Text.eqIgnoringAsciiCase content "FALSE" then .ok false
    else .error .value
  | error fault => .error fault
  | array _ => .error .value

/-- Whether the value is an error value; an array that holds one is not. -/
def isError : Value → Bool
  | error _ => true
  | _ => false

/-- The error value that a value is. -/
def error? : Value → Option ErrorValue
  | error fault => some fault
  | _ => none

/-- Whether the value is a number. -/
def isNumber : Value → Bool
  | number _ => true
  | _ => false

/-- Whether the value is a blank. -/
def isEmpty : Value → Bool
  | empty => true
  | _ => false

mutual
/-- Puts the single values of a value before those found, the last one first. -/
def flattenOnto : Value → List Value → List Value
  | array rows, found => rowsOnto rows found
  | value, found => value :: found

/-- Puts the single values of rows before those found, the last one first. -/
def rowsOnto : List (List Value) → List Value → List Value
  | [], found => found
  | row :: rest, found => rowsOnto rest (rowOnto row found)

/-- Puts the single values of a row before those found, the last one first. -/
def rowOnto : List Value → List Value → List Value
  | [], found => found
  | value :: rest, found => rowOnto rest (flattenOnto value found)
end

/-- All single values in a value, row by row and to any depth. -/
def flatten (value : Value) : List Value := (value.flattenOnto []).reverse

/-- The kinds of values in their order: numbers and blanks, texts, logical values, errors,
arrays. -/
def rank : Value → Nat
  | number _ => 0
  | empty => 0
  | text _ => 1
  | logical _ => 2
  | error _ => 3
  | array _ => 4

/-- The order of values. A blank counts as zero beside a number, as the empty text beside a text and
as false beside a logical value. Texts compare without regard to case, error values by their type
number, and values of different kinds by the rank of the kind. -/
def compare : Value → Value → Ordering
  | empty, text right => Ord.compare "" right
  | text left, empty => Ord.compare left ""
  | empty, logical right => Ord.compare false right
  | logical left, empty => Ord.compare left false
  | empty, number right => Number.compare 0.0 right
  | number left, empty => Number.compare left 0.0
  | number left, number right => Number.compare left right
  | text left, text right => Ord.compare (Text.lower left) (Text.lower right)
  | logical left, logical right => Ord.compare left right
  | error left, error right => Ord.compare left.typeNumber right.typeNumber
  | left, right => Ord.compare left.rank right.rank

/-- The value that a cell shows. -/
def ofCell (cell : Cell) : Value :=
  match cell.effective with
  | .number amount => number amount
  | .text content => text content
  | .logical truth => logical truth
  | .error fault => error fault
  | .empty => empty
  | .formula _ _ => empty

/-- The cell that holds a single value; a number that is not finite is an error there. -/
def scalarToCell : Value → Cell
  | empty => .empty
  | number amount => if Number.isFinite amount then .number amount else .error .number
  | text content => .text content
  | logical truth => .logical truth
  | error fault => .error fault
  | array _ => .empty

/-- The cell that holds a value, an array by its top left element. -/
def toCell (value : Value) : Cell := value.scalar.scalarToCell

end Value

end Spreadsheet
