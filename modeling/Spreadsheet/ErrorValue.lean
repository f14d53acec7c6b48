import Spreadsheet.Text.Blank
import Spreadsheet.Text.Ascii

/-!
# Error values

An error value is a result like any other: a formula that divides by zero calculates successfully to
`#DIV/0!`, and the error travels on as data.
-/

namespace Spreadsheet

/-- The error values a formula can give or a cell can hold. -/
inductive ErrorValue where
  /-- Ranges that do not meet. -/
  | null
  /-- A division by zero. -/
  | divisionByZero
  /-- An operand of the wrong kind. -/
  | value
  /-- A reference to a missing sheet or cell, or a cycle. -/
  | reference
  /-- An unknown function or defined name. -/
  | name
  /-- A number out of range. -/
  | number
  /-- A lookup without a match. -/
  | notAvailable
  /-- Data that has not arrived. -/
  | gettingData
  deriving DecidableEq, Repr, Inhabited

namespace ErrorValue

/-- Every error value, in the order of its type number. -/
def all : List ErrorValue :=
  [null, divisionByZero, value, reference, name, number, notAvailable, gettingData]

/-- The literal by which formulas and cells write an error value. -/
def literal : ErrorValue → String
  | null => "#NULL!"
  | divisionByZero => "#DIV/0!"
  | value => "#VALUE!"
  | reference => "#REF!"
  | name => "#NAME?"
  | number => "#NUM!"
  | notAvailable => "#N/A"
  | gettingData => "#GETTING_DATA"

/-- Reads a literal without regard to ASCII case or blanks around it. -/
def parse (text : String) : Option ErrorValue :=
  all.find? fun error => Text.eqIgnoringAsciiCase error.literal (Text.trim text)

/-- The number by which formulas tell error values apart: one to eight in the order of `all`. -/
def typeNumber : ErrorValue → Nat
  | null => 1
  | divisionByZero => 2
  | value => 3
  | reference => 4
  | name => 5
  | number => 6
  | notAvailable => 7
  | gettingData => 8

end ErrorValue

end Spreadsheet
