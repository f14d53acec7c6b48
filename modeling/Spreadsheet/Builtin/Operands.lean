import Spreadsheet.Value

/-!
# Operands of functions

Functions read their operands by position. A missing operand counts as blank, so it is the number
zero and the empty text.
-/

namespace Spreadsheet.Builtin

/-- What a function over values gives: a value, or the error value that takes its place. -/
abbrev Result := Except ErrorValue Value

/-- The number of the operand at an index. -/
def number (operands : List Value) (index : Nat) : Except ErrorValue Float :=
  ((operands[index]?).map Value.toNumber).getD (.ok 0.0)

/-- The whole part of the number of the operand at an index. -/
def integer (operands : List Value) (index : Nat) : Except ErrorValue Int :=
  (number operands index).map Number.wholePart

/-- The text of the operand at an index. -/
def text (operands : List Value) (index : Nat) : Except ErrorValue String :=
  ((operands[index]?).map Value.toText).getD (.ok "")

/-- The operand at an index. -/
def operand (operands : List Value) (index : Nat) : Value := (operands[index]?).getD .empty

/-- A count as a number value. -/
def ofCount (count : Nat) : Value := .number (Float.ofNat count)

/-- An integer as a number value. -/
def ofInteger (integer : Int) : Value := .number (Float.ofInt integer)

/-- The first error value among values, arrays included. -/
def firstError (values : List Value) : Option ErrorValue :=
  (values.flatMap Value.flatten).findSome? Value.error?

end Spreadsheet.Builtin
