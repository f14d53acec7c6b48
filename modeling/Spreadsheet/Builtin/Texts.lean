import Spreadsheet.Builtin.Operands
import Spreadsheet.Text.Pieces
import Spreadsheet.Text.UpperCase

/-!
# Texts

Positions and lengths count characters.
-/

namespace Spreadsheet.Builtin

/-- The longest text that repetition makes. -/
def textLimit : Nat := 32767

/-- A text value of characters. -/
def ofChars (chars : List Char) : Value := .text (String.ofList chars)

/-- `CONCATENATE(text, …)`: the texts of all values, to any depth. -/
def concatenate (operands : List Value) : Result := do
  return .text (String.join (← (operands.flatMap Value.flatten).mapM Value.toText))

/-- `LEN(text)` -/
def length (operands : List Value) : Result := do
  return ofCount (← text operands 0).toList.length

/-- The count of characters at an index, one if it is left out. -/
def charCount (operands : List Value) (index : Nat) : Except ErrorValue Nat := do
  if operands.length ≤ index then return 1
  let count ← integer operands index
  if count < 0 then throw .value
  return count.toNat

/-- `LEFT(text, count)` -/
def left (operands : List Value) : Result := do
  let chars := (← text operands 0).toList
  return ofChars (chars.take (← charCount operands 1))

/-- `RIGHT(text, count)` -/
def right (operands : List Value) : Result := do
  let chars := (← text operands 0).toList
  return ofChars (chars.drop (chars.length - (← charCount operands 1)))

/-- `MID(text, start, count)`: the start counts from one. -/
def middle (operands : List Value) : Result := do
  let chars := (← text operands 0).toList
  let start ← integer operands 1
  let count ← integer operands 2
  if start < 1 ∨ count < 0 then throw .value
  return ofChars ((chars.drop (start - 1).toNat).take count.toNat)

/-- `UPPER(text)` -/
def upper (operands : List Value) : Result := do return .text (Text.upper (← text operands 0))

/-- `LOWER(text)` -/
def lower (operands : List Value) : Result := do return .text (Text.lower (← text operands 0))

/-- The words of a text, between spaces, with one space between two. -/
def singleSpaced (chars : List Char) : List Char :=
  [' '].intercalate ((Text.pieces ' ' chars).filter fun word => !word.isEmpty)

/-- `TRIM(text)` -/
def trim (operands : List Value) : Result := do
  return ofChars (singleSpaced (← text operands 0).toList)

/-- `EXACT(text, text)`: whether texts are equal, case included. -/
def exact (operands : List Value) : Result := do
  let first ← text operands 0
  return .logical (first == (← text operands 1))

/-- `REPT(text, count)` -/
def repetition (operands : List Value) : Result := do
  let chars := (← text operands 0).toList
  let times ← integer operands 1
  if times < 0 then throw .value
  if textLimit < chars.length * times.toNat then throw .value
  if chars.isEmpty then return ofChars []
  return ofChars (List.replicate times.toNat chars).flatten

end Spreadsheet.Builtin
