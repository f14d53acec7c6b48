import Spreadsheet.DocumentError

/-!
# Column letters

Columns are lettered in bijective base twenty-six: `A` to `Z`, then `AA`, `AB` and so on. Columns
count from zero inside the library.
-/

namespace Spreadsheet.Column

/-- Puts the letters of a column, counted from one, before the given letters; each letter takes one
unit of `room`. -/
def lettersBefore : Nat → Nat → List Char → List Char
  | 0, _, letters => letters
  | _ + 1, 0, letters => letters
  | room + 1, number + 1, letters =>
    lettersBefore room (number / 26) (Char.ofNat ('A'.toNat + number % 26) :: letters)

/-- The letters of a column. -/
def letters (column : Nat) : List Char := lettersBefore (column + 1) (column + 1) []

/-- The number of a letter, one for `A` and `a`. -/
def letterNumber (letter : Char) : Nat := letter.toUpper.toNat - 'A'.toNat + 1

/-- The column that letters name, counted from one. -/
def number (letters : List Char) : Nat :=
  letters.foldl (fun value letter => value * 26 + letterNumber letter) 0

/-- Columns beyond this index are reported as this one. -/
def reportLimit : Nat := 65535

/-- The column that one to three ASCII letters name. The letter count is a count of bytes, so that
text beyond ASCII is refused for its length first. -/
def ofLetters (letters : List Char) : Except DocumentError Nat :=
  let text := String.ofList letters
  if letters.isEmpty || 3 < text.utf8ByteSize then
    .error (.invalidAddress (.letterCount text))
  else match letters.find? fun letter => !letter.isAlpha with
    | some char => .error (.invalidAddress (.letter char))
    | none =>
      let column := number letters - 1
      if column < columnLimit then .ok column
      else .error (.columnOutOfBounds (min column reportLimit))

end Spreadsheet.Column
