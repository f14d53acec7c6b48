import Spreadsheet.Number.Shortest

/-!
# Writing numbers

A number is written with the digits of its shortest decimal. Cells write every digit in its place
and no exponent, whatever the size. Formulas that join numbers with text write whole numbers below
`1e15` as integers, so that the sign of zero is lost. Messages mark a number as one: a point is
always there, and sizes from `1e16` up or below `1e-4` take an exponent.
-/

namespace Spreadsheet.Number

/-- The digits of a decimal in their places, with a point only if digits follow it. -/
def Decimal.positional (decimal : Decimal) : List Char :=
  let digits := Nat.toDigits 10 decimal.digits
  if 0 ≤ decimal.exponent then digits ++ List.replicate decimal.exponent.toNat '0'
  else
    let places := (-decimal.exponent).toNat
    if places < digits.length then
      digits.take (digits.length - places) ++ '.' :: digits.drop (digits.length - places)
    else '0' :: '.' :: List.replicate (places - digits.length) '0' ++ digits

/-- One digit, the others after a point, and the exponent of the first. -/
def Decimal.exponential (decimal : Decimal) : List Char :=
  let digits := Nat.toDigits 10 decimal.digits
  let exponent := decimal.exponent + (digits.length - 1 : Nat)
  let mantissa := match digits with
    | first :: second :: rest => first :: '.' :: second :: rest
    | short => short
  mantissa ++ 'e' :: (toString exponent).toList

/-- Writes sign and special values, and leaves zero and positive finite numbers to the given
form. -/
def renderWith (form : Decimal → List Char) (number : Float) : String :=
  match parts number with
  | .notNumber => "NaN"
  | .infinite negative => if negative then "-inf" else "inf"
  | .finite negative mantissa exponent =>
    let decimal := if mantissa = 0 then ⟨0, 0⟩ else (Positive.ofParts mantissa exponent).shortest
    String.ofList ((if negative then ['-'] else []) ++ form decimal)

/-- The form of a number in cells: every digit in its place. -/
def render (number : Float) : String := renderWith Decimal.positional number

/-- Whole numbers below this bound, `10 ^ 15`, are written as integers inside text. -/
def integerLimit : Nat := 1000000000000000

/-- The form of a number inside text. -/
def renderGeneral (number : Float) : String :=
  if isWhole number && (wholePart number).natAbs < integerLimit then toString (wholePart number)
  else render number

/-- The form of a number in messages. -/
def Decimal.marked (decimal : Decimal) : List Char :=
  let leading := decimal.exponent + ((Nat.toDigits 10 decimal.digits).length - 1 : Nat)
  if decimal.digits = 0 || (-4 ≤ leading && leading < 16) then
    let written := decimal.positional
    if written.contains '.' then written else written ++ ['.', '0']
  else decimal.exponential

/-- A number as messages show it. -/
def renderMarked (number : Float) : String := renderWith Decimal.marked number

end Spreadsheet.Number
