import Spreadsheet.Builtin.Operands
import Spreadsheet.Evaluation.Seed
import Spreadsheet.Formula.Error
import Spreadsheet.Number.Rounding

/-!
# Arithmetic

Functions of one or two numbers. Powers, here and as operators, refuse results that are not finite;
the other functions let them through.
-/

namespace Spreadsheet.Builtin

open Formula (FormulaError)
open Number (RoundingMode)

/-- A power. Zero has no negative powers, and the result must be finite. -/
def raise (base exponent : Float) : Except ErrorValue Float :=
  if Number.isZero base && exponent < 0.0 then .error .divisionByZero
  else
    let result := Float.pow base exponent
    if Number.isFinite result then .ok result else .error .number

/-- `ABS(number)` -/
def absolute (operands : List Value) : Result := do return .number (← number operands 0).abs

/-- The sign of a number, zero for both zeros. -/
def signOf (amount : Float) : Float :=
  if Number.isNotNumber amount then amount
  else if Number.isZero amount then 0.0
  else if Number.isNegative amount then -1.0
  else 1.0

/-- `SIGN(number)` -/
def sign (operands : List Value) : Result := do return .number (signOf (← number operands 0))

/-- `INT(number)`: the largest whole number that is not greater. -/
def wholeBelow (operands : List Value) : Result := do
  return .number (Number.floor (← number operands 0))

/-- `MOD(number, divisor)`: the remainder has the sign of the divisor. -/
def modulo (operands : List Value) : Result := do
  let amount ← number operands 0
  let divisor ← number operands 1
  if Number.isZero divisor then throw .divisionByZero
  return .number (amount - divisor * Number.floor (amount / divisor))

/-- `POWER(base, exponent)` -/
def power (operands : List Value) : Result := do
  let base ← number operands 0
  return .number (← raise base (← number operands 1))

/-- `SQRT(number)` -/
def squareRoot (operands : List Value) : Result := do
  let amount ← number operands 0
  if amount < 0.0 then throw .number
  return .number amount.sqrt

/-- `PI()` -/
def pi (_ : List Value) : Result := .ok (.number 3.141592653589793)

/-- `ROUND`, `ROUNDUP` and `ROUNDDOWN` of a number and a count of decimal places, none if it is left
out. -/
def rounded (mode : RoundingMode) (operands : List Value) : Result := do
  let amount ← number operands 0
  return .number (Number.round amount (← integer operands 1) mode)

/-- `RAND()`: a number from zero up to but not including one. -/
def random (seed : Seed) (_ : List Value) : Except FormulaError Value := .ok (.number seed.unit)

/-- The whole numbers that bound a draw. -/
def drawBounds (operands : List Value) : Except ErrorValue (Float × Float) := do
  let low ← number operands 0
  let high ← number operands 1
  let (low, high) := (Number.ceiling low, Number.floor high)
  if high < low then throw .number
  return (low, high)

/-- `RANDBETWEEN(low, high)`: a whole number between two bounds. A bound that is not a number
counts as zero, and may leave no number to draw. -/
def randomBetween (seed : Seed) (operands : List Value) : Except FormulaError Value :=
  match drawBounds operands with
  | .error fault => .ok (.error fault)
  | .ok (low, high) =>
    let (low, high) := (Number.wholePart low, Number.wholePart high)
    if high < low then .error .emptyDraw
    else .ok (ofInteger (seed.between low high))

end Spreadsheet.Builtin
