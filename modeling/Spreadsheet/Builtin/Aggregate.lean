import Spreadsheet.Builtin.Operands

/-!
# Aggregates

Sums, averages and counts over any number of operands. A single operand must be a number or read
as one, unless it is blank; inside arrays only numbers take part, and all else but error values is
passed over.
-/

namespace Spreadsheet.Builtin

/-- The numbers of one array element. -/
def elementNumbers : Value → Except ErrorValue (List Float)
  | .number amount => .ok [amount]
  | .error fault => .error fault
  | _ => .ok []

/-- The numbers of one operand. -/
def operandNumbers : Value → Except ErrorValue (List Float)
  | .array rows => do return (← rows.flatten.mapM elementNumbers).flatten
  | .empty => .ok []
  | single => do return [← single.toNumber]

/-- The numbers among operands, unless an error value comes first. -/
def numbers (operands : List Value) : Except ErrorValue (List Float) := do
  return (← operands.mapM operandNumbers).flatten

/-- The sum from left to right. It starts from negative zero, which is what a sum of nothing is. -/
def total (amounts : List Float) : Float := amounts.foldl (· + ·) (-0.0)

/-- Joins numbers from left to right; of no numbers it makes zero. -/
def fold (join : Float → Float → Float) : List Float → Float
  | [] => 0.0
  | first :: rest => rest.foldl join first

/-- `SUM(number, …)` -/
def sum (operands : List Value) : Result := do return .number (total (← numbers operands))

/-- `PRODUCT(number, …)`: of no numbers it is zero. -/
def product (operands : List Value) : Result := do
  return .number (fold (· * ·) (← numbers operands))

/-- `AVERAGE(number, …)`: no numbers have none. -/
def average (operands : List Value) : Result := do
  let amounts ← numbers operands
  if amounts.isEmpty then throw .divisionByZero
  return .number (total amounts / Float.ofNat amounts.length)

/-- `MIN(number, …)` -/
def minimum (operands : List Value) : Result := do
  return .number (fold Number.smaller (← numbers operands))

/-- `MAX(number, …)` -/
def maximum (operands : List Value) : Result := do
  return .number (fold Number.larger (← numbers operands))

/-- `COUNT(value, …)`: the numbers among all values, to any depth. -/
def count (operands : List Value) : Result :=
  .ok (ofCount ((operands.flatMap Value.flatten).countP Value.isNumber))

/-- `COUNTA(value, …)`: the values that are not blank, to any depth. -/
def countFilled (operands : List Value) : Result :=
  .ok (ofCount ((operands.flatMap Value.flatten).countP fun value => !value.isEmpty))

end Spreadsheet.Builtin
