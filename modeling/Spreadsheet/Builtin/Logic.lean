import Spreadsheet.Builtin.Operands

/-!
# Logic

Choices and connectives. Choices get error values as operands and pass on only the one they choose.
-/

namespace Spreadsheet.Builtin

/-- `IF(condition, then, else)`: without the last operand it is false. -/
def choose (operands : List Value) : Result := do
  if ← (operand operands 0).toLogical then return operand operands 1
  else return (operands[2]?).getD (.logical false)

/-- `IFERROR(value, instead)` -/
def insteadOfError (operands : List Value) : Result :=
  match operand operands 0 with
  | .error _ => .ok (operand operands 1)
  | value => .ok value

/-- `IFNA(value, instead)` -/
def insteadOfNotAvailable (operands : List Value) : Result :=
  match operand operands 0 with
  | .error .notAvailable => .ok (operand operands 1)
  | value => .ok value

/-- The logical value of one array element; texts and blanks have none. -/
def elementLogical : Value → Option Bool
  | .logical truth => some truth
  | .number amount => some !(Number.isZero amount)
  | _ => none

/-- The logical values of one operand: a single one must read as one, unless it is blank. -/
def operandLogicals : Value → Except ErrorValue (List Bool)
  | .array rows => .ok (rows.flatten.filterMap elementLogical)
  | .empty => .ok []
  | single => do return [← single.toLogical]

/-- The logical values among operands. An error value in any of them comes first, and there must be
one logical value at least. -/
def logicals (operands : List Value) : Except ErrorValue (List Bool) := do
  if let some fault := firstError operands then throw fault
  let found := (← operands.mapM operandLogicals).flatten
  if found.isEmpty then throw .value
  return found

/-- `AND(condition, …)` -/
def conjunction (operands : List Value) : Result := do
  return .logical ((← logicals operands).all id)

/-- `OR(condition, …)` -/
def disjunction (operands : List Value) : Result := do
  return .logical ((← logicals operands).any id)

/-- `XOR(condition, …)`: whether an odd number of conditions hold. -/
def parity (operands : List Value) : Result := do
  return .logical ((← logicals operands).count true % 2 == 1)

/-- `NOT(condition)` -/
def negation (operands : List Value) : Result := do
  return .logical !(← (operand operands 0).toLogical)

/-- `TRUE()` and `FALSE()` -/
def constant (truth : Bool) (_ : List Value) : Result := .ok (.logical truth)

end Spreadsheet.Builtin
