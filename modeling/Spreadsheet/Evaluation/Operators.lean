import Spreadsheet.Builtin.Arithmetic
import Spreadsheet.Formula.Expr

/-!
# Operators

Operators work on single values. The error value of the left operand comes before that of the
right one, and both before anything an operator finds wrong itself; results of arithmetic must be
finite.
-/

namespace Spreadsheet.Evaluation

open Formula (BinaryOperator UnaryOperator)

/-- What a comparison says about the order of its operands, for the operators that compare. -/
def comparison? : BinaryOperator → Option (Ordering → Bool)
  | .equal => some Ordering.isEq
  | .notEqual => some Ordering.isNe
  | .lessThan => some Ordering.isLT
  | .lessEqual => some Ordering.isLE
  | .greaterThan => some Ordering.isGT
  | .greaterEqual => some Ordering.isGE
  | _ => none

/-- A number that a calculation may give. -/
def finite (amount : Float) : Except ErrorValue Float :=
  if Number.isFinite amount then .ok amount else .error .number

/-- Arithmetic on two numbers. -/
def calculate (operator : BinaryOperator) (left right : Float) : Except ErrorValue Float :=
  match operator with
  | .add => finite (left + right)
  | .subtract => finite (left - right)
  | .multiply => finite (left * right)
  | .divide => if Number.isZero right then .error .divisionByZero else finite (left / right)
  | .power => Builtin.raise left right
  | _ => .error .value

/-- A binary operator on two single values that are no errors. -/
def combineValues (operator : BinaryOperator) (left right : Value) : Except ErrorValue Value :=
  match comparison? operator with
  | some holds => .ok (.logical (holds (left.compare right)))
  | none =>
    match operator with
    | .concat => do return .text ((← left.toText) ++ (← right.toText))
    | _ => do
      let leftNumber ← left.toNumber
      return .number (← calculate operator leftNumber (← right.toNumber))

/-- A result as a value, where an error value is a result like any other. -/
def settle : Except ErrorValue Value → Value
  | .ok value => value
  | .error fault => .error fault

/-- A binary operator on two single values. -/
def combine (operator : BinaryOperator) (left right : Value) : Value :=
  match left.error?, right.error? with
  | some fault, _ => .error fault
  | none, some fault => .error fault
  | none, none => settle (combineValues operator left right)

/-- A unary operator on a number. -/
def transformNumber (operator : UnaryOperator) (amount : Float) : Float :=
  match operator with
  | .negate => -amount
  | .percent => amount / 100.0

/-- A unary operator on a value. -/
def transform (operator : UnaryOperator) (value : Value) : Value :=
  settle (value.toNumber.map fun amount => .number (transformNumber operator amount))

end Spreadsheet.Evaluation
