import Spreadsheet.Address.Range
import Spreadsheet.ErrorValue

/-!
# Expressions

The tree of a formula. References keep the name of their sheet as it was written; function names
are in upper case.
-/

namespace Spreadsheet.Formula

/-- Operators between two operands. -/
inductive BinaryOperator where
  | add
  | subtract
  | multiply
  | divide
  | power
  | equal
  | notEqual
  | lessThan
  | lessEqual
  | greaterThan
  | greaterEqual
  | concat
  deriving DecidableEq, Repr, Inhabited

/-- Operators on one operand. -/
inductive UnaryOperator where
  | negate
  | percent
  deriving DecidableEq, Repr, Inhabited

/-- A formula as a tree. -/
inductive Expr where
  | number (amount : Float)
  | text (content : String)
  | logical (truth : Bool)
  | error (fault : ErrorValue)
  | cell (sheet : Option String) (address : Address)
  | range (sheet : Option String) (range : CellRange)
  /-- A defined name. -/
  | name (sheet : Option String) (name : String)
  | binary (operator : BinaryOperator) (left right : Expr)
  | unary (operator : UnaryOperator) (operand : Expr)
  | call (function : String) (operands : List Expr)
  /-- The rows of an array constant. -/
  | array (rows : List (List Expr))
  deriving Inhabited

/-- Whether an expression names cells, directly or by a defined name. -/
def Expr.isReference : Expr → Bool
  | cell .. => true
  | range .. => true
  | name .. => true
  | _ => false

end Spreadsheet.Formula
