import Spreadsheet.Formula.Parser
import Spreadsheet.Value

/-!
# What a defined name stands for

The text of a defined name is read like a formula. A name that stands for one literal is a
constant and needs no evaluation.
-/

namespace Spreadsheet.DefinedName

open Formula (SyntaxError Token Expr)

/-- The tokens of a definition. -/
def tokens (definition : DefinedName) : Except SyntaxError (List Token) :=
  Formula.tokens definition.expression

/-- The expression of a definition. -/
def parsed (definition : DefinedName) : Except SyntaxError Expr := do
  Formula.parseTokens (← definition.tokens)

/-- The value of tokens that are one literal, or a minus and a number. -/
def literal : List Token → Option Value
  | [.number amount] => some (.number amount)
  | [.symbol .minus, .number amount] => some (.number (-amount))
  | [.text content] => some (.text content)
  | [.logical truth] => some (.logical truth)
  | [.error fault] => some (.error fault)
  | _ => none

/-- The constant that a definition is. -/
def constant (definition : DefinedName) : Option Value :=
  definition.tokens.toOption.bind literal

end Spreadsheet.DefinedName
