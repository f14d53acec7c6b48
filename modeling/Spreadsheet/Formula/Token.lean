import Spreadsheet.Address.Range
import Spreadsheet.ErrorValue
import Spreadsheet.Number.Rendering
import Spreadsheet.Text.Quoted

/-!
# Tokens

The words of a formula: literals, names, addresses, sheet names and symbols. `Token.describe` is how
messages show a token, with its kind and all it carries.
-/

namespace Spreadsheet.Formula

/-- Operators, separators and brackets. -/
inductive Symbol where
  | plus
  | minus
  | star
  | slash
  | caret
  | percent
  | ampersand
  | equal
  | notEqual
  | lessThan
  | lessEqual
  | greaterThan
  | greaterEqual
  | colon
  | comma
  | semicolon
  | leftParen
  | rightParen
  | leftBrace
  | rightBrace
  deriving DecidableEq, Repr, Inhabited

namespace Symbol

/-- How a symbol is written in a formula. -/
def spelling : Symbol → List Char
  | plus => ['+']
  | minus => ['-']
  | star => ['*']
  | slash => ['/']
  | caret => ['^']
  | percent => ['%']
  | ampersand => ['&']
  | equal => ['=']
  | notEqual => ['<', '>']
  | lessThan => ['<']
  | lessEqual => ['<', '=']
  | greaterThan => ['>']
  | greaterEqual => ['>', '=']
  | colon => [':']
  | comma => [',']
  | semicolon => [';']
  | leftParen => ['(']
  | rightParen => [')']
  | leftBrace => ['{']
  | rightBrace => ['}']

/-- The word by which messages call a symbol. -/
def label : Symbol → String
  | plus => "Plus"
  | minus => "Minus"
  | star => "Star"
  | slash => "Slash"
  | caret => "Caret"
  | percent => "Percent"
  | ampersand => "Ampersand"
  | equal => "Equal"
  | notEqual => "NotEqual"
  | lessThan => "LessThan"
  | lessEqual => "LessEqual"
  | greaterThan => "GreaterThan"
  | greaterEqual => "GreaterEqual"
  | colon => "Colon"
  | comma => "Comma"
  | semicolon => "Semicolon"
  | leftParen => "LeftParen"
  | rightParen => "RightParen"
  | leftBrace => "LeftBrace"
  | rightBrace => "RightBrace"

end Symbol

/-- One word of a formula. -/
inductive Token where
  | number (amount : Float)
  | text (content : String)
  | logical (truth : Bool)
  | error (fault : ErrorValue)
  /-- The name of a function or a defined name. -/
  | identifier (name : String)
  | cell (address : Address)
  /-- The sheet named before an exclamation mark, without its apostrophes. -/
  | sheet (name : String)
  | symbol (sign : Symbol)
  deriving DecidableEq, Inhabited

/-- The word by which messages call an error value. -/
def errorLabel : ErrorValue → String
  | .null => "Null"
  | .divisionByZero => "Div0"
  | .value => "Value"
  | .reference => "Ref"
  | .name => "Name"
  | .number => "Num"
  | .notAvailable => "Na"
  | .gettingData => "GettingData"

/-- The parts of an address, field by field. -/
def describeAddress (address : Address) : String :=
  s!"CellAddress \x7b row: {address.row}, col: {address.column}, " ++
    s!"row_absolute: {address.fixedRow}, col_absolute: {address.fixedColumn} \x7d"

/-- A token with its kind and what it carries. -/
def Token.describe : Token → String
  | number amount => s!"Number({Number.renderMarked amount})"
  | text content => s!"String({Text.quoted content})"
  | logical truth => s!"Boolean({truth})"
  | error fault => s!"Error({errorLabel fault})"
  | identifier name => s!"Identifier({Text.quoted name})"
  | cell address => s!"CellRef({describeAddress address})"
  | sheet name => s!"SheetPrefix({Text.quoted name})"
  | symbol sign => sign.label

/-- A token where there may be none. -/
def describeOptional : Option Token → String
  | some token => s!"Some({token.describe})"
  | none => "None"

end Spreadsheet.Formula
