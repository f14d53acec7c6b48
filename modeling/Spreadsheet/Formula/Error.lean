import Spreadsheet.DocumentError
import Spreadsheet.Formula.Token

/-!
# Failures of formulas

A formula fails when it cannot be read, or when a calculation cannot go on at all. Error values
such as `#DIV/0!` are no failures: they are results. Each constructor is a cause, and `message`
gives it words.
-/

namespace Spreadsheet.Formula

/-- Why a text is not a formula. -/
inductive SyntaxError where
  /-- A character that begins no token, with the number of bytes before it. -/
  | unexpectedCharacter (char : Char) (offset : Nat)
  /-- A text without its closing quote. -/
  | openText
  /-- A quoted sheet name without its closing apostrophe. -/
  | openSheetName
  /-- A quoted sheet name that no exclamation mark follows. -/
  | noMarkAfterSheet (name : String)
  | unknownError (text : String)
  | invalidNumber (text : String)
  | emptyFormula
  /-- Tokens after the end of the expression. -/
  | trailing (token : Token)
  | expected (symbol : Symbol) (found : Option Token)
  | unexpectedEnd
  | unexpectedToken (token : Token)
  /-- A sheet name before something else than an address or a name. -/
  | noReferenceAfterSheet (sheet : String) (found : Option Token)
  /-- The two ends of a range lie on different sheets. -/
  | differentSheets
  /-- An end of a range is not an address. -/
  | noAddressInRange
  | emptyArray
  | arraySeparator (found : Option Token)
  | unevenRows
  /-- The tokens are nested more deeply than there is room for, which `roomFor` rules out. -/
  | noRoom
  deriving DecidableEq

/-- The words for a text that is not a formula. -/
def SyntaxError.message : SyntaxError → String
  | unexpectedCharacter char offset => s!"Unexpected character '{char}' at offset {offset}"
  | openText => "Unterminated string literal"
  | openSheetName => "Unterminated sheet name"
  | noMarkAfterSheet name => s!"Expected '!' after sheet name '{name}'"
  | unknownError text => s!"Unknown error literal '{text}'"
  | invalidNumber text => s!"Invalid number '{text}'"
  | emptyFormula => "Empty formula"
  | trailing token => s!"Unexpected {token.describe} after expression"
  | expected symbol found => s!"Expected {symbol.label}, got {describeOptional found}"
  | unexpectedEnd => "Unexpected end of formula"
  | unexpectedToken token => s!"Unexpected token {token.describe}"
  | noReferenceAfterSheet sheet found =>
    s!"Expected cell reference or name after '{sheet}!', got {describeOptional found}"
  | differentSheets => "Range references must be on the same sheet"
  | noAddressInRange => "Range operator needs a cell reference on both sides"
  | emptyArray => "Empty array constant"
  | arraySeparator found =>
    s!"Expected ',' ';' or '\x7d' in array, got {describeOptional found}"
  | unevenRows => "Array rows differ in length"
  | noRoom => "Formula nested too deeply"

/-- A reference to something that the document does not have. -/
inductive ReferenceFault where
  | document (error : DocumentError)
  | unknownSheet (name : String)
  | sheetOutOfBounds (sheet count : Nat)
  deriving DecidableEq

/-- The words for a reference to nothing. -/
def ReferenceFault.message : ReferenceFault → String
  | document error => error.message
  | unknownSheet name => s!"unknown sheet '{name}'"
  | sheetOutOfBounds sheet count => s!"sheet index {sheet} (count {count})"

/-- What a lookup walks over. -/
inductive SourceKind where
  | array
  | range
  deriving DecidableEq, Repr

/-- The words for a walk over the wrong kind of source. -/
def SourceKind.need : SourceKind → String
  | array => "array navigator needs an array source"
  | range => "range navigator needs a range source"

/-- What the engine was asked to do against its rules. -/
inductive Violation where
  /-- A cell entered the dependency chain a second time. -/
  | alreadyChained (cell : String)
  /-- The document refused a result. -/
  | refusedResult (error : DocumentError)
  /-- The keeper of the document refused to store a result. -/
  | refusedStore
  /-- A lookup was to walk over another kind of source than it has. -/
  | wrongSource (kind : SourceKind)
  deriving DecidableEq

/-- The words for a violated rule. -/
def Violation.message : Violation → String
  | alreadyChained cell => s!"cell {cell} is already in the dependency chain"
  | refusedResult error => error.message
  | refusedStore => "store refused"
  | wrongSource kind => kind.need

/-- A failure of the engine itself. -/
inductive FormulaError where
  | invalid (cause : SyntaxError)
  | contract (violation : Violation)
  | invalidReference (fault : ReferenceFault)
  /-- A defined name that is needed for its own value. -/
  | circularName (name : String)
  /-- A result was asked for by a number that is not a number, which no steps lead to. -/
  | indexNotNumber
  /-- A random number was asked for between bounds that leave none. -/
  | emptyDraw
  deriving DecidableEq

/-- The words for a failure. -/
def FormulaError.message : FormulaError → String
  | invalid cause => s!"Parse error: {cause.message}"
  | contract violation => s!"Contract violation: {violation.message}"
  | invalidReference fault => s!"Invalid reference: {fault.message}"
  | circularName name => s!"Circular reference through defined name '{name}'"
  | indexNotNumber => "attempt to subtract with overflow"
  | emptyDraw => "cannot sample empty range"

end Spreadsheet.Formula
