/-!
# Refusals of a document

What a document can refuse: addresses and ranges that cannot be read, positions outside the grid,
sheet and defined names that are malformed or taken, choice lists that cannot be written. Each
constructor is a cause; `DocumentError.message` is the only place where causes get words.
-/

namespace Spreadsheet

/-- Rows of a worksheet. -/
def rowLimit : Nat := 1048576

/-- Columns of a worksheet. -/
def columnLimit : Nat := 16384

/-- Characters of a sheet name. -/
def sheetNameLimit : Nat := 31

/-- Characters of a written choice list. -/
def choicesLimit : Nat := 255

/-- Why an address cannot be read. -/
inductive AddressFault where
  /-- The text is not an address. -/
  | malformed (text : String)
  /-- There are no column letters, or more than three. -/
  | letterCount (letters : String)
  /-- A column letter is not a letter. -/
  | letter (char : Char)
  deriving DecidableEq, Repr

/-- Why a sheet name is refused. -/
inductive SheetNameFault where
  | empty
  | tooLong
  | forbidden (char : Char)
  | outerApostrophe
  deriving DecidableEq, Repr

/-- Why a defined name is refused. -/
inductive NameFault where
  /-- The name could not be used in a formula. -/
  | malformed (name : String)
  /-- The scope has a name of this spelling already. -/
  | taken (name : String)
  deriving DecidableEq, Repr

/-- Why a choice list cannot be read or written. -/
inductive ChoicesFault where
  /-- The formula is not one quoted text. -/
  | notQuoted (formula : String)
  /-- An item contains the separator. -/
  | separator (item : String)
  deriving DecidableEq, Repr

/-- What a document refuses. -/
inductive DocumentError where
  | invalidAddress (fault : AddressFault)
  | rowOutOfBounds (row : Nat)
  | columnOutOfBounds (column : Nat)
  | sheetOutOfBounds (sheet count : Nat)
  | invalidSheetName (fault : SheetNameFault)
  | duplicateSheetName (name : String)
  | invalidName (fault : NameFault)
  | notAFormula (address : String)
  | choicesTooLong (length : Nat)
  | choiceOutOfBounds (index count : Nat)
  | invalidChoices (fault : ChoicesFault)
  deriving DecidableEq, Repr

/-- The words for an address that cannot be read. -/
def AddressFault.message : AddressFault → String
  | malformed text => text
  | letterCount letters => s!"invalid column letters '{letters}'"
  | letter char => s!"invalid column letter '{char}'"

/-- The words for a refused sheet name. -/
def SheetNameFault.message : SheetNameFault → String
  | empty => "Sheet name cannot be empty"
  | tooLong => s!"Sheet name too long (max {sheetNameLimit} characters)"
  | forbidden char => s!"Sheet name cannot contain '{char}'"
  | outerApostrophe => "Sheet name cannot start or end with an apostrophe"

/-- The words for a refused defined name. -/
def NameFault.message : NameFault → String
  | malformed name => name
  | taken name => s!"'{name}' is already defined in this scope"

/-- The words for a refused choice list. -/
def ChoicesFault.message : ChoicesFault → String
  | notQuoted formula => formula
  | separator item => s!"item '{item}' contains the separator"

/-- The words for a refusal. -/
def DocumentError.message : DocumentError → String
  | invalidAddress fault => s!"Invalid cell address: {fault.message}"
  | rowOutOfBounds row => s!"Row index {row} out of bounds (max: {rowLimit - 1})"
  | columnOutOfBounds column => s!"Column index {column} out of bounds (max: {columnLimit - 1})"
  | sheetOutOfBounds sheet count => s!"Sheet index {sheet} out of bounds (count: {count})"
  | invalidSheetName fault => s!"Invalid sheet name: {fault.message}"
  | duplicateSheetName name => s!"Sheet name already exists: {name}"
  | invalidName fault => s!"Invalid defined name: {fault.message}"
  | notAFormula address => s!"Cell {address} does not hold a formula"
  | choicesTooLong length => s!"List value too long: {length} characters (max: {choicesLimit})"
  | choiceOutOfBounds index count => s!"List index {index} out of bounds (len: {count})"
  | invalidChoices fault => s!"Invalid list formula: {fault.message}"

end Spreadsheet
