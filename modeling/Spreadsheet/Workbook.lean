import Spreadsheet.Calendar.Serial
import Spreadsheet.Name
import Spreadsheet.Worksheet

/-!
# Workbooks

A workbook is a list of worksheets with the names defined over them and the date system they share.
Sheets are found by name without regard to case.
-/

namespace Spreadsheet

open Calendar (DateSystem)

/-- A whole document. -/
structure Workbook where
  sheets : List Worksheet
  names : NameTable
  dateSystem : DateSystem

namespace Workbook

/-- A workbook without sheets. -/
def empty : Workbook := ⟨[], .empty, .from1900⟩

/-- A new workbook has one sheet. -/
def new : Workbook := { empty with sheets := [.blank "Sheet1"] }

instance : Inhabited Workbook := ⟨empty⟩

/-- Number of sheets. -/
def sheetCount (book : Workbook) : Nat := book.sheets.length

/-- The number of the sheet with a name, in any case. -/
def sheetIndex (book : Workbook) (name : String) : Option Nat :=
  let lowered := Text.lower name
  book.sheets.findIdx? fun sheet => Text.lower sheet.name == lowered

/-- Characters that no sheet name contains. -/
def forbiddenChars : List Char := ['\\', '/', '?', '*', '[', ']', ':']

/-- Refuses malformed sheet names and names that another sheet has. -/
def checkSheetName (book : Workbook) (name : String) : Except DocumentError Unit :=
  let chars := name.toList
  if chars.isEmpty then .error (.invalidSheetName .empty)
  else if sheetNameLimit < chars.length then .error (.invalidSheetName .tooLong)
  else match chars.find? forbiddenChars.contains with
    | some char => .error (.invalidSheetName (.forbidden char))
    | none =>
      if chars.head? = some '\'' ∨ chars.getLast? = some '\'' then
        .error (.invalidSheetName .outerApostrophe)
      else if (book.sheetIndex name).isSome then .error (.duplicateSheetName name)
      else .ok ()

/-- Adds a sheet at the end and gives its number. -/
def addSheetNamed (book : Workbook) (name : String) : Except DocumentError (Nat × Workbook) := do
  book.checkSheetName name
  return (book.sheetCount, { book with sheets := book.sheets ++ [.blank name] })

/-- The name that new sheets are given, by number. -/
def numberedName (number : Nat) : String := s!"Sheet{number}"

/-- The least number from one on whose sheet name is free. One of the first numbers is, as there is
one more of them than there are sheets. -/
def freeNumber (book : Workbook) : Nat :=
  ((List.range' 1 (book.sheetCount + 1)).find? fun number =>
    (book.sheetIndex (numberedName number)).isNone).getD (book.sheetCount + 1)

/-- Adds a sheet with the first free numbered name. -/
def addSheet (book : Workbook) : Except DocumentError (Nat × Workbook) :=
  book.addSheetNamed (numberedName book.freeNumber)

/-- The sheet with a number. -/
def sheet? (book : Workbook) (index : Nat) : Option Worksheet := book.sheets[index]?

/-- The workbook with another sheet in place of one. -/
def setSheet (book : Workbook) (index : Nat) (sheet : Worksheet) : Workbook :=
  { book with sheets := book.sheets.set index sheet }

/-- Defines a name that every sheet sees. -/
def defineName (book : Workbook) (name refersTo : String) : Except DocumentError Workbook := do
  return { book with names := ← book.names.define ⟨name, .workbook, refersTo, none⟩ }

/-- Defines a name that one sheet sees. -/
def defineNameFor (book : Workbook) (sheet : Nat) (name refersTo : String) :
    Except DocumentError Workbook := do
  if book.sheetCount ≤ sheet then throw (.sheetOutOfBounds sheet book.sheetCount)
  return { book with names := ← book.names.define ⟨name, .sheet sheet, refersTo, none⟩ }

/-- What a cell shows; sheets that do not exist show blanks. -/
def shown (book : Workbook) (sheet : Nat) (position : Position) : Cell :=
  match book.sheet? sheet with
  | some worksheet => worksheet.shown position
  | none => .empty

/-- The formula text of a cell. -/
def formulaAt (book : Workbook) (sheet : Nat) (position : Position) : Option String :=
  (book.sheet? sheet).bind fun worksheet => worksheet.formulaAt position

/-- Every formula of a sheet, row by row. -/
def formulas (book : Workbook) (sheet : Nat) : List (Position × String) :=
  ((book.sheet? sheet).map Worksheet.formulas).getD []

/-- Whether a row of a sheet is hidden. -/
def isRowHidden (book : Workbook) (sheet row : Nat) : Bool :=
  (book.sheet? sheet).any fun worksheet => worksheet.isRowHidden row

/-- The bottom right corner of the cells in use on a sheet. -/
def usedEnd (book : Workbook) (sheet : Nat) : Option Address := do
  return (← (← book.sheet? sheet).usedRange).last

end Workbook

end Spreadsheet
