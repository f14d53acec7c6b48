import Spreadsheet.Builtin.Registry
import Spreadsheet.Dependency.Traversal
import Spreadsheet.Evaluation.Definition
import Spreadsheet.Workbook

/-!
# What a formula reads

The references of a formula are read off its tokens: cells, ranges, defined names and functions,
each on the sheet named before it or on the sheet of the formula. A defined name stands for the
references of its definition, and of the names in that, to any depth. A reference to a sheet that
does not exist reads nothing.
-/

namespace Spreadsheet.Dependency

open Formula (Token)

/-- Something that tokens mention. -/
inductive Mention where
  | cell (sheet : Nat) (position : Position)
  | range (sheet : Nat) (range : CellRange)
  | name (sheet : Nat) (name : String)
  /-- The name of a function. -/
  | function (name : String)
  deriving DecidableEq, Repr

/-- Whether tokens begin with an opening parenthesis. -/
def startsCall : List Token → Bool
  | .symbol .leftParen :: _ => true
  | _ => false

/-- What tokens mention. `sheet` is where a reference that comes next lies, if that sheet exists,
and `home` is where all others lie. A sheet name counts for the token after it only. -/
def mentions (sheetIndex : String → Option Nat) (home : Nat) :
    (sheet : Option Nat) → List Token → List Mention
  | _, [] => []
  | _, .sheet name :: rest => mentions sheetIndex home (sheetIndex name) rest
  | sheet, .cell first :: .symbol .colon :: .cell last :: rest =>
    (sheet.map fun sheet => .range sheet (.ofPositions first.position last.position)).toList ++
      mentions sheetIndex home (some home) rest
  | sheet, .cell address :: rest =>
    (sheet.map fun sheet => .cell sheet address.position).toList ++
      mentions sheetIndex home (some home) rest
  | sheet, .identifier name :: rest =>
    (if startsCall rest then [.function name]
      else (sheet.map fun sheet => .name sheet name).toList) ++
      mentions sheetIndex home (some home) rest
  | _, _ :: rest => mentions sheetIndex home (some home) rest

/-- What tokens written on a sheet mention. -/
def mentionsOn (book : Workbook) (home : Nat) (tokens : List Token) : List Mention :=
  mentions book.sheetIndex home (some home) tokens

/-- What a definition mentions when it is used on a sheet; an unreadable one mentions nothing. -/
def mentionsOf (book : Workbook) (home : Nat) (key : NameKey) : List Mention :=
  match book.names.entries[key]? with
  | some definition => mentionsOn book home (definition.tokens.toOption.getD [])
  | none => []

/-- The keys of the definitions that mentions resolve to. -/
def definitionsIn (book : Workbook) (found : List Mention) : List NameKey :=
  found.filterMap fun
    | .name sheet name => (book.names.get name sheet).map DefinedName.key
    | _ => none

/-- The definitions that mentions lead to, directly or by way of other definitions. -/
def definitionsReached (book : Workbook) (home : Nat) (found : List Mention) : List NameKey :=
  (reachable NameKey.order (fun key => definitionsIn book (mentionsOf book home key))
    book.names.size (definitionsIn book found)).toList

/-- What a formula reads. -/
structure References where
  cells : List (Nat × Position)
  ranges : List (Nat × CellRange)
  /-- Whether it calls a function whose result may change although no cell does. -/
  isVolatile : Bool
  deriving Inhabited

namespace References

/-- The references among mentions. -/
def ofMentions (found : List Mention) : References where
  cells := found.filterMap fun
    | .cell sheet position => some (sheet, position)
    | _ => none
  ranges := found.filterMap fun
    | .range sheet range => some (sheet, range)
    | _ => none
  isVolatile := found.any fun
    | .function name => Builtin.isVolatileName name
    | _ => false

/-- The references of tokens written on a sheet. -/
def ofTokens (book : Workbook) (home : Nat) (tokens : List Token) : References :=
  let found := mentionsOn book home tokens
  ofMentions (found ++ (definitionsReached book home found).flatMap (mentionsOf book home))

/-- Whether a cell is read. -/
def reads (references : References) (sheet : Nat) (position : Position) : Bool :=
  references.cells.contains (sheet, position) ||
    references.ranges.any fun (on, range) => on == sheet && range.contains position

end References

end Spreadsheet.Dependency
