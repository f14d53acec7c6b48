import Mathlib.Logic.Relation
import Spreadsheet.Dependency.References
import Spreadsheet.Proofs.Address.Range

/-!
# What expressions mention

An expression mentions cells, ranges, names and functions, and by its names it leads to what their
definitions mention. This is what evaluation may look at. What the references of a formula are is
read off its tokens instead, so the two are compared elsewhere.
-/

namespace Spreadsheet

open Dependency (Mention)
open Formula (Expr)

/-- The range without the marks of its corners. -/
def CellRange.unmarked (range : CellRange) : CellRange :=
  .ofPositions range.first.position range.last.position

/-- Without its markers, a range between two addresses is the one between their positions. -/
theorem CellRange.unmarked_of_corners (left right : Address) :
    (CellRange.ofCorners left right).unmarked = .ofPositions left.position right.position := by
  simp only [unmarked, ofCorners, ofPositions, Address.ofPosition, Address.position]
  congr 1 <;> grind

/-- The markers of a range do not matter to the cells it contains. -/
@[simp] theorem CellRange.contains_unmarked (range : CellRange) (position : Position) :
    range.unmarked.contains position = range.contains position := by
  have hrows := range.rows_ordered
  have hcolumns := range.columns_ordered
  simp [unmarked, ofPositions, ofCorners, contains, Address.ofPosition, Address.position, hrows,
    hcolumns]

/-- The range of one address contains the position of that address only. -/
@[simp] theorem CellRange.contains_single (address : Address) (position : Position) :
    (CellRange.single address).contains position = true ↔ position = address.position := by
  obtain ⟨row, column⟩ := position
  rw [contains_iff, mem_rows_iff, mem_columns_iff]
  simp only [single, Address.position, Position.mk.injEq]
  omega

/-- The sheet on which a reference lies, if it exists. -/
def placeOf (sheetIndex : String → Option Nat) (home : Nat) : (sheet : Option String) → Option Nat
  | none => some home
  | some name => sheetIndex name

namespace Formula.Expr

variable (sheetIndex : String → Option Nat) (home : Nat)

mutual

/-- What an expression of a sheet mentions, from left to right. -/
def mentions : Expr → List Mention
  | .cell sheet address =>
    ((placeOf sheetIndex home sheet).map fun on => .cell on address.position).toList
  | .range sheet area =>
    ((placeOf sheetIndex home sheet).map fun on => .range on area.unmarked).toList
  | .name sheet word => ((placeOf sheetIndex home sheet).map fun on => .name on word).toList
  | .binary _ left right => mentions left ++ mentions right
  | .unary _ operand => mentions operand
  | .call word operands => .function word :: mentionsAll operands
  | .array rows => mentionsRows rows
  | _ => []

/-- What expressions in a row mention. -/
def mentionsAll : List Expr → List Mention
  | [] => []
  | tree :: rest => mentions tree ++ mentionsAll rest

/-- What the rows of an array constant mention. -/
def mentionsRows : List (List Expr) → List Mention
  | [] => []
  | row :: rest => mentionsAll row ++ mentionsRows rest

end

end Formula.Expr

/-- A name resolves to a definition that is stored under its own key. -/
theorem NameTable.get_key_of_get {table : NameTable} {name : String} {sheet : Nat}
    {definition : DefinedName} (h : table.get name sheet = some definition) :
    table.entries[definition.key]? = some definition := by
  rcases Option.or_eq_some_iff.mp h with hexact | ⟨-, hexact⟩
  · rwa [table.keyed _ _ hexact]
  · rwa [table.keyed _ _ hexact]

namespace Dependency.Mention

/-- Whether a mention is one of a cell. -/
def Covers (sheet : Nat) (position : Position) : Mention → Prop
  | .cell on found => on = sheet ∧ found = position
  | .range on area => on = sheet ∧ area.contains position = true
  | _ => False

/-- Whether a mention is a name whose definition makes another mention. -/
def LeadsTo (book : Workbook) (home : Nat) (mention next : Mention) : Prop :=
  ∃ sheet name definition tree, mention = .name sheet name ∧
    book.names.get name sheet = some definition ∧ definition.parsed = .ok tree ∧
    next ∈ tree.mentions book.sheetIndex home

end Dependency.Mention

/-- Whether an expression of a sheet makes a mention, itself or by definitions of names. -/
def Formula.Expr.LeadsTo (book : Workbook) (home : Nat) (tree : Expr) (mention : Mention) : Prop :=
  ∃ first ∈ tree.mentions book.sheetIndex home,
    Relation.ReflTransGen (Mention.LeadsTo book home) first mention

/-- Whether evaluating an expression of a sheet calls no function whose result may change although
no cell does. -/
def Formula.Expr.Steady (book : Workbook) (home : Nat) (tree : Expr) : Prop :=
  ∀ name, tree.LeadsTo book home (.function name) → Builtin.isVolatileName name = false

end Spreadsheet
