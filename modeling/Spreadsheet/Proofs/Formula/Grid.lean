import Spreadsheet.Proofs.Address.Range
import Spreadsheet.Proofs.Formula.Grammar
import Spreadsheet.Proofs.Formula.Tokens

/-!
# References inside the grid

A word is an address only if its row and its column lie inside the grid of a worksheet; any other
word is a name. The main theorem, `in_grid_of_parse`, says that what can be read as a formula names
cells and ranges inside the grid alone.
-/

namespace Spreadsheet

/-- A range inside the grid of a worksheet. -/
def CellRange.InGrid (range : CellRange) : Prop :=
  ∀ position, range.contains position = true → position.InGrid

/-- A range contains its last corner. -/
theorem CellRange.contains_last (range : CellRange) :
    range.contains range.last.position = true := by
  have hrows := range.rows_ordered
  have hcolumns := range.columns_ordered
  rw [contains_iff, mem_rows_iff, mem_columns_iff]
  exact ⟨⟨hrows, Nat.le_refl _⟩, ⟨hcolumns, Nat.le_refl _⟩⟩

section Ranges

variable {left right : Address}

/-- A range between two addresses of the grid lies in the grid. -/
theorem CellRange.in_grid_of_corners (hleft : left.position.InGrid)
    (hright : right.position.InGrid) : (CellRange.ofCorners left right).InGrid := by
  intro position hposition
  obtain ⟨hrow, hcolumn⟩ := CellRange.contains_iff.mp hposition
  rw [mem_rows_iff] at hrow
  rw [mem_columns_iff] at hcolumn
  simp only [ofCorners] at hrow hcolumn
  simp only [Position.InGrid, Address.position] at hleft hright ⊢
  grind

/-- The range of one address of the grid lies in the grid. -/
theorem CellRange.in_grid_single (h : left.position.InGrid) :
    (CellRange.single left).InGrid := by
  intro position hposition
  rw [CellRange.contains_iff, mem_rows_iff, mem_columns_iff] at hposition
  simp only [single] at hposition
  simp only [Position.InGrid, Address.position] at h ⊢
  omega

end Ranges

/-- Letters that are read as a column name one of the grid. -/
theorem Column.of_letters_lt {letters : List Char} {column : Nat}
    (h : ofLetters letters = .ok column) : column < columnLimit := by
  unfold ofLetters at h
  dsimp only at h
  split at h
  · cases h
  · split at h
    · cases h
    · split at h
      · cases h
        assumption
      · cases h

/-- Characters are read as addresses of the grid alone. -/
theorem Address.in_grid_of_chars {chars : List Char} {address : Address}
    (h : ofChars chars = .ok address) : address.position.InGrid := by
  unfold ofChars at h
  dsimp only at h
  split at h
  · cases h
  · obtain ⟨column, hcolumn, h⟩ := bind_eq_ok_iff.mp h
    split at h
    · cases h
    · split at h
      · cases h
      · split at h
        · cases h
        · rename_i hdigits hbeyond
          cases h
          refine ⟨?_, Column.of_letters_lt hcolumn⟩
          -- rows are written from one, so the last one that can be written is the last of the grid
          simp only [Bool.or_eq_true, decide_eq_true_eq] at hdigits
          simp only [position]
          omega

namespace Formula

/-- A token that is no address, or an address of the grid. -/
def Token.InGrid : Token → Prop
  | .cell address => address.position.InGrid
  | _ => True

section Words

variable {token : Token} {chars rest : List Char}

/-- An address that a word is read as lies in the grid. -/
theorem read_word_in_grid (word : List Char) : (readWord word).InGrid := by
  unfold readWord
  dsimp only
  split_ifs
  · exact trivial
  · exact trivial
  · cases haddress : Address.parse (String.ofList word) with
    | error refusal => exact trivial
    | ok address => exact Address.in_grid_of_chars haddress

/-- An address that a word at the front is read as lies in the grid. -/
theorem take_word_in_grid (chars : List Char) : (takeWord chars).1.InGrid := by
  unfold takeWord
  dsimp only
  split
  · exact trivial
  · exact trivial
  · exact read_word_in_grid _

/-- An address that is taken as a token lies in the grid. -/
theorem take_token_in_grid {total : Nat} {char : Char}
    (h : takeToken total char chars = .ok (token, rest)) : token.InGrid := by
  obtain ⟨_, -, rfl⟩ | ⟨_, -, rfl⟩ | ⟨_, -, rfl⟩ | ⟨_, -, rfl⟩ | ⟨_, -, rfl⟩ | ⟨-, htake⟩ :=
    take_token_cases h
  · exact trivial
  · exact trivial
  · exact trivial
  · exact trivial
  · exact trivial
  · have htoken : (takeWord (char :: chars)).1 = token := congrArg Prod.fst htake
    exact htoken ▸ take_word_in_grid _

/-- All addresses among the tokens of a text lie in the grid. -/
theorem Tokenized.in_grid {found : List Token} (h : Tokenized chars found) :
    ∀ token ∈ found, token.InGrid := by
  induction h with
  | nil => exact List.forall_mem_nil _
  | cons _ htoken _ ih => exact List.forall_mem_cons.mpr ⟨take_token_in_grid htoken, ih⟩

end Words

namespace Expr

mutual

/-- Whether an expression names cells and ranges of the grid alone. -/
def InGrid : Expr → Prop
  | .cell _ address => address.position.InGrid
  | .range _ area => area.InGrid
  | .binary _ left right => left.InGrid ∧ right.InGrid
  | .unary _ operand => operand.InGrid
  | .call _ operands => AllInGrid operands
  | .array rows => RowsInGrid rows
  | _ => True

/-- The same of expressions in a row. -/
def AllInGrid : List Expr → Prop
  | [] => True
  | tree :: rest => tree.InGrid ∧ AllInGrid rest

/-- The same of the rows of an array constant. -/
def RowsInGrid : List (List Expr) → Prop
  | [] => True
  | row :: rest => AllInGrid row ∧ RowsInGrid rest

end

/-- Rows lie in the grid with one more item if they and the item do. -/
theorem rows_in_grid_cons_item {item : Expr} {rows : List (List Expr)} (hitem : item.InGrid)
    (hrows : RowsInGrid rows) : RowsInGrid (consItem item rows) := by
  cases rows with
  | nil => exact ⟨⟨hitem, trivial⟩, trivial⟩
  | cons row rest => exact ⟨⟨hitem, hrows.1⟩, hrows.2⟩

end Expr

/-- Whether a phrase names cells and ranges of the grid alone. -/
def Phrase.InGrid : Phrase → Prop
  | .primary operand => operand.InGrid
  | .tree operand => operand.InGrid
  | .operands trees => Expr.AllInGrid trees
  | .rows lists => Expr.RowsInGrid lists

/-- What tokens within the grid are parsed to lies in the grid. -/
theorem Derives.in_grid {phrase : Phrase} {tokens : List Token} (h : Derives phrase tokens)
    (htokens : ∀ token ∈ tokens, token.InGrid) : phrase.InGrid := by
  induction h with try simp only [List.forall_mem_append, List.forall_mem_cons] at htokens
  | number | text | logical | error | name | sheetName | emptyCall =>
      simp [Phrase.InGrid, Expr.InGrid, Expr.AllInGrid]
  | cell => exact htokens.1
  | sheetCell => exact htokens.2.1
  | group _ ih => exact ih htokens.2.1
  | call _ _ ih => exact ih htokens.2.2
  | array _ ih | negate _ ih | plus _ ih => exact ih htokens.2
  | primary _ ih => exact ih htokens
  | percent _ ih => exact ih htokens.1
  | range _ _ _ ihLeft ihRight =>
      exact CellRange.in_grid_of_corners (ihLeft htokens.1) (ihRight htokens.2.2)
  | binary _ _ _ ihLeft ihRight => exact ⟨ihLeft htokens.1, ihRight htokens.2.2⟩
  | lastOperand _ ih => exact ⟨ih htokens.1, trivial⟩
  | operand _ _ ih ihRest => exact ⟨ih htokens.1, ihRest htokens.2.2⟩
  | lastItem _ ih => exact ⟨⟨ih htokens.1, trivial⟩, trivial⟩
  | item _ _ ih ihRest => exact Expr.rows_in_grid_cons_item (ih htokens.1) (ihRest htokens.2.2)
  | rowEnd _ _ ih ihRest => exact ⟨⟨ih htokens.1, trivial⟩, ihRest htokens.2.2⟩

/-- What can be read as a formula names cells and ranges of the grid alone. -/
theorem in_grid_of_parse {formula : String} {tree : Expr} (h : parse formula = .ok tree) :
    tree.InGrid := by
  obtain ⟨found, hfound, hparse⟩ := bind_eq_ok_iff.mp h
  exact (derives_of_parse hparse).in_grid (tokens_eq_ok_iff.mp hfound).in_grid

end Formula

end Spreadsheet
