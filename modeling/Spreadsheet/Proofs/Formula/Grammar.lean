import Spreadsheet.Proofs.Formula.Precedence

/-!
# The grammar without levels

`Derives` says which tokens spell which expressions, up to the order in which operators bind: what
only looks at the tokens needs no more. The main theorem, `derives_of_parse`, says that the tokens
of a formula that can be read derive from the expression it is read as.
-/

namespace Spreadsheet.Formula

/-- What a run of tokens is read as. -/
inductive Phrase where
  /-- An operand of the tightest operators. -/
  | primary (tree : Expr)
  | tree (tree : Expr)
  /-- The operands of a call, with the closing parenthesis. -/
  | operands (trees : List Expr)
  /-- The rows of an array constant, with the closing brace. -/
  | rows (rows : List (List Expr))

/-- Whether a symbol is an operator between two operands. -/
def Joins (sign : Symbol) (operator : BinaryOperator) : Prop :=
  (∃ level : Level, level.operator sign = some operator) ∨ sign = .caret ∧ operator = .power

/-- Which tokens spell a phrase. -/
inductive Derives : Phrase → List Token → Prop
  | number (amount : Float) : Derives (.primary (.number amount)) [.number amount]
  | text (content : String) : Derives (.primary (.text content)) [.text content]
  | logical (truth : Bool) : Derives (.primary (.logical truth)) [.logical truth]
  | error (fault : ErrorValue) : Derives (.primary (.error fault)) [.error fault]
  | cell (address : Address) : Derives (.primary (.cell none address)) [.cell address]
  | sheetCell (sheet : String) (address : Address) :
      Derives (.primary (.cell (some sheet) address)) [.sheet sheet, .cell address]
  | name (word : String) : Derives (.primary (.name none word)) [.identifier word]
  | sheetName (sheet word : String) :
      Derives (.primary (.name (some sheet) word)) [.sheet sheet, .identifier word]
  | group {tree : Expr} {inside : List Token} (h : Derives (.tree tree) inside) :
      Derives (.primary tree) (.symbol .leftParen :: (inside ++ [.symbol .rightParen]))
  | emptyCall (word : String) : Derives (.primary (.call (Text.upper word) []))
      [.identifier word, .symbol .leftParen, .symbol .rightParen]
  | call (word : String) {operands : List Expr} {inside : List Token}
      (h : Derives (.operands operands) inside) :
      Derives (.primary (.call (Text.upper word) operands))
        (.identifier word :: .symbol .leftParen :: inside)
  | array {rows : List (List Expr)} {inside : List Token} (h : Derives (.rows rows) inside) :
      Derives (.primary (.array rows)) (.symbol .leftBrace :: inside)
  | primary {tree : Expr} {tokens : List Token} (h : Derives (.primary tree) tokens) :
      Derives (.tree tree) tokens
  | range {leftSheet rightSheet sheet : Option String} {left right : Address}
      {first last : List Token} (hleft : Derives (.primary (.cell leftSheet left)) first)
      (hright : Derives (.primary (.cell rightSheet right)) last)
      (hsheet : commonSheet leftSheet rightSheet = .ok sheet) :
      Derives (.tree (.range sheet (.ofCorners left right))) (first ++ .symbol .colon :: last)
  | percent {tree : Expr} {tokens : List Token} (h : Derives (.tree tree) tokens) :
      Derives (.tree (.unary .percent tree)) (tokens ++ [.symbol .percent])
  | negate {tree : Expr} {tokens : List Token} (h : Derives (.tree tree) tokens) :
      Derives (.tree (.unary .negate tree)) (.symbol .minus :: tokens)
  | plus {tree : Expr} {tokens : List Token} (h : Derives (.tree tree) tokens) :
      Derives (.tree tree) (.symbol .plus :: tokens)
  | binary {sign : Symbol} {operator : BinaryOperator} {left right : Expr} {first last : List Token}
      (hsign : Joins sign operator) (hleft : Derives (.tree left) first)
      (hright : Derives (.tree right) last) :
      Derives (.tree (.binary operator left right)) (first ++ .symbol sign :: last)
  | lastOperand {operand : Expr} {tokens : List Token} (h : Derives (.tree operand) tokens) :
      Derives (.operands [operand]) (tokens ++ [.symbol .rightParen])
  | operand {operand : Expr} {operands : List Expr} {first rest : List Token}
      (h : Derives (.tree operand) first) (hrest : Derives (.operands operands) rest) :
      Derives (.operands (operand :: operands)) (first ++ .symbol .comma :: rest)
  | lastItem {item : Expr} {tokens : List Token} (h : Derives (.tree item) tokens) :
      Derives (.rows [[item]]) (tokens ++ [.symbol .rightBrace])
  | item {item : Expr} {rows : List (List Expr)} {first rest : List Token}
      (h : Derives (.tree item) first) (hrest : Derives (.rows rows) rest) :
      Derives (.rows (consItem item rows)) (first ++ .symbol .comma :: rest)
  | rowEnd {item : Expr} {rows : List (List Expr)} {first rest : List Token}
      (h : Derives (.tree item) first) (hrest : Derives (.rows rows) rest) :
      Derives (.rows ([item] :: rows)) (first ++ .symbol .semicolon :: rest)

/-- How the tokens of a part of a formula derive, with any of the brackets that may close it. -/
def Part.Derived : Part → List Token → Prop
  | .tree _ operand, tokens => Derives (.tree operand) tokens
  | .marked operand, tokens => Derives (.tree operand) tokens
  | .span operand, tokens => Derives (.tree operand) tokens
  | .primary operand, tokens => Derives (.primary operand) tokens
  | .list trees, tokens => Derives (.operands trees) (tokens ++ [.symbol .rightParen]) ∧
      Derives (.rows [trees]) (tokens ++ [.symbol .rightBrace]) ∧
      ∀ rows rest, Derives (.rows rows) rest →
        Derives (.rows (trees :: rows)) (tokens ++ .symbol .semicolon :: rest)
  | .rows lists, tokens => Derives (.rows lists) (tokens ++ [.symbol .rightBrace])

/-- What tokens spell with levels they spell without. -/
theorem Spells.derived {part : Part} {tokens : List Token} (h : Spells part tokens) :
    part.Derived tokens := by
  induction h with
  | looser _ _ ih => exact ih
  | operation hsign _ _ ihLeft ihRight =>
      exact .binary (.inl ⟨_, binds_iff.mp hsign⟩) ihLeft ihRight
  | power _ _ ihLeft ihRight => exact .binary (.inr ⟨rfl, rfl⟩) ihLeft ihRight
  | negate _ ih => exact .negate ih
  | plus _ ih => exact .plus ih
  | unsigned _ ih => exact ih
  | percent _ ih => exact .percent ih
  | unmarked _ ih => exact ih
  | range hsheets _ _ ihLeft ihRight =>
      exact .range ihLeft ihRight (common_sheet_eq_ok_iff.mpr ⟨hsheets, rfl⟩)
  | single _ ih => exact .primary ih
  | number => exact .number _
  | text => exact .text _
  | logical => exact .logical _
  | error => exact .error _
  | cell => exact .cell _
  | sheetCell => exact .sheetCell _ _
  | name => exact .name _
  | sheetName => exact .sheetName _ _
  | group _ ih => exact .group ih
  | emptyCall word => exact .emptyCall word
  | call word _ ih => exact .call word ih.1
  | array _ _ ih => exact .array ih
  | lastItem _ ih => exact ⟨.lastOperand ih, .lastItem ih, fun rows rest => .rowEnd ih⟩
  | item _ _ ih ihRest =>
      refine ⟨?_, ?_, ?_⟩
      · simpa using Derives.operand ih ihRest.1
      · simpa [consItem] using Derives.item ih ihRest.2.1
      · intro rows rest hrows
        simpa [consItem] using Derives.item ih (ihRest.2.2 rows rest hrows)
  | lastRow _ ih => exact ih.2.1
  | row _ _ ih ihRest => simpa [Part.Derived] using ih.2.2 _ _ ihRest

/-- The tokens of a formula that can be read derive from the expression it is read as. -/
theorem derives_of_parse {tokens : List Token} {tree : Expr} (h : parseTokens tokens = .ok tree) :
    Derives (.tree tree) tokens :=
  (spells_of_parse h).derived

end Spreadsheet.Formula
