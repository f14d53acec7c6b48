import Spreadsheet.Formula.Parser
import Spreadsheet.Proofs.Results

/-!
# The grammar of formulas

`Spells` says which tokens spell which expressions. Each level of operators has its own operands,
so that no tokens spell two expressions. The main theorem, `spells_of_parse`, says that the tokens
of a formula that can be read spell the expression it is read as.
-/

namespace Spreadsheet.Formula

/-- Which symbols are operators of which levels that group to the left. -/
inductive Binds : Level → Symbol → BinaryOperator → Prop
  | equal : Binds .comparison .equal .equal
  | notEqual : Binds .comparison .notEqual .notEqual
  | lessThan : Binds .comparison .lessThan .lessThan
  | lessEqual : Binds .comparison .lessEqual .lessEqual
  | greaterThan : Binds .comparison .greaterThan .greaterThan
  | greaterEqual : Binds .comparison .greaterEqual .greaterEqual
  | concat : Binds .concatenation .ampersand .concat
  | add : Binds .additive .plus .add
  | subtract : Binds .additive .minus .subtract
  | multiply : Binds .multiplicative .star .multiply
  | divide : Binds .multiplicative .slash .divide

/-- A symbol binds on a level exactly if the level takes it for an operator. -/
theorem binds_iff {level : Level} {sign : Symbol} {operator : BinaryOperator} :
    Binds level sign operator ↔ level.operator sign = some operator := by
  constructor
  · intro h
    cases h <;> rfl
  · intro h
    unfold Level.operator at h
    split at h <;> cases h <;> constructor

/-- Whether two addresses can be the ends of a range: two sheet names agree up to ASCII case. -/
def Compatible (left right : Option String) : Prop :=
  ∀ first ∈ left, ∀ last ∈ right, Text.eqIgnoringAsciiCase first last = true

/-- A part of a formula, with what it is read as. -/
inductive Part where
  /-- The operands and operators of a level. -/
  | tree (level : Level) (tree : Expr)
  /-- An operand with its percent marks. -/
  | marked (tree : Expr)
  /-- An operand of the percent marks. -/
  | span (tree : Expr)
  | primary (tree : Expr)
  /-- Expressions with commas between them. -/
  | list (trees : List Expr)
  /-- Lists with semicolons between them. -/
  | rows (rows : List (List Expr))

/-- Which tokens spell a part of a formula. -/
inductive Spells : Part → List Token → Prop
  | looser {level : Level} {tree : Expr} {tokens : List Token} (hlevel : level ≠ .sign)
      (h : Spells (.tree level.next tree) tokens) : Spells (.tree level tree) tokens
  | operation {level : Level} {sign : Symbol} {operator : BinaryOperator} {left right : Expr}
      {first last : List Token} (hsign : Binds level sign operator)
      (hleft : Spells (.tree level left) first) (hright : Spells (.tree level.next right) last) :
      Spells (.tree level (.binary operator left right)) (first ++ .symbol sign :: last)
  | power {left right : Expr} {first last : List Token} (hleft : Spells (.tree .sign left) first)
      (hright : Spells (.tree .power right) last) :
      Spells (.tree .power (.binary .power left right)) (first ++ .symbol .caret :: last)
  | negate {tree : Expr} {tokens : List Token} (h : Spells (.tree .sign tree) tokens) :
      Spells (.tree .sign (.unary .negate tree)) (.symbol .minus :: tokens)
  | plus {tree : Expr} {tokens : List Token} (h : Spells (.tree .sign tree) tokens) :
      Spells (.tree .sign tree) (.symbol .plus :: tokens)
  | unsigned {tree : Expr} {tokens : List Token} (h : Spells (.marked tree) tokens) :
      Spells (.tree .sign tree) tokens
  | percent {tree : Expr} {tokens : List Token} (h : Spells (.marked tree) tokens) :
      Spells (.marked (.unary .percent tree)) (tokens ++ [.symbol .percent])
  | unmarked {tree : Expr} {tokens : List Token} (h : Spells (.span tree) tokens) :
      Spells (.marked tree) tokens
  | range {leftSheet rightSheet : Option String} {left right : Address} {first last : List Token}
      (hsheets : Compatible leftSheet rightSheet)
      (hleft : Spells (.primary (.cell leftSheet left)) first)
      (hright : Spells (.primary (.cell rightSheet right)) last) :
      Spells (.span (.range (leftSheet.or rightSheet) (.ofCorners left right)))
        (first ++ .symbol .colon :: last)
  | single {tree : Expr} {tokens : List Token} (h : Spells (.primary tree) tokens) :
      Spells (.span tree) tokens
  | number (amount : Float) : Spells (.primary (.number amount)) [.number amount]
  | text (content : String) : Spells (.primary (.text content)) [.text content]
  | logical (truth : Bool) : Spells (.primary (.logical truth)) [.logical truth]
  | error (fault : ErrorValue) : Spells (.primary (.error fault)) [.error fault]
  | cell (address : Address) : Spells (.primary (.cell none address)) [.cell address]
  | sheetCell (sheet : String) (address : Address) :
      Spells (.primary (.cell (some sheet) address)) [.sheet sheet, .cell address]
  | name (word : String) : Spells (.primary (.name none word)) [.identifier word]
  | sheetName (sheet word : String) :
      Spells (.primary (.name (some sheet) word)) [.sheet sheet, .identifier word]
  | group {tree : Expr} {inside : List Token} (h : Spells (.tree .comparison tree) inside) :
      Spells (.primary tree) (.symbol .leftParen :: (inside ++ [.symbol .rightParen]))
  | emptyCall (word : String) : Spells (.primary (.call (Text.upper word) []))
      [.identifier word, .symbol .leftParen, .symbol .rightParen]
  | call (word : String) {operands : List Expr} {inside : List Token}
      (h : Spells (.list operands) inside) :
      Spells (.primary (.call (Text.upper word) operands))
        (.identifier word :: .symbol .leftParen :: (inside ++ [.symbol .rightParen]))
  | array {rows : List (List Expr)} {inside : List Token}
      (hwidth : ∀ row ∈ rows, ∀ other ∈ rows, row.length = other.length)
      (h : Spells (.rows rows) inside) :
      Spells (.primary (.array rows)) (.symbol .leftBrace :: (inside ++ [.symbol .rightBrace]))
  | lastItem {item : Expr} {tokens : List Token} (h : Spells (.tree .comparison item) tokens) :
      Spells (.list [item]) tokens
  | item {item : Expr} {items : List Expr} {first rest : List Token}
      (h : Spells (.tree .comparison item) first) (hrest : Spells (.list items) rest) :
      Spells (.list (item :: items)) (first ++ .symbol .comma :: rest)
  | lastRow {row : List Expr} {tokens : List Token} (h : Spells (.list row) tokens) :
      Spells (.rows [row]) tokens
  | row {row : List Expr} {rows : List (List Expr)} {first rest : List Token}
      (h : Spells (.list row) first) (hrest : Spells (.rows rows) rest) :
      Spells (.rows (row :: rows)) (first ++ .symbol .semicolon :: rest)

/-- An item and a comma before the first row make it longer. -/
theorem Spells.cons_item {item : Expr} {rows : List (List Expr)} {first rest : List Token}
    (h : Spells (.tree .comparison item) first) (hrest : Spells (.rows rows) rest) :
    Spells (.rows (consItem item rows)) (first ++ .symbol .comma :: rest) := by
  cases hrest with
  | lastRow hrow => exact .lastRow (h.item hrow)
  | row hrow hrows =>
      rw [← List.cons_append, ← List.append_assoc]
      exact .row (h.item hrow) hrows

/-- Every part of a formula begins with a token, which closes no bracket; operands of signs do not
begin with one. -/
def Part.Opens : Part → Token → Prop
  | .marked _, token | .span _, token | .primary _, token =>
      token ≠ .symbol .plus ∧ token ≠ .symbol .minus ∧
        token ≠ .symbol .rightParen ∧ token ≠ .symbol .rightBrace
  | _, token => token ≠ .symbol .rightParen ∧ token ≠ .symbol .rightBrace

/-- Every part of an expression is spelled with a first token that may open it. -/
theorem Spells.opens {part : Part} {tokens : List Token} (h : Spells part tokens) :
    ∃ token rest, tokens = token :: rest ∧ part.Opens token := by
  induction h with
  | looser _ _ ih | unmarked _ ih | single _ ih | lastItem _ ih | lastRow _ ih => exact ih
  | unsigned _ ih =>
      obtain ⟨token, rest, rfl, -, -, hopens⟩ := ih
      exact ⟨token, rest, rfl, hopens⟩
  | operation _ _ _ ih | power _ _ ih | percent _ ih | range _ _ _ ih | item _ _ ih | row _ _ ih =>
      obtain ⟨token, rest, rfl, hopens⟩ := ih
      exact ⟨token, _, rfl, hopens⟩
  | _ => exact ⟨_, _, rfl, by simp [Part.Opens]⟩

/-- Whether reading tokens has taken off a part and left a rest. -/
def Reads (part : Part) (tokens rest : List Token) : Prop :=
  ∃ taken, tokens = taken ++ rest ∧ Spells part taken

/-- What is read takes at least one token off. -/
theorem Reads.length_lt {part : Part} {tokens rest : List Token} (h : Reads part tokens rest) :
    rest.length < tokens.length := by
  obtain ⟨taken, rfl, hspells⟩ := h
  obtain ⟨token, more, rfl, -⟩ := hspells.opens
  simp only [List.length_append, List.length_cons]
  omega

/-- What is known of the parser as far as it has some room. -/
structure Sound (room : Nat) : Prop where
  expression : ∀ {level tokens tree rest}, expression room level tokens = .ok (tree, rest) →
    Reads (.tree level tree) tokens rest
  operations : ∀ {level left before tokens tree rest}, Spells (.tree level left) before →
    operations room level left tokens = .ok (tree, rest) →
      Reads (.tree level tree) (before ++ tokens) rest
  range : ∀ {tokens tree rest}, range room tokens = .ok (tree, rest) →
    Reads (.span tree) tokens rest
  primary : ∀ {tokens tree rest}, primary room tokens = .ok (tree, rest) →
    Reads (.primary tree) tokens rest
  arguments : ∀ {tokens trees rest}, arguments room tokens = .ok (trees, rest) →
    (trees = [] ∧ tokens = .symbol .rightParen :: rest) ∨
      Reads (.list trees) tokens (.symbol .rightParen :: rest)
  operands : ∀ {tokens trees rest}, moreArguments room tokens = .ok (trees, rest) →
    Reads (.list trees) tokens (.symbol .rightParen :: rest)
  rows : ∀ {tokens rows rest}, arrayRows room tokens = .ok (rows, rest) →
    Reads (.rows rows) tokens (.symbol .rightBrace :: rest)

/-- An operand with the percent signs behind it is read as the signs applied to it. -/
theorem reads_percents {operand tree : Expr} {before tokens rest : List Token}
    (hoperand : Spells (.marked operand) before) (h : percents operand tokens = (tree, rest)) :
    Reads (.marked tree) (before ++ tokens) rest := by
  induction tokens generalizing operand before with
  | nil =>
      cases h
      exact ⟨before, rfl, hoperand⟩
  | cons token tokens ih =>
      unfold percents at h
      split at h
      · rename_i hsame
        cases hsame
        obtain ⟨taken, htaken, hspells⟩ := ih hoperand.percent h
        exact ⟨taken, by rw [← htaken, List.append_assoc]; rfl, hspells⟩
      · cases h
        exact ⟨before, rfl, hoperand⟩

/-- Two sheets have a common one exactly if one of them is missing or both have one name. -/
theorem common_sheet_eq_ok_iff {left right sheet : Option String} :
    commonSheet left right = .ok sheet ↔ Compatible left right ∧ sheet = left.or right := by
  unfold commonSheet Compatible
  split
  · rename_i first last
    simp only [Option.mem_some_iff, forall_eq', Option.some_or]
    split
    · rename_i hagree
      exact ⟨fun h => ⟨hagree, (Except.ok.inj h).symm⟩, fun h => by rw [h.2]⟩
    · rename_i hdiffer
      exact ⟨nofun, fun h => absurd h.1 hdiffer⟩
  · rename_i hnot
    refine ⟨fun h => ⟨?_, (Except.ok.inj h).symm⟩, fun h => by rw [h.2]⟩
    intro first hfirst last hlast
    exact (hnot first last hfirst hlast).elim

/-- A range joins two addresses on compatible sheets. -/
theorem join_range_eq_ok {first last joined : Expr} (h : joinRange first last = .ok joined) :
    ∃ leftSheet left rightSheet right, first = .cell leftSheet left ∧
      last = .cell rightSheet right ∧ Compatible leftSheet rightSheet ∧
      joined = .range (leftSheet.or rightSheet) (.ofCorners left right) := by
  unfold joinRange at h
  split at h
  · obtain ⟨sheet, hsheet, hsame⟩ := bind_eq_ok_iff.mp h
    obtain ⟨hcompatible, rfl⟩ := common_sheet_eq_ok_iff.mp hsheet
    cases hsame
    exact ⟨_, _, _, _, rfl, rfl, hcompatible, rfl⟩
  · cases h

/-- An array constant has rows of one length. -/
theorem array_of_rows_eq_ok_iff {rows : List (List Expr)} {tree : Expr} :
    arrayOfRows rows = .ok tree ↔
      (∀ row ∈ rows, ∀ other ∈ rows, row.length = other.length) ∧ tree = .array rows := by
  have hall : (rows.all fun row => row.length == (rows.headD []).length) = true ↔
      ∀ row ∈ rows, ∀ other ∈ rows, row.length = other.length := by
    rw [List.all_eq_true]
    cases rows with
    | nil => simp
    | cons first rows =>
        constructor
        · intro h row hrow other hother
          rw [eq_of_beq (h row hrow), eq_of_beq (h other hother)]
        · intro h row hrow
          exact beq_iff_eq.mpr (h row hrow first List.mem_cons_self)
  unfold arrayOfRows
  split
  · rename_i h
    exact ⟨fun hsame => ⟨hall.mp h, (Except.ok.inj hsame).symm⟩, fun hsame => by rw [hsame.2]⟩
  · rename_i h
    exact ⟨nofun, fun hsame => absurd (hall.mpr hsame.1) h⟩

/-- A sign that must come next is taken off. -/
theorem expect_eq_ok_iff {sign : Symbol} {tokens rest : List Token} :
    expect sign tokens = .ok rest ↔ tokens = .symbol sign :: rest := by
  unfold expect
  split
  · split <;> simp_all
  · rename_i hnot
    exact ⟨nofun, fun h => (hnot _ _ h).elim⟩

/-- An operator that can be taken off belongs to the level. -/
theorem take_operator_eq_some_iff {level : Level} {tokens rest : List Token}
    {operator : BinaryOperator} : level.takeOperator tokens = some (operator, rest) ↔
      ∃ sign, Binds level sign operator ∧ tokens = .symbol sign :: rest := by
  unfold Level.takeOperator
  split
  · simp only [Option.map_eq_some_iff, binds_iff, Prod.mk.injEq, List.cons.injEq,
      Token.symbol.injEq]
    constructor
    · intro ⟨found, hfound, hsame, hrest⟩
      exact ⟨_, hsame ▸ hfound, rfl, hrest⟩
    · intro ⟨sign, hsign, hsame, hrest⟩
      exact ⟨operator, hsame ▸ hsign, rfl, hrest⟩
  · rename_i hnot
    exact ⟨nofun, fun ⟨_, _, h⟩ => (hnot _ _ h).elim⟩

/-- A sheet name is followed by an address or a name. -/
theorem reads_reference {sheet : String} {tokens rest : List Token} {tree : Expr}
    (h : reference sheet tokens = .ok (tree, rest)) :
    Reads (.primary tree) (.sheet sheet :: tokens) rest := by
  unfold reference at h
  split at h
  · cases h
    exact ⟨[_, _], rfl, .sheetCell sheet _⟩
  · cases h
  · cases h
    exact ⟨[_, _], rfl, .sheetName sheet _⟩
  · cases h

section Steps

variable {room : Nat} (ih : Sound room)
include ih

/-- With one more unit of room, what is read on a level is spelled by the tokens taken for it. -/
theorem reads_expression {level : Level} {tokens rest : List Token} {tree : Expr}
    (h : expression (room + 1) level tokens = .ok (tree, rest)) :
    Reads (.tree level tree) tokens rest := by
  -- on most levels operators are taken from the left to the right
  have hleft : ∀ level : Level, level ≠ .sign →
      (expression room level.next tokens >>= fun found =>
        operations room level found.1 found.2) = .ok (tree, rest) →
      Reads (.tree level tree) tokens rest := by
    intro level hlevel h
    obtain ⟨⟨left, after⟩, hleft, hrest⟩ := bind_eq_ok_iff.mp h
    obtain ⟨taken, rfl, hspells⟩ := ih.expression hleft
    exact ih.operations (hspells.looser hlevel) hrest
  cases level with
  | sign =>
      unfold expression at h
      split at h
      · obtain ⟨⟨operand, after⟩, hoperand, hsame⟩ := bind_eq_ok_iff.mp h
        cases hsame
        obtain ⟨taken, rfl, hspells⟩ := ih.expression hoperand
        exact ⟨_ :: taken, rfl, hspells.negate⟩
      · obtain ⟨taken, rfl, hspells⟩ := ih.expression h
        exact ⟨_ :: taken, rfl, hspells.plus⟩
      · obtain ⟨⟨operand, after⟩, hoperand, hsame⟩ := bind_eq_ok_iff.mp h
        obtain ⟨taken, rfl, hspells⟩ := ih.range hoperand
        obtain ⟨more, hmore, hmarked⟩ := reads_percents hspells.unmarked (Except.ok.inj hsame)
        exact ⟨more, hmore, hmarked.unsigned⟩
  | power =>
      rw [expression] at h
      obtain ⟨⟨left, after⟩, hleft, hrest⟩ := bind_eq_ok_iff.mp h
      obtain ⟨taken, rfl, hspells⟩ := ih.expression hleft
      dsimp only at hrest
      split at hrest
      · obtain ⟨⟨right, final⟩, hright, hsame⟩ := bind_eq_ok_iff.mp hrest
        cases hsame
        obtain ⟨more, rfl, hmore⟩ := ih.expression hright
        exact ⟨taken ++ _ :: more, by simp, hspells.power hmore⟩
      · cases hrest
        exact ⟨taken, rfl, .looser (by decide) hspells⟩
  | comparison => exact hleft .comparison (by decide) h
  | concatenation => exact hleft .concatenation (by decide) h
  | additive => exact hleft .additive (by decide) h
  | multiplicative => exact hleft .multiplicative (by decide) h

/-- With one more unit of room, operations read on from an operand are spelled by the tokens of
both. -/
theorem reads_operations {level : Level} {left tree : Expr} {before tokens rest : List Token}
    (hleft : Spells (.tree level left) before)
    (h : operations (room + 1) level left tokens = .ok (tree, rest)) :
    Reads (.tree level tree) (before ++ tokens) rest := by
  rw [operations] at h
  split at h
  · cases h
    exact ⟨before, rfl, hleft⟩
  · rename_i operator more hoperator
    obtain ⟨sign, hsign, rfl⟩ := take_operator_eq_some_iff.mp hoperator
    obtain ⟨⟨right, after⟩, hright, hrest⟩ := bind_eq_ok_iff.mp h
    obtain ⟨taken, rfl, hspells⟩ := ih.expression hright
    obtain ⟨final, hfinal, htree⟩ := ih.operations (.operation hsign hleft hspells) hrest
    exact ⟨final, by rw [← hfinal]; simp, htree⟩

/-- With one more unit of room, a range is spelled by the tokens taken for it. -/
theorem reads_range {tokens rest : List Token} {tree : Expr}
    (h : range (room + 1) tokens = .ok (tree, rest)) : Reads (.span tree) tokens rest := by
  rw [range] at h
  obtain ⟨⟨left, after⟩, hleft, hrest⟩ := bind_eq_ok_iff.mp h
  obtain ⟨taken, rfl, hspells⟩ := ih.primary hleft
  dsimp only at hrest
  split at hrest
  · obtain ⟨⟨right, final⟩, hright, hjoin⟩ := bind_eq_ok_iff.mp hrest
    obtain ⟨more, rfl, hmore⟩ := ih.primary hright
    obtain ⟨joined, hjoined, hsame⟩ := bind_eq_ok_iff.mp hjoin
    cases hsame
    obtain ⟨leftSheet, left, rightSheet, right, rfl, rfl, hsheets, rfl⟩ := join_range_eq_ok hjoined
    exact ⟨taken ++ _ :: more, by simp, .range hsheets hspells hmore⟩
  · cases hrest
    exact ⟨taken, rfl, hspells.single⟩

/-- With one more unit of room, further arguments are spelled by the tokens up
to the parenthesis. -/
theorem reads_more_arguments {tokens rest : List Token} {trees : List Expr}
    (h : moreArguments (room + 1) tokens = .ok (trees, rest)) :
    Reads (.list trees) tokens (.symbol .rightParen :: rest) := by
  rw [moreArguments] at h
  obtain ⟨⟨operand, after⟩, hoperand, hrest⟩ := bind_eq_ok_iff.mp h
  obtain ⟨taken, rfl, hspells⟩ := ih.expression hoperand
  dsimp only at hrest
  split at hrest
  · obtain ⟨⟨operands, final⟩, hoperands, hsame⟩ := bind_eq_ok_iff.mp hrest
    cases hsame
    obtain ⟨more, rfl, hmore⟩ := ih.operands hoperands
    exact ⟨taken ++ _ :: more, by simp, hspells.item hmore⟩
  · obtain ⟨final, hfinal, hsame⟩ := bind_eq_ok_iff.mp hrest
    cases hsame
    obtain rfl := expect_eq_ok_iff.mp hfinal
    exact ⟨taken, rfl, hspells.lastItem⟩

/-- With one more unit of room, the rows of an array are spelled by the tokens up to the brace. -/
theorem reads_array_rows {tokens rest : List Token} {rows : List (List Expr)}
    (h : arrayRows (room + 1) tokens = .ok (rows, rest)) :
    Reads (.rows rows) tokens (.symbol .rightBrace :: rest) := by
  rw [arrayRows] at h
  obtain ⟨⟨item, after⟩, hitem, hrest⟩ := bind_eq_ok_iff.mp h
  obtain ⟨taken, rfl, hspells⟩ := ih.expression hitem
  dsimp only at hrest
  split at hrest
  · obtain ⟨⟨rows, final⟩, hrows, hsame⟩ := bind_eq_ok_iff.mp hrest
    cases hsame
    obtain ⟨more, rfl, hmore⟩ := ih.rows hrows
    exact ⟨taken ++ _ :: more, by simp, hspells.cons_item hmore⟩
  · obtain ⟨⟨rows, final⟩, hrows, hsame⟩ := bind_eq_ok_iff.mp hrest
    cases hsame
    obtain ⟨more, rfl, hmore⟩ := ih.rows hrows
    exact ⟨taken ++ _ :: more, by simp, .row hspells.lastItem hmore⟩
  · cases hrest
    exact ⟨taken, rfl, hspells.lastItem.lastRow⟩
  · cases hrest

/-- A call is read from the name of its function on. -/
theorem reads_call (word : String) {inside rest : List Token} {trees : List Expr}
    (h : arguments room inside = .ok (trees, rest)) :
    Reads (.primary (.call (Text.upper word) trees))
      (.identifier word :: .symbol .leftParen :: inside) rest := by
  rcases ih.arguments h with ⟨rfl, rfl⟩ | ⟨taken, rfl, hspells⟩
  · exact ⟨[_, _, _], rfl, .emptyCall word⟩
  · exact ⟨_ :: _ :: (taken ++ [_]), by simp, .call word hspells⟩

/-- With one more unit of room, a primary expression is spelled by the tokens taken for it. -/
theorem reads_primary {tokens rest : List Token} {tree : Expr}
    (h : primary (room + 1) tokens = .ok (tree, rest)) : Reads (.primary tree) tokens rest := by
  cases tokens with
  | nil => cases h
  | cons token after =>
      unfold primary at h
      split at h
      · cases h
        exact ⟨[_], rfl, .number _⟩
      · cases h
        exact ⟨[_], rfl, .text _⟩
      · cases h
        exact ⟨[_], rfl, .logical _⟩
      · cases h
        exact ⟨[_], rfl, .error _⟩
      · cases h
        exact ⟨[_], rfl, .cell _⟩
      · exact reads_reference h
      · -- a word calls a function if a parenthesis follows
        split at h
        · obtain ⟨⟨operands, final⟩, hoperands, hsame⟩ := bind_eq_ok_iff.mp h
          cases hsame
          exact reads_call ih _ hoperands
        · cases h
          exact ⟨[_], rfl, .name _⟩
      · -- parentheses leave no trace in the tree
        obtain ⟨⟨inside, final⟩, hinside, hrest⟩ := bind_eq_ok_iff.mp h
        obtain ⟨last, hlast, hsame⟩ := bind_eq_ok_iff.mp hrest
        cases hsame
        obtain ⟨taken, rfl, hspells⟩ := ih.expression hinside
        obtain rfl := expect_eq_ok_iff.mp hlast
        exact ⟨_ :: (taken ++ [_]), by simp, hspells.group⟩
      · split at h
        · cases h
        · obtain ⟨⟨rows, final⟩, hrows, hrest⟩ := bind_eq_ok_iff.mp h
          obtain ⟨array, harray, hsame⟩ := bind_eq_ok_iff.mp hrest
          cases hsame
          obtain ⟨taken, rfl, hspells⟩ := ih.rows hrows
          obtain ⟨hwidth, rfl⟩ := array_of_rows_eq_ok_iff.mp harray
          exact ⟨_ :: (taken ++ [_]), by simp, hspells.array hwidth⟩
      · cases h

/-- With one more unit of room, arguments are none at all, or spelled by the tokens up
to the parenthesis. -/
theorem reads_arguments {tokens rest : List Token} {trees : List Expr}
    (h : arguments (room + 1) tokens = .ok (trees, rest)) :
    (trees = [] ∧ tokens = .symbol .rightParen :: rest) ∨
      Reads (.list trees) tokens (.symbol .rightParen :: rest) := by
  unfold arguments at h
  split at h
  · cases h
    exact .inl ⟨rfl, rfl⟩
  · exact .inr (ih.operands h)

end Steps

/-- The parser takes off what it reads, however much room it has. -/
theorem sound (room : Nat) : Sound room := by
  induction room with
  | zero =>
      refine ⟨?_, ?_, ?_, ?_, ?_, ?_, ?_⟩ <;> intros <;> simp_all [expression, operations, range,
        primary, arguments, moreArguments, arrayRows]
  | succ room ih =>
      exact ⟨reads_expression ih, reads_operations ih, reads_range ih, reads_primary ih,
        reads_arguments ih, reads_more_arguments ih, reads_array_rows ih⟩

/-- The tokens of a formula that can be read spell the expression it is read as. -/
theorem spells_of_parse {tokens : List Token} {tree : Expr} (h : parseTokens tokens = .ok tree) :
    Spells (.tree .comparison tree) tokens := by
  unfold parseTokens at h
  split at h
  · cases h
  · obtain ⟨⟨found, rest⟩, hfound, hrest⟩ := bind_eq_ok_iff.mp h
    obtain ⟨taken, rfl, hspells⟩ := (sound _).expression hfound
    dsimp only at hrest
    split at hrest
    · cases hrest
      rwa [List.append_nil]
    · cases hrest

end Spreadsheet.Formula
