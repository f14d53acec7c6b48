import Mathlib.Order.Filter.AtTopBot.Basic
import Spreadsheet.Proofs.Formula.Room

/-!
# The parser recognises its grammar

What tokens spell is read off them, provided that the token after them does not go on with it. The
main theorem, `parse_tokens_eq_ok_iff`, says that a formula is read as an expression exactly if its
tokens spell the expression, that they spell no other, and that reading always ends.
-/

namespace Spreadsheet.Formula

/-- How tightly a symbol goes on with what stands before it: operators by their level, then percent
marks, colons and the parenthesis of a call; nothing else goes on with it. -/
def Symbol.tightness : Symbol → Nat
  | equal | notEqual | lessThan | lessEqual | greaterThan | greaterEqual => 1
  | ampersand => 2
  | plus | minus => 3
  | star | slash => 4
  | caret => 5
  | percent => 6
  | colon => 7
  | leftParen => 8
  | comma | semicolon | rightParen | leftBrace | rightBrace => 0

/-- The least tightness that goes on with the operands of a level, and not with the level. -/
def Level.tightness : Level → Nat
  | comparison => 2
  | concatenation => 3
  | additive => 4
  | multiplicative => 5
  | power => 5
  | sign => 6

/-- Whether tokens go on less tightly than by a tightness. -/
def Stops (tightness : Nat) (tokens : List Token) : Prop :=
  ∀ sign, tokens.head? = some (.symbol sign) → sign.tightness < tightness

/-- Tokens that stop at a tightness stop at a greater one. -/
theorem Stops.mono {tightness other : Nat} {tokens : List Token} (h : Stops tightness tokens)
    (hle : tightness ≤ other) : Stops other tokens :=
  fun sign hsign => (h sign hsign).trans_le hle

/-- A symbol that binds less tightly stops. -/
theorem stops_symbol {tightness : Nat} {sign : Symbol} {tokens : List Token}
    (h : sign.tightness < tightness) : Stops tightness (.symbol sign :: tokens) := by
  intro found hfound
  cases hfound
  exact h

/-- At the end of the tokens everything stops. -/
theorem stops_nil {tightness : Nat} : Stops tightness [] :=
  nofun

/-- The operators of a level go on with it and not with its operands. -/
theorem Binds.tightness {level : Level} {sign : Symbol} {operator : BinaryOperator}
    (h : Binds level sign operator) : sign.tightness < level.tightness := by
  cases h <;> decide

/-- What leaves a level alone leaves the operators of its operands alone. -/
theorem Binds.tightness_of_next {level : Level} {sign : Symbol} {operator : BinaryOperator}
    (h : Binds level.next sign operator) : level.tightness ≤ sign.tightness := by
  generalize hnext : level.next = next at h
  cases h <;> cases level <;> cases hnext <;> decide

/-- The next level binds more tightly. -/
theorem tightness_le_next (level : Level) : level.tightness ≤ level.next.tightness := by
  cases level <;> decide

/-- No operator of a level is taken from tokens that stop at its tightness. -/
theorem take_operator_eq_none {level : Level} {tightness : Nat} {tokens : List Token}
    (hbinds : ∀ sign operator, Binds level sign operator → tightness ≤ sign.tightness)
    (h : Stops tightness tokens) : level.takeOperator tokens = none := by
  match hoperator : level.takeOperator tokens with
  | none => rfl
  | some (operator, rest) =>
      obtain ⟨sign, hsign, rfl⟩ := take_operator_eq_some_iff.mp hoperator
      exact absurd (h sign rfl) (Nat.not_lt.mpr (hbinds sign operator hsign))

/-- No percent sign is taken from tokens that stop before one. -/
theorem percents_of_stops {operand : Expr} {tokens : List Token} (h : Stops 6 tokens) :
    percents operand tokens = (operand, tokens) := by
  unfold percents
  split
  · exact absurd (h .percent rfl) (by decide)
  · rfl

/-- What holds of all large rooms, with one unit taken off, holds of all large rooms. -/
theorem eventually_of_succ {p : Nat → Prop} (h : ∀ᶠ room in Filter.atTop, p (room + 1)) :
    ∀ᶠ room in Filter.atTop, p room := by
  obtain ⟨least, hleast⟩ := Filter.eventually_atTop.mp h
  refine Filter.eventually_atTop.mpr ⟨least + 1, fun room hroom => ?_⟩
  obtain ⟨room, rfl⟩ := Nat.exists_eq_add_of_le' hroom
  exact hleast (room + least) (Nat.le_add_left _ _)

/-- Whether the parser reads a part off tokens, whatever comes after them that does not go on with
the part. An expression is read as the first operand of the operators after it. -/
def Part.Read : Part → List Token → Prop
  | .tree level operand, tokens => ∀ rest result, Stops level.tightness rest →
      (∀ᶠ room in Filter.atTop, operations room level operand rest = .ok result) →
      ∀ᶠ room in Filter.atTop, expression room level (tokens ++ rest) = .ok result
  | .marked operand, tokens => ∀ rest, Stops 7 rest → ∃ inner after,
      (∀ᶠ room in Filter.atTop, range room (tokens ++ rest) = .ok (inner, after)) ∧
      percents inner after = percents operand rest
  | .span operand, tokens => ∀ rest, Stops 7 rest →
      ∀ᶠ room in Filter.atTop, range room (tokens ++ rest) = .ok (operand, rest)
  | .primary operand, tokens => ∀ rest, Stops 8 rest →
      ∀ᶠ room in Filter.atTop, Formula.primary room (tokens ++ rest) = .ok (operand, rest)
  | .list operands, tokens =>
      (∀ rest, ∀ᶠ room in Filter.atTop,
        moreArguments room (tokens ++ .symbol .rightParen :: rest) = .ok (operands, rest)) ∧
      (∀ rest, ∀ᶠ room in Filter.atTop,
        arrayRows room (tokens ++ .symbol .rightBrace :: rest) = .ok ([operands], rest)) ∧
      ∀ others after rest, (∀ᶠ room in Filter.atTop, arrayRows room after = .ok (others, rest)) →
        ∀ᶠ room in Filter.atTop,
          arrayRows room (tokens ++ .symbol .semicolon :: after) = .ok (operands :: others, rest)
  | .rows lists, tokens => ∀ rest, ∀ᶠ room in Filter.atTop,
      arrayRows room (tokens ++ .symbol .rightBrace :: rest) = .ok (lists, rest)

/-- With room to spare, tokens that stop end the operations of a level. -/
theorem operations_of_stops {level : Level} {tightness : Nat} {operand : Expr} {rest : List Token}
    (hbinds : ∀ sign operator, Binds level sign operator → tightness ≤ sign.tightness)
    (h : Stops tightness rest) :
    ∀ᶠ room in Filter.atTop, operations room level operand rest = .ok (operand, rest) := by
  refine eventually_of_succ (.of_forall fun room => ?_)
  rw [operations, take_operator_eq_none hbinds h]

section Levels

variable {level : Level} {tree left right : Expr} {tokens first last rest : List Token}

/-- An expression is read as it stands if no operator of its level comes after it. -/
theorem Part.Read.alone {tightness : Nat} (h : (Part.tree level tree).Read tokens)
    (hbinds : ∀ sign operator, Binds level sign operator → tightness ≤ sign.tightness)
    (hle : tightness ≤ level.tightness) (hrest : Stops tightness rest) :
    ∀ᶠ room in Filter.atTop, expression room level (tokens ++ rest) = .ok (tree, rest) :=
  h rest _ (hrest.mono hle) (operations_of_stops hbinds hrest)

/-- The operand of a level is read as it stands before what leaves the level alone. -/
theorem Part.Read.operand (h : (Part.tree level.next tree).Read tokens)
    (hrest : Stops level.tightness rest) :
    ∀ᶠ room in Filter.atTop, expression room level.next (tokens ++ rest) = .ok (tree, rest) :=
  h.alone (fun _ _ => Binds.tightness_of_next) (tightness_le_next level) hrest

/-- An expression between brackets and separators is read as it stands. -/
theorem Part.Read.inside (h : (Part.tree .comparison tree).Read tokens) (sign : Symbol)
    (rest : List Token) (hsign : sign.tightness = 0) : ∀ᶠ room in Filter.atTop,
      expression room .comparison (tokens ++ .symbol sign :: rest) =
        .ok (tree, .symbol sign :: rest) := by
  have hbinds : ∀ sign operator, Binds .comparison sign operator → 1 ≤ sign.tightness := by
    intro sign operator h
    cases h <;> decide
  exact h.alone hbinds (by decide) (stops_symbol (by omega))

/-- On the levels without operators that group to the left nothing comes after an expression. -/
theorem read_of_alone (hbinds : ∀ sign operator, ¬ Binds level sign operator)
    (h : ∀ rest, Stops level.tightness rest →
      ∀ᶠ room in Filter.atTop, expression room level (tokens ++ rest) = .ok (tree, rest)) :
    (Part.tree level tree).Read tokens := by
  intro rest result hrest hresult
  have halone : ∀ᶠ room in Filter.atTop, operations room level tree rest = .ok (tree, rest) :=
    operations_of_stops (fun sign operator hsign => (hbinds sign operator hsign).elim) hrest
  obtain ⟨room, hfound, hsame⟩ := (hresult.and halone).exists
  obtain rfl := Except.ok.inj (hfound.symm.trans hsame)
  exact h rest hrest

/-- On the levels that group to the left, an expression is one of the next level with the operations
behind it. -/
theorem expression_left_succ (room : Nat) (hsign : level ≠ .sign) (hpower : level ≠ .power) :
    expression (room + 1) level tokens = expression room level.next tokens >>= fun found =>
      operations room level found.1 found.2 := by
  cases level with
  | sign => exact absurd rfl hsign
  | power => exact absurd rfl hpower
  | _ => rfl

/-- No symbol goes on with operands of the level of powers. -/
theorem power_not_binds (sign : Symbol) (operator : BinaryOperator) :
    ¬ Binds .power sign operator :=
  nofun

/-- No symbol goes on with operands of the level of signs. -/
theorem sign_not_binds (sign : Symbol) (operator : BinaryOperator) : ¬ Binds .sign sign operator :=
  nofun

/-- An expression of a tighter level is read on a looser one. -/
theorem Part.Read.looser (h : (Part.tree level.next tree).Read tokens) (hlevel : level ≠ .sign) :
    (Part.tree level tree).Read tokens := by
  by_cases hpower : level = .power
  · obtain rfl := hpower
    refine read_of_alone power_not_binds fun rest hrest => eventually_of_succ ?_
    filter_upwards [h.operand hrest] with room hoperand
    rw [expression, show Level.sign = Level.power.next from rfl, hoperand]
    dsimp only [bind, Except.bind]
    split
    · exact absurd (hrest .caret rfl) (by decide)
    · rfl
  · intro rest result hrest hresult
    refine eventually_of_succ ?_
    filter_upwards [h.operand hrest, hresult] with room hoperand hresult
    rw [expression_left_succ room hlevel hpower, hoperand]
    exact hresult

/-- An operation that groups to the left is read if its operands are. -/
theorem Part.Read.operation {sign : Symbol} {operator : BinaryOperator}
    (hsign : Binds level sign operator) (hleft : (Part.tree level left).Read first)
    (hright : (Part.tree level.next right).Read last) :
    (Part.tree level (.binary operator left right)).Read (first ++ .symbol sign :: last) := by
  intro rest result hrest hresult
  rw [List.append_assoc]
  refine hleft _ result (stops_symbol hsign.tightness) (eventually_of_succ ?_)
  filter_upwards [hright.operand hrest, hresult] with room hoperand hresult
  have htake : level.takeOperator (.symbol sign :: (last ++ rest)) =
      some (operator, last ++ rest) :=
    take_operator_eq_some_iff.mpr ⟨sign, hsign, rfl⟩
  rw [List.cons_append, operations, htake]
  show expression room level.next (last ++ rest) >>= _ = _
  rw [hoperand]
  exact hresult

/-- A power is read if its base and its exponent are. -/
theorem Part.Read.power (hleft : (Part.tree .sign left).Read first)
    (hright : (Part.tree .power right).Read last) :
    (Part.tree .power (.binary .power left right)).Read (first ++ .symbol .caret :: last) := by
  refine read_of_alone power_not_binds fun rest hrest => eventually_of_succ ?_
  have hstops : Stops 6 (.symbol .caret :: (last ++ rest)) := stops_symbol (by decide)
  have hoperand := hleft.alone (fun _ _ h => (sign_not_binds _ _ h).elim) le_rfl hstops
  have hpower := hright.alone (fun _ _ h => (power_not_binds _ _ h).elim) le_rfl hrest
  filter_upwards [hoperand, hpower] with room hoperand hpower
  rw [List.append_assoc, List.cons_append, expression, hoperand]
  show expression room .power (last ++ rest) >>= _ = _
  rw [hpower]
  rfl

/-- A negation is read if its operand is. -/
theorem Part.Read.negate (h : (Part.tree .sign tree).Read tokens) :
    (Part.tree .sign (.unary .negate tree)).Read (.symbol .minus :: tokens) := by
  refine read_of_alone sign_not_binds fun rest hrest => eventually_of_succ ?_
  filter_upwards [h.alone (fun _ _ h => (sign_not_binds _ _ h).elim) le_rfl hrest]
    with room hoperand
  rw [List.cons_append, expression, hoperand]
  rfl

/-- A plus sign is read and makes no difference. -/
theorem Part.Read.plus (h : (Part.tree .sign tree).Read tokens) :
    (Part.tree .sign tree).Read (.symbol .plus :: tokens) := by
  refine read_of_alone sign_not_binds fun rest hrest => eventually_of_succ ?_
  filter_upwards [h.alone (fun _ _ h => (sign_not_binds _ _ h).elim) le_rfl hrest]
    with room hoperand
  rw [List.cons_append, expression, hoperand]

/-- An expression without a sign is read on the level of signs. -/
theorem Part.Read.unsigned (hspells : Spells (.marked tree) tokens)
    (h : (Part.marked tree).Read tokens) : (Part.tree .sign tree).Read tokens := by
  obtain ⟨token, more, rfl, hplus, hminus, -⟩ := hspells.opens
  refine read_of_alone sign_not_binds fun rest hrest => eventually_of_succ ?_
  obtain ⟨inner, after, hinner, hpercents⟩ := h rest (hrest.mono (by decide))
  filter_upwards [hinner] with room hinner
  have hunsigned : expression (room + 1) .sign (token :: more ++ rest) =
      range room (token :: more ++ rest) >>= fun found => .ok (percents found.1 found.2) := by
    rw [List.cons_append]
    unfold expression
    split
    · rename_i hsame
      exact absurd (List.cons.inj hsame).1 hminus
    · rename_i hsame
      exact absurd (List.cons.inj hsame).1 hplus
    · rfl
  rw [hunsigned, hinner]
  show Except.ok (percents inner after) = _
  rw [hpercents, percents_of_stops hrest]

end Levels

section Operands

variable {tree : Expr} {tokens first last : List Token}

/-- A percent sign is read behind an operand that is. -/
theorem Part.Read.percent (h : (Part.marked tree).Read tokens) :
    (Part.marked (.unary .percent tree)).Read (tokens ++ [.symbol .percent]) := by
  intro rest hrest
  obtain ⟨inner, after, hinner, hpercents⟩ :=
    h (.symbol .percent :: rest) (stops_symbol (by decide))
  refine ⟨inner, after, ?_, hpercents⟩
  rwa [List.append_assoc]

/-- An expression without a percent sign is read where one may stand. -/
theorem Part.Read.unmarked (h : (Part.span tree).Read tokens) : (Part.marked tree).Read tokens :=
  fun rest hrest => ⟨tree, rest, h rest hrest, rfl⟩

/-- A range is read if its corners are and name no two different sheets. -/
theorem Part.Read.range {leftSheet rightSheet : Option String} {left right : Address}
    (hsheets : Compatible leftSheet rightSheet)
    (hleft : (Part.primary (.cell leftSheet left)).Read first)
    (hright : (Part.primary (.cell rightSheet right)).Read last) :
    (Part.span (.range (leftSheet.or rightSheet) (.ofCorners left right))).Read
      (first ++ .symbol .colon :: last) := by
  intro rest hrest
  refine eventually_of_succ ?_
  filter_upwards [hleft (.symbol .colon :: (last ++ rest)) (stops_symbol (by decide)),
    hright rest (hrest.mono (by decide))] with room hfirst hlast
  have hjoin : joinRange (.cell leftSheet left) (.cell rightSheet right) =
      .ok (.range (leftSheet.or rightSheet) (.ofCorners left right)) := by
    rw [joinRange, common_sheet_eq_ok_iff.mpr ⟨hsheets, rfl⟩]
    rfl
  rw [List.append_assoc, List.cons_append, Formula.range, hfirst]
  show Formula.primary room (last ++ rest) >>= _ = _
  rw [hlast]
  show (joinRange (.cell leftSheet left) (.cell rightSheet right) >>= _) = _
  rw [hjoin]
  rfl

/-- An expression that is no range is read where one may stand. -/
theorem Part.Read.single (h : (Part.primary tree).Read tokens) : (Part.span tree).Read tokens := by
  intro rest hrest
  refine eventually_of_succ ?_
  filter_upwards [h rest (hrest.mono (by decide))] with room hprimary
  rw [Formula.range, hprimary]
  dsimp only [bind, Except.bind]
  split
  · exact absurd (hrest .colon rfl) (by decide)
  · rfl

/-- An expression in parentheses is read if it is read without them. -/
theorem Part.Read.group (h : (Part.tree .comparison tree).Read tokens) :
    (Part.primary tree).Read (.symbol .leftParen :: (tokens ++ [.symbol .rightParen])) := by
  intro rest _
  refine eventually_of_succ ?_
  filter_upwards [h.inside .rightParen rest rfl] with room hinside
  rw [List.cons_append, List.append_assoc, Formula.primary]
  show expression room .comparison (tokens ++ .symbol .rightParen :: rest) >>= _ = _
  rw [hinside]
  rfl

/-- A call is read if its operands are. -/
theorem Part.Read.call (word : String) {operands : List Expr}
    (hspells : Spells (.list operands) tokens) (h : (Part.list operands).Read tokens) :
    (Part.primary (.call (Text.upper word) operands)).Read
      (.identifier word :: .symbol .leftParen :: (tokens ++ [.symbol .rightParen])) := by
  obtain ⟨token, more, rfl, hparen, -⟩ := hspells.opens
  intro rest _
  have harguments : ∀ᶠ room in Filter.atTop,
      arguments room (token :: more ++ .symbol .rightParen :: rest) = .ok (operands, rest) := by
    refine eventually_of_succ ?_
    filter_upwards [h.1 rest] with room hmore
    rw [List.cons_append] at hmore ⊢
    unfold arguments
    split
    · rename_i hsame
      exact absurd (List.cons.inj hsame).1 hparen
    · exact hmore
  refine eventually_of_succ ?_
  filter_upwards [harguments] with room harguments
  rw [List.cons_append, List.cons_append, List.append_assoc, Formula.primary]
  show arguments room (token :: more ++ .symbol .rightParen :: rest) >>= _ = _
  rw [harguments]
  rfl

/-- An array is read if its rows are and all have one length. -/
theorem Part.Read.array {rows : List (List Expr)} (hspells : Spells (.rows rows) tokens)
    (hwidth : ∀ row ∈ rows, ∀ other ∈ rows, row.length = other.length)
    (h : (Part.rows rows).Read tokens) :
    (Part.primary (.array rows)).Read
      (.symbol .leftBrace :: (tokens ++ [.symbol .rightBrace])) := by
  obtain ⟨token, more, rfl, -, hbrace⟩ := hspells.opens
  intro rest _
  refine eventually_of_succ ?_
  filter_upwards [h rest] with room hrows
  rw [List.cons_append, List.append_assoc]
  rw [List.cons_append] at hrows ⊢
  unfold Formula.primary
  dsimp only
  split
  · rename_i hsame
    exact absurd (List.cons.inj hsame).1 hbrace
  · rw [List.cons_append, List.nil_append, hrows]
    show arrayOfRows rows >>= _ = _
    rw [array_of_rows_eq_ok_iff.mpr ⟨hwidth, rfl⟩]
    rfl

end Operands

section Lists

variable {item : Expr} {items row : List Expr} {rows : List (List Expr)}
  {tokens first rest : List Token}

/-- The last item of a list is read if it is read on its own. -/
theorem Part.Read.last_item (h : (Part.tree .comparison item).Read tokens) :
    (Part.list [item]).Read tokens := by
  refine ⟨?_, ?_, ?_⟩
  · intro rest
    refine eventually_of_succ ?_
    filter_upwards [h.inside .rightParen rest rfl] with room hinside
    rw [moreArguments, hinside]
    rfl
  · intro rest
    refine eventually_of_succ ?_
    filter_upwards [h.inside .rightBrace rest rfl] with room hinside
    rw [arrayRows, hinside]
    rfl
  · intro others after rest hothers
    refine eventually_of_succ ?_
    filter_upwards [h.inside .semicolon after rfl, hothers]
      with room hinside hothers
    rw [arrayRows, hinside]
    show arrayRows room after >>= _ = _
    rw [hothers]
    rfl

/-- An item before others is read if it and they are. -/
theorem Part.Read.cons_item (h : (Part.tree .comparison item).Read first)
    (hrest : (Part.list items).Read rest) :
    (Part.list (item :: items)).Read (first ++ .symbol .comma :: rest) := by
  -- a comma in an array constant puts the item before the first of the rows after it
  have hcomma : ∀ others after final,
      (∀ᶠ room in Filter.atTop, arrayRows room after = .ok (others, final)) →
      ∀ᶠ room in Filter.atTop,
        arrayRows room (first ++ .symbol .comma :: after) = .ok (consItem item others, final) := by
    intro others after final hothers
    refine eventually_of_succ ?_
    filter_upwards [h.inside .comma after rfl, hothers]
      with room hinside hothers
    rw [arrayRows, hinside]
    show arrayRows room after >>= _ = _
    rw [hothers]
    rfl
  refine ⟨?_, ?_, ?_⟩
  · intro final
    rw [List.append_assoc]
    refine eventually_of_succ ?_
    filter_upwards [h.inside .comma (rest ++ .symbol .rightParen :: final) rfl,
      hrest.1 final] with room hinside hoperands
    rw [List.cons_append, moreArguments, hinside]
    show moreArguments room (rest ++ .symbol .rightParen :: final) >>= _ = _
    rw [hoperands]
    rfl
  · intro final
    rw [List.append_assoc]
    exact hcomma _ _ _ (hrest.2.1 final)
  · intro others after final hothers
    rw [List.append_assoc]
    exact hcomma _ _ _ (hrest.2.2 others after final hothers)

/-- A row before others is read if it and they are. -/
theorem Part.Read.cons_row (h : (Part.list row).Read first) (hrest : (Part.rows rows).Read rest) :
    (Part.rows (row :: rows)).Read (first ++ .symbol .semicolon :: rest) := by
  intro final
  rw [List.append_assoc]
  exact h.2.2 rows _ final (hrest final)

end Lists

/-- A word before what is no parenthesis is a name. -/
theorem read_name (word : String) : (Part.primary (.name none word)).Read [.identifier word] := by
  intro rest hrest
  refine eventually_of_succ (.of_forall fun room => ?_)
  rw [List.cons_append, List.nil_append]
  unfold primary
  dsimp only
  split
  · exact absurd (hrest .leftParen rfl) (by decide)
  · rfl

/-- A word behind the name of a sheet is read as a defined name on that sheet. -/
theorem read_sheet_name (sheet word : String) :
    (Part.primary (.name (some sheet) word)).Read [.sheet sheet, .identifier word] := by
  intro rest hrest
  refine eventually_of_succ (.of_forall fun room => ?_)
  show reference sheet (.identifier word :: rest) = _
  unfold reference
  split
  · rename_i hsame
    cases hsame
  · rename_i hsame
    cases hsame
    exact absurd (hrest .leftParen rfl) (by decide)
  · rename_i hsame
    cases hsame
    rfl
  · rename_i hnot
    exact (hnot word rest rfl).elim

/-- A token that is taken for an expression on its own is read as that expression. -/
theorem read_single (tree : Expr) (token : Token)
    (h : ∀ room rest, primary (room + 1) (token :: rest) = .ok (tree, rest)) :
    (Part.primary tree).Read [token] :=
  fun rest _ => eventually_of_succ (.of_forall fun room => h room rest)

/-- What tokens spell is read off them. -/
theorem Spells.read {part : Part} {tokens : List Token} (h : Spells part tokens) :
    part.Read tokens := by
  induction h with
  | looser hlevel _ ih => exact ih.looser hlevel
  | operation hsign _ _ ihLeft ihRight => exact ihLeft.operation hsign ihRight
  | power _ _ ihLeft ihRight => exact ihLeft.power ihRight
  | negate _ ih => exact ih.negate
  | plus _ ih => exact ih.plus
  | unsigned hspells ih => exact ih.unsigned hspells
  | percent _ ih => exact ih.percent
  | unmarked _ ih => exact ih.unmarked
  | range hsheets _ _ ihLeft ihRight => exact ihLeft.range hsheets ihRight
  | single _ ih => exact ih.single
  | number | text | logical | error | cell => exact read_single _ _ fun _ _ => rfl
  | sheetCell => exact fun rest _ => eventually_of_succ (.of_forall fun room => rfl)
  | name word => exact read_name word
  | sheetName sheet word => exact read_sheet_name sheet word
  | group _ ih => exact ih.group
  | emptyCall =>
      exact fun rest _ => eventually_of_succ (eventually_of_succ (.of_forall fun room => rfl))
  | call word hspells ih => exact ih.call word hspells
  | array hwidth hspells ih => exact ih.array hspells hwidth
  | lastItem _ ih => exact ih.last_item
  | item _ _ ih ihRest => exact ih.cons_item ihRest
  | lastRow _ ih => exact ih.2.1
  | row _ _ ih ihRest => exact ih.cons_row ihRest

/-- What a formula's tokens spell is what the formula is read as. -/
theorem parse_of_spells {tokens : List Token} {tree : Expr}
    (h : Spells (.tree .comparison tree) tokens) : parseTokens tokens = .ok tree := by
  have hnil : Stops 0 [] := stops_nil
  obtain ⟨least, hleast⟩ := Filter.eventually_atTop.mp
    (h.read.alone (fun _ _ _ => Nat.zero_le _) (Nat.zero_le _) hnil)
  have hread := hleast (least + roomFor tokens) (Nat.le_add_right _ _)
  rw [List.append_nil] at hread
  -- the room that a formula is read with makes no difference from there on
  have hsame : expression (roomFor tokens) .comparison tokens =
      expression (least + roomFor tokens) .comparison tokens :=
    (expression_unhindered .comparison le_rfl (Nat.le_add_left (roomFor tokens) least)).1
  obtain ⟨token, more, rfl, -⟩ := h.opens
  show (expression (roomFor (token :: more)) .comparison (token :: more) >>= _) = _
  rw [hsame, hread]
  rfl

/-- Parsing never ends for want of room. -/
theorem parse_ends (tokens : List Token) : parseTokens tokens ≠ .error .noRoom := by
  unfold parseTokens
  split
  · show Except.error SyntaxError.emptyFormula ≠ _
    simp
  · refine ((expression_unhindered .comparison le_rfl le_rfl).bind fun found _ => ⟨rfl, ?_⟩).2
    obtain ⟨tree, rest⟩ := found
    cases rest with
    | nil =>
        show Except.ok tree ≠ _
        simp
    | cons token more =>
        show Except.error (SyntaxError.trailing token) ≠ _
        simp

/-- A formula is read as an expression exactly if its tokens spell the expression. Its tokens spell
no two expressions, and reading ends whatever the tokens are. -/
theorem parse_tokens_eq_ok_iff (tokens : List Token) :
    (∀ tree, parseTokens tokens = .ok tree ↔ Spells (.tree .comparison tree) tokens) ∧
      (∀ tree other, Spells (.tree .comparison tree) tokens →
        Spells (.tree .comparison other) tokens → tree = other) ∧
      parseTokens tokens ≠ .error .noRoom := by
  refine ⟨fun tree => ⟨spells_of_parse, parse_of_spells⟩, ?_, parse_ends tokens⟩
  intro tree other htree hother
  exact Except.ok.inj ((parse_of_spells htree).symm.trans (parse_of_spells hother))

end Spreadsheet.Formula
