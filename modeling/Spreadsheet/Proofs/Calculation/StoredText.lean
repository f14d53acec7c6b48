import Spreadsheet.Proofs.Calculation.Registration
import Spreadsheet.Proofs.Formula.Tokens

/-!
# Formulas as cells keep them

A cell keeps the text of a formula with an equals sign before it, and adds the sign if the text does
not begin with one. Reading a formula skips the blanks before its equals sign, but keeping it does
not, so that a text with blanks before its own equals sign is kept with two. The main theorem,
`stored_meaning_iff`, says that these texts alone lose their meaning when they are stored.
-/

namespace Spreadsheet

/-- Whether blanks stand before the equals sign of a text. -/
def HidesEquals (text : String) : Prop :=
  text.toList.head? ≠ some '=' ∧ (Text.trimStart text.toList).head? = some '='

instance (text : String) : Decidable (HidesEquals text) := inferInstanceAs (Decidable (_ ∧ _))

/-! ## What a cell keeps -/

/-- The text with an equals sign before it. -/
def Cell.sourceOf (text : String) : String :=
  if text.toList.head? = some '=' then text else String.ofList ('=' :: text.toList)

/-- A cell that is made of the text of a formula keeps that text with an equals sign and has no
result. -/
theorem Cell.of_formula_eq (text : String) :
    Cell.ofFormula text = .formula (sourceOf text) none := by
  unfold ofFormula sourceOf
  split
  · rename_i rest heq
    rw [heq, List.head?_cons, if_pos rfl]
  · rename_i hnot
    rw [if_neg]
    intro hhead
    obtain ⟨rest, hrest⟩ := List.head?_eq_some_iff.mp hhead
    exact hnot rest hrest

/-- A cell that is written holds what was written. -/
theorem Worksheet.exists_write (sheet : Worksheet) {position : Position} (content : Cell)
    (hgrid : position.InGrid) (hcontent : content.isEmpty = false) :
    ∃ written, sheet.write position content = .ok written ∧ written.cell position = content := by
  refine ⟨sheet.insert position content ⟨hgrid, hcontent⟩, ?_, by simp [cell, insert]⟩
  unfold write
  split
  · rename_i refusal hcheck
    rw [Position.check_eq_ok_iff.mpr hgrid] at hcheck
    cases hcheck
  · rw [dif_neg (by simp [hcontent])]

/-! ## Reading what a cell keeps -/

namespace Formula

variable {text : String} {chars : List Char} {found : List Token}

/-- An equals sign that opens a text is a token of its own, and leaves the tokens behind it as they
are. -/
theorem tokenized_equals_iff : Tokenized ('=' :: chars) found ↔
    ∃ others, Tokenized chars others ∧ found = .symbol .equal :: others := by
  have hstart : Text.trimStart ('=' :: chars) = '=' :: chars := Text.trim_start_cons (by decide) _
  have htoken : ∀ total, takeToken total '=' chars = .ok (.symbol .equal, chars) := fun _ => rfl
  constructor
  · rintro (hblank | ⟨hfirst, hfound, hafter⟩)
    · rw [hstart] at hblank
      cases hblank
    · obtain ⟨rfl, rfl⟩ := List.cons.inj (hstart.symm.trans hfirst)
      rw [htoken] at hfound
      cases hfound
      exact ⟨_, hafter, rfl⟩
  · rintro ⟨others, hothers, rfl⟩
    exact .cons_of_not_blank (by decide) (htoken 0) hothers

/-- What is kept of a text that hides no equals sign is split as the text is. -/
theorem tokens_source_of (h : ¬HidesEquals text) :
    tokens (Cell.sourceOf text) = .ok found ↔ tokens text = .ok found := by
  unfold Cell.sourceOf
  split
  · rfl
  · rename_i hhead
    have hbody := body_eq_trim fun hstart => h ⟨hhead, hstart⟩
    -- the blanks before the text are left in what is kept, where splitting skips them
    rw [tokens_eq_ok_iff, tokens_eq_ok_iff, body_equals, hbody, ← Text.trim_start_trim_end,
      tokenized_trim_start_iff]

/-- What is kept of a text that hides an equals sign has one more token, the sign that is added. -/
theorem tokens_source_of_hides (h : HidesEquals text) :
    tokens (Cell.sourceOf text) = .ok found ↔
      ∃ others, tokens text = .ok others ∧ found = .symbol .equal :: others := by
  obtain ⟨rest, hrest⟩ := List.head?_eq_some_iff.mp h.2
  have htrim := Text.trim_chars_cons hrest
  have hbody : body text = Text.trimEnd rest := by
    rw [body, htrim]
    rfl
  unfold Cell.sourceOf
  rw [if_neg h.1, tokens_eq_ok_iff, body_equals, ← tokenized_trim_start_iff,
    Text.trim_start_trim_end, htrim, tokenized_equals_iff]
  simp only [tokens_eq_ok_iff, hbody]

/-- No expression begins with an equals sign. -/
theorem parse_equals (found : List Token) :
    parseTokens (.symbol .equal :: found) = .error (.unexpectedToken (.symbol .equal)) := by
  rfl

/-- What is kept of a text that hides no equals sign is the expression that the text is. -/
theorem parse_source_of (h : ¬HidesEquals text) {tree : Expr} :
    parse (Cell.sourceOf text) = .ok tree ↔ parse text = .ok tree := by
  simp only [parse, bind_eq_ok_iff, tokens_source_of h]

/-- What is kept of a text that hides an equals sign is no expression. -/
theorem parse_source_of_hides (h : HidesEquals text) (tree : Expr) :
    parse (Cell.sourceOf text) ≠ .ok tree := by
  intro hparse
  obtain ⟨found, hfound, htree⟩ := bind_eq_ok_iff.mp hparse
  obtain ⟨others, -, rfl⟩ := (tokens_source_of_hides h).mp hfound
  rw [parse_equals] at htree
  cases htree

end Formula

/-! ## Calculating what a cell keeps -/

namespace Calculation

open Formula (Expr tokens parse parseTokens tokens_source_of tokens_source_of_hides parse_source_of
  parse_source_of_hides)
open Dependency (FormulaCell)

/-- The tokens of a formula can be used exactly if it has tokens and they can be parsed. -/
theorem tokens_of_expr_eq_ok_iff {formula : String} {found : List Formula.Token} :
    Pass.tokensOfExpr formula = .ok found ↔
      tokens formula = .ok found ∧ ∃ tree, parseTokens found = .ok tree := by
  unfold Pass.tokensOfExpr
  rw [bind_eq_ok_iff]
  constructor
  · rintro ⟨other, hother, h⟩
    obtain ⟨_, hread, h⟩ := bind_eq_ok_iff.mp h
    cases h
    obtain ⟨tree, htree, -⟩ := except_map_eq_ok_iff.mp hread
    exact ⟨hother, tree, htree⟩
  · rintro ⟨hfound, tree, htree⟩
    refine ⟨found, hfound, ?_⟩
    rw [htree]
    rfl

/-- A formula that is registered is an expression, and its tokens are read as this expression. -/
theorem Entry.parse_of_readable {entry : Entry} {cell : FormulaCell}
    (h : entry.readable = some cell) :
    ∃ tree, parse entry.source = .ok tree ∧ parseTokens cell.tokens = .ok tree := by
  obtain ⟨found, hfound, hcell⟩ := Option.bind_eq_some_iff.mp h
  obtain ⟨htokens, tree, htree⟩ := tokens_of_expr_eq_ok_iff.mp (to_option_eq_some_iff.mp hfound)
  have hsame : cell.tokens = found := by
    unfold FormulaCell.of at hcell
    cases hpack : CellId.pack entry.sheet entry.position with
    | error refusal => simp [hpack, Except.toOption] at hcell
    | ok id =>
        rw [hpack] at hcell
        cases hcell
        rfl
  exact ⟨tree, bind_eq_ok_iff.mpr ⟨found, htokens, htree⟩, hsame ▸ htree⟩

/-- An expression at a cell of the grid is registered. -/
theorem exists_readable {index : Nat} {position : Position} {source : String} {tree : Expr}
    (hindex : index < CellId.sheetLimit) (hgrid : position.InGrid) (h : parse source = .ok tree) :
    ∃ cell, Entry.readable ⟨index, position, source⟩ = some cell ∧
      parseTokens cell.tokens = .ok tree := by
  obtain ⟨found, htokens, htree⟩ := bind_eq_ok_iff.mp h
  obtain ⟨cell, hcell, -, rfl⟩ := exists_formula_cell hindex hgrid found
  refine ⟨cell, ?_, htree⟩
  refine Option.bind_eq_some_iff.mpr ⟨cell.tokens, ?_, to_option_eq_some_iff.mpr hcell⟩
  exact to_option_eq_some_iff.mpr (tokens_of_expr_eq_ok_iff.mpr ⟨htokens, tree, htree⟩)

/-- Calculation evaluates the expression that the tokens of a cell are. -/
theorem evaluate_in_eq {cell : FormulaCell} {index : Nat} {position : Position} {tree : Expr}
    (hat : cell.IsAt index position) (htree : parseTokens cell.tokens = .ok tree)
    (setting : Setting) (book : Workbook) (draw : Nat) :
    Pass.evaluateIn setting book draw cell =
      Evaluation.evaluate (.ofCell book index position setting.moment) tree
        (setting.seed.child draw) := by
  unfold Pass.evaluateIn
  rw [htree, hat.1, hat.2]
  rfl

/-- Formulas are stored without a change of meaning, unless blanks stand before the equals sign of a
text that can be read. What a cell keeps is split into the tokens of the text, is the expression
that the text is, and is calculated as this expression. -/
theorem stored_meaning_iff (sheet : Worksheet) {position : Position} (hgrid : position.InGrid)
    (text : String) :
    ∃ written source, sheet.write position (.ofFormula text) = .ok written ∧
      written.formulaAt position = some source ∧
      ((tokens source).toOption = (tokens text).toOption ↔
        ¬(HidesEquals text ∧ (tokens text).toOption.isSome = true)) ∧
      ((parse source).toOption = (parse text).toOption ↔
        ¬(HidesEquals text ∧ (parse text).toOption.isSome = true)) ∧
      ∀ (tree : Expr) (index : Nat), parse text = .ok tree → index < CellId.sheetLimit →
        ((∃ cell, Entry.readable ⟨index, position, source⟩ = some cell ∧
            ∀ (setting : Setting) (book : Workbook) (draw : Nat),
              Pass.evaluateIn setting book draw cell =
                Evaluation.evaluate (.ofCell book index position setting.moment) tree
                  (setting.seed.child draw)) ↔
          ¬HidesEquals text) := by
  have hformula := Cell.of_formula_eq text
  obtain ⟨written, hwrite, hcell⟩ := sheet.exists_write (.ofFormula text) hgrid
    (by rw [hformula]; rfl)
  refine ⟨written, Cell.sourceOf text, hwrite, ?_, ?_, ?_, fun tree index htree hindex => ?_⟩
  · rw [Worksheet.formulaAt, hcell, hformula]
    rfl
  · refine to_option_eq_iff_not (fun h found => tokens_source_of h) fun h found hfound => ?_
    obtain ⟨others, hothers, rfl⟩ := (tokens_source_of_hides h).mp hfound
    rw [hothers]
    refine ⟨fun hsame => ?_, rfl⟩
    exact absurd (congrArg List.length (Except.ok.inj hsame)) (by simp)
  · exact to_option_eq_iff_not (fun h tree => parse_source_of h) fun h tree htree =>
      absurd htree (parse_source_of_hides h tree)
  · constructor
    · rintro ⟨cell, hcell, -⟩ h
      obtain ⟨other, hother, -⟩ := Entry.parse_of_readable hcell
      exact parse_source_of_hides h other hother
    · intro h
      obtain ⟨cell, hcell, hcelltree⟩ :=
        exists_readable hindex hgrid ((parse_source_of h).mpr htree)
      exact ⟨cell, hcell, evaluate_in_eq (Entry.is_at_of_readable hcell) hcelltree⟩

/-- Blanks before a text without an equals sign do not count. -/
theorem stored_meaning_iff_of_blank_first :
    ∃ written source, (Worksheet.blank "Sheet1").write ⟨0, 0⟩ (.ofFormula " TRUE") = .ok written ∧
      written.formulaAt ⟨0, 0⟩ = some source ∧
      (tokens source).toOption = (tokens " TRUE").toOption ∧
      ∃ cell, Entry.readable ⟨0, ⟨0, 0⟩, source⟩ = some cell ∧
        ∀ (setting : Setting) (book : Workbook) (draw : Nat),
          Pass.evaluateIn setting book draw cell =
            Evaluation.evaluate (.ofCell book 0 ⟨0, 0⟩ setting.moment) (.logical true)
              (setting.seed.child draw) := by
  have hparse : parse " TRUE" = .ok (.logical true) := by
    have htokens : tokens " TRUE" = .ok [.logical true] := by decide +kernel
    exact bind_eq_ok_iff.mpr ⟨_, htokens, rfl⟩
  have hshown : ¬HidesEquals " TRUE" := by decide
  obtain ⟨written, source, hwrite, hsource, htokens, -, hcell⟩ :=
    stored_meaning_iff (.blank "Sheet1") (by decide : Position.InGrid ⟨0, 0⟩) " TRUE"
  exact ⟨written, source, hwrite, hsource, htokens.mpr (fun h => hshown h.1),
    (hcell _ 0 hparse (by decide)).mpr hshown⟩

/-- What a cell keeps is not always split as the text is that was stored. -/
theorem equals_after_blanks_doubled :
    ¬ ∀ text source : String, Cell.ofFormula text = .formula source none →
      (tokens source).toOption = (tokens text).toOption := by
  intro h
  have hkept : Cell.ofFormula " =TRUE" = .formula "= =TRUE" none := rfl
  have htext : tokens " =TRUE" = .ok [.logical true] := by decide +kernel
  have hsource : tokens "= =TRUE" = .ok [.symbol .equal, .logical true] := by decide +kernel
  have hsame := h _ _ hkept
  rw [htext, hsource] at hsame
  cases hsame

end Calculation

end Spreadsheet
