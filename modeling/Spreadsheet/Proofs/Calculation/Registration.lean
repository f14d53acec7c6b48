import Spreadsheet.Proofs.Address.Keys
import Spreadsheet.Proofs.Calculation.Pass

/-!
# Registering formulas

A full pass begins by registering the formulas of all sheets. The main theorem,
`register_sheets_ends`, says that afterwards the chain holds every formula that can be read, in the
order of sheets and cells, and that the others show `#NAME?`.
-/

namespace Spreadsheet

namespace Calculation

open Dependency (Chain FormulaCell)
open Formula (FormulaError)
open Pass (tokensOfExpr)

/-- A cell of the grid is a formula cell with any tokens. -/
theorem exists_formula_cell {sheet : Nat} {position : Position} (hsheet : sheet < CellId.sheetLimit)
    (hposition : position.InGrid) (tokens : List Formula.Token) :
    ∃ cell, FormulaCell.of sheet position tokens = .ok cell ∧ cell.IsAt sheet position ∧
      cell.tokens = tokens := by
  obtain ⟨id, hpack, hat⟩ := CellId.exists_pack hsheet hposition
  exact ⟨⟨id, tokens⟩, by rw [FormulaCell.of, hpack], hat, rfl⟩

/-- A formula and where it stands. -/
structure Entry where
  sheet : Nat
  position : Position
  source : String

/-- The cell that a formula becomes in the chain, if it can be read. -/
def Entry.readable (entry : Entry) : Option FormulaCell :=
  (tokensOfExpr entry.source).toOption.bind fun tokens =>
    (FormulaCell.of entry.sheet entry.position tokens).toOption

/-- The formulas of a sheet. -/
def entriesOf (book : Workbook) (sheet : Nat) : List Entry :=
  (book.formulas sheet).map fun (position, source) => ⟨sheet, position, source⟩

/-- All formulas of a workbook, by sheet and then row by row. -/
def entries (book : Workbook) : List Entry := (List.range book.sheetCount).flatMap (entriesOf book)

/-- The formula cells of a workbook, in the order in which a full pass registers them. -/
def formulaCells (book : Workbook) : List FormulaCell := (entries book).filterMap Entry.readable

/-- Whether a formula stands in a workbook at a cell that has a key. -/
structure Entry.StandsIn (book : Workbook) (entry : Entry) : Prop where
  text : (book.content entry.sheet entry.position).formulaText = some entry.source
  sheet : entry.sheet < CellId.sheetLimit
  position : entry.position.InGrid

/-- Whether a formula stands in a workbook depends on its inputs only. -/
theorem Entry.StandsIn.congr {book other : Workbook} {entry : Entry} (h : entry.StandsIn book)
    (hinputs : book.inputs = other.inputs) : entry.StandsIn other :=
  ⟨by rw [← Workbook.formula_text_eq hinputs]; exact h.text, h.sheet, h.position⟩

/-- A formula is either unreadable or the cell at its place. -/
theorem Entry.readable_cases {book : Workbook} {entry : Entry} (h : entry.StandsIn book) :
    ((∃ refusal, tokensOfExpr entry.source = .error refusal) ∧ entry.readable = none) ∨
      ∃ tokens cell, tokensOfExpr entry.source = .ok tokens ∧
        FormulaCell.of entry.sheet entry.position tokens = .ok cell ∧ cell.tokens = tokens ∧
        cell.IsAt entry.sheet entry.position ∧ entry.readable = some cell := by
  unfold readable
  cases htokens : tokensOfExpr entry.source with
  | error refusal => exact Or.inl ⟨⟨refusal, rfl⟩, rfl⟩
  | ok tokens =>
      obtain ⟨cell, hcell, hat, hsame⟩ := exists_formula_cell h.sheet h.position tokens
      refine Or.inr ⟨tokens, cell, rfl, hcell, hsame, hat, ?_⟩
      simp [Except.toOption, hcell]

/-- What a formula becomes stands where the formula does. -/
theorem Entry.is_at_of_readable {entry : Entry} {cell : FormulaCell}
    (h : entry.readable = some cell) : cell.IsAt entry.sheet entry.position := by
  obtain ⟨tokens, -, hcell⟩ := Option.bind_eq_some_iff.mp h
  unfold FormulaCell.of at hcell
  cases hpack : CellId.pack entry.sheet entry.position with
  | error refusal => simp [hpack, Except.toOption] at hcell
  | ok id =>
      obtain rfl : (⟨id, tokens⟩ : FormulaCell) = cell := by
        simpa [hpack, Except.toOption] using hcell
      exact CellId.place_of_pack hpack

/-- What registering some formulas does to a state. -/
structure Registers (found : List Entry) (before after : State) : Prop where
  inputs : after.workbook.inputs = before.workbook.inputs
  registered : after.chain.registered.toList =
    before.chain.registered.toList ++ found.filterMap Entry.readable
  unreadable : ∀ entry ∈ found, entry.readable = none →
    after.workbook.result? entry.sheet entry.position = some (.error .name)
  others : ∀ sheet position,
    (∀ entry ∈ found, entry.readable = none → ¬ (entry.sheet = sheet ∧ entry.position = position)) →
    after.workbook.result? sheet position = before.workbook.result? sheet position

/-- Whether no two formulas stand in one cell, and none in that of a registered one. -/
structure Fresh (found : List Entry) (chain : Chain) : Prop where
  pairwise : found.Pairwise fun left right =>
    ¬ (left.sheet = right.sheet ∧ left.position = right.position)
  new : ∀ entry ∈ found, ∀ cell ∈ chain.registered.toList, ¬ cell.IsAt entry.sheet entry.position

/-- Nothing is registered if the workbook and the chain stay as they are. -/
theorem Registers.nil {state after : State} (hworkbook : after.workbook = state.workbook)
    (hchain : after.chain = state.chain) : Registers [] state after := by
  refine ⟨congrArg _ hworkbook, by simp [hchain], by simp, fun sheet position _ => ?_⟩
  rw [hworkbook]

/-- Two steps in a row register the formulas of both, if no cell is registered twice. -/
theorem Registers.append {first rest : List Entry} {before middle after : State}
    (h : Registers first before middle) (hrest : Registers rest middle after)
    (hfresh : (first ++ rest).Pairwise fun left right =>
      ¬ (left.sheet = right.sheet ∧ left.position = right.position)) :
    Registers (first ++ rest) before after := by
  refine ⟨hrest.inputs.trans h.inputs, ?_, ?_, ?_⟩
  · rw [hrest.registered, h.registered, List.filterMap_append, List.append_assoc]
  · intro entry hentry hunreadable
    rcases List.mem_append.mp hentry with hfirst | hlater
    · rw [hrest.others _ _ fun other hother _ hsame => ?_]
      · exact h.unreadable entry hfirst hunreadable
      · exact (List.pairwise_append.mp hfresh).2.2 entry hfirst other hother
          ⟨hsame.1.symm, hsame.2.symm⟩
    · exact hrest.unreadable entry hlater hunreadable
  · intro sheet position hout
    rw [hrest.others _ _ fun entry hentry => hout entry (by simp [hentry]),
      h.others _ _ fun entry hentry => hout entry (by simp [hentry])]

/-- What has been registered does not get into the way of what comes later. -/
theorem Fresh.after {first rest : List Entry} {before middle : State}
    (hfresh : Fresh (first ++ rest) before.chain)
    (h : Registers first before middle) : Fresh rest middle.chain := by
  obtain ⟨-, hrest, hacross⟩ := List.pairwise_append.mp hfresh.pairwise
  refine ⟨hrest, fun entry hentry cell hcell hat => ?_⟩
  rw [h.registered] at hcell
  -- a registered cell was there before or stands at one of the first formulas
  rcases List.mem_append.mp hcell with hold | hadded
  · exact hfresh.new entry (by simp [hentry]) cell hold hat
  · obtain ⟨other, hother, hreadable⟩ := List.mem_filterMap.mp hadded
    obtain ⟨hsheet, hposition⟩ := other.is_at_of_readable hreadable
    exact hacross other hother entry hentry
      ⟨hsheet.symm.trans hat.1, hposition.symm.trans hat.2⟩

namespace Pass

variable {setting : Setting} {state : State} {broken : State → Prop}

/-- Registering a formula puts it into the chain, or marks it if it cannot be read. -/
theorem register_ends (hrefuse : setting.supervision.refuseAfter = none) {entry : Entry}
    (hstands : entry.StandsIn state.workbook)
    (hnew : ∀ cell ∈ state.chain.registered.toList, ¬ cell.IsAt entry.sheet entry.position) :
    Ends (register setting entry.sheet entry.position entry.source) state broken fun _ after =>
      Registers [entry] state after := by
  unfold register
  rcases entry.readable_cases hstands with ⟨⟨refusal, htokens⟩, hunreadable⟩ |
    ⟨tokens, cell, htokens, hcell, -, hat, hreadable⟩
  · rw [htokens]
    refine Ends.of_count fun counted hworkbook hchain _ => ?_
    have hformula : (counted.workbook.content entry.sheet entry.position).formulaText.isSome := by
      rw [hworkbook, hstands.text]
      rfl
    refine (store_ends hrefuse hformula _).mono ?_
    rintro _ after ⟨hstores, hafterChain, -⟩
    rw [hworkbook] at hstores
    refine ⟨hstores.inputs, by simp [hafterChain, hchain, hunreadable], ?_, ?_⟩
    · simpa using fun _ => hstores.result
    · intro sheet position hout
      refine hstores.others sheet position fun hsame => ?_
      exact hout entry (by simp) hunreadable ⟨hsame.1.symm, hsame.2.symm⟩
  · rw [htokens]
    have hadd : state.chain.add cell = .ok (state.chain.size,
        { state.chain with registered := state.chain.registered.push cell }) := by
      refine Chain.add_eq_ok_iff.mpr ⟨fun other hother hid => hnew other hother ?_, rfl, rfl⟩
      rw [FormulaCell.IsAt, hid]
      exact hat
    refine Ends.of_ok hcell (Ends.of_get (Ends.of_ok hadd (ends_modify ?_)))
    refine ⟨rfl, by simp [hreadable], by simp [hreadable], fun _ _ _ => rfl⟩

/-- Registering the formulas found on a sheet ends with all of them registered, if
none was before. -/
theorem register_all_ends (hrefuse : setting.supervision.refuseAfter = none) (sheet : Nat)
    (found : List (Position × String))
    (hstand : ∀ entry ∈ found.map fun (position, source) => Entry.mk sheet position source,
      entry.StandsIn state.workbook)
    (hfresh : Fresh (found.map fun (position, source) => ⟨sheet, position, source⟩) state.chain) :
    Ends (registerAll setting sheet found) state broken fun _ after =>
      Registers (found.map fun (position, source) => ⟨sheet, position, source⟩) state after := by
  induction found generalizing state with
  | nil => exact ends_pure (.nil rfl rfl)
  | cons head rest ih =>
      obtain ⟨position, source⟩ := head
      rw [List.map_cons, ← List.singleton_append] at hstand hfresh ⊢
      refine (register_ends hrefuse (hstand ⟨sheet, position, source⟩ (by simp))
        (hfresh.new _ (by simp))).bind fun _ middle hmiddle => ?_
      refine (ih (fun entry hentry => ?_) ?_).mono fun _ after hafter =>
        hmiddle.append hafter hfresh.pairwise
      · exact (hstand entry (by simp [hentry])).congr hmiddle.inputs.symm
      · exact hfresh.after hmiddle

/-- Registering the formulas of several sheets ends with all of them registered, if
none was before. -/
theorem register_sheets_ends (hrefuse : setting.supervision.refuseAfter = none) {book : Workbook}
    (hbook : state.workbook.inputs = book.inputs) (sheets : List Nat)
    (hstand : ∀ entry ∈ sheets.flatMap (entriesOf book), entry.StandsIn book)
    (hfresh : Fresh (sheets.flatMap (entriesOf book)) state.chain) :
    Ends (registerSheets setting sheets) state broken fun _ after =>
      Registers (sheets.flatMap (entriesOf book)) state after := by
  induction sheets generalizing state with
  | nil => exact ends_pure (.nil rfl rfl)
  | cons sheet rest ih =>
      rw [List.flatMap_cons] at hstand hfresh ⊢
      have hstandNow : ∀ entry ∈ entriesOf book sheet, entry.StandsIn state.workbook :=
        fun entry hentry => (hstand entry (by simp [hentry])).congr hbook.symm
      refine Ends.of_get ?_
      rw [Workbook.formulas_eq hbook]
      refine (register_all_ends hrefuse sheet _ hstandNow ?_).bind fun _ middle hmiddle => ?_
      · refine ⟨(List.pairwise_append.mp hfresh.pairwise).1, fun entry hentry => ?_⟩
        exact hfresh.new entry (List.mem_append_left _ hentry)
      · refine (ih (hmiddle.inputs.trans hbook) (fun entry hentry => hstand entry ?_)
          (hfresh.after hmiddle)).mono fun _ after hafter =>
            hmiddle.append hafter hfresh.pairwise
        simp [hentry]

end Pass

section Entries

variable {book : Workbook}

/-- The entries of a workbook are exactly the formulas that stand in its cells. -/
theorem mem_entries_iff {entry : Entry} :
    entry ∈ entries book ↔
      (book.content entry.sheet entry.position).formulaText = some entry.source := by
  simp only [entries, entriesOf, List.mem_flatMap, List.mem_range, List.mem_map, Prod.exists]
  constructor
  · rintro ⟨sheet, -, position, source, hmem, rfl⟩
    exact Workbook.mem_formulas_iff.mp hmem
  · intro h
    exact ⟨entry.sheet, (Workbook.place_of_formula h).1, entry.position, entry.source,
      Workbook.mem_formulas_iff.mpr h, rfl⟩

/-- Every entry of a workbook stands in it. -/
theorem entries_stand (hsheets : book.sheetCount ≤ CellId.sheetLimit) {entry : Entry}
    (h : entry ∈ entries book) : entry.StandsIn book := by
  have htext := mem_entries_iff.mp h
  obtain ⟨hsheet, hposition⟩ := Workbook.place_of_formula htext
  exact ⟨htext, Nat.lt_of_lt_of_le hsheet hsheets, hposition⟩

/-- No entry of a workbook is in the empty chain. -/
theorem entries_fresh (book : Workbook) : Fresh (entries book) .empty := by
  refine ⟨?_, fun _ _ cell hcell => by simp [Chain.empty] at hcell⟩
  refine List.pairwise_flatMap.mpr ⟨fun sheet _ => ?_, ?_⟩
  · refine List.pairwise_map.mpr ((book.formulas_pairwise sheet).imp ?_)
    rintro ⟨left, source⟩ ⟨right, other⟩ hne ⟨-, hsame⟩
    exact hne hsame
  · refine List.pairwise_lt_range.imp ?_
    intro first second hlt left hleft right hright hsame
    obtain ⟨_, -, rfl⟩ := List.mem_map.mp hleft
    obtain ⟨_, -, rfl⟩ := List.mem_map.mp hright
    exact absurd hsame.1 (Nat.ne_of_lt hlt)

end Entries

end Calculation

end Spreadsheet
