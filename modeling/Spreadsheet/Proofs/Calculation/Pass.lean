import Spreadsheet.Proofs.Calculation.Store
import Spreadsheet.Proofs.Dependency.Layout
import Spreadsheet.Proofs.Evaluation.Failure

/-!
# What steps of a pass do

Every step of a pass is described by a result and a state in which it ends, `Pass.Ends`, unless a
lookup by what is no number breaks it off. The main theorem, `run_all_ends`, says that calculating
formulas in an order in which none reads a later one leaves each of them with the result that it has
in the workbook at the end, or breaks off at one that is stuck there, with those before it done.
-/

namespace Spreadsheet.Calculation

open Dependency (Chain FormulaCell)
open Formula (FormulaError)

namespace Pass

variable {α β : Type}

/-- Whether a step ends without failure, with a result and a state of a kind, or is broken off by a
lookup by what is no number, in a state of another kind. -/
def Ends (pass : Pass α) (state : State) (broken : State → Prop) (post : α → State → Prop) :
    Prop :=
  (∃ (value : α) (after : State), pass.run.run state = (.ok value, after) ∧ post value after) ∨
    ∃ after : State, pass.run.run state = (.error .indexNotNumber, after) ∧ broken after

/-- Whether a step ends in a state of a kind, also where it is broken off. -/
def Reaches (pass : Pass α) (state : State) (kind : State → Prop) : Prop :=
  Ends pass state kind fun _ => kind

/-- A step that only has a value ends where it begins. -/
theorem ends_pure {value : α} {state : State} {broken : State → Prop} {post : α → State → Prop}
    (h : post value state) : Ends (pure value) state broken post :=
  Or.inl ⟨value, state, rfl, h⟩

/-- One step after another ends as the second does after the first, or is broken off by either. -/
theorem Ends.bind {pass : Pass α} {goOn : α → Pass β} {state : State} {broken : State → Prop}
    {mid : α → State → Prop} {post : β → State → Prop} (hpass : Ends pass state broken mid)
    (hgoOn : ∀ value after, mid value after → Ends (goOn value) after broken post) :
    Ends (pass >>= goOn) state broken post := by
  unfold Ends
  rw [ExceptT.run_bind, StateT.run_bind]
  rcases hpass with ⟨value, after, hrun, hmid⟩ | ⟨after, hrun, hbroken⟩
  · rw [hrun]
    exact hgoOn value after hmid
  · rw [hrun]
    exact Or.inr ⟨after, rfl, hbroken⟩

/-- What is known of the end of a step may be weakened. -/
theorem Ends.mono {pass : Pass α} {state : State} {broken : State → Prop}
    {post weaker : α → State → Prop} (h : Ends pass state broken post)
    (hweaker : ∀ value after, post value after → weaker value after) :
    Ends pass state broken weaker := by
  refine h.imp_left ?_
  rintro ⟨value, after, hrun, hpost⟩
  exact ⟨value, after, hrun, hweaker value after hpost⟩

/-- What is known of a step that is broken off may be weakened. -/
theorem Ends.mono_broken {pass : Pass α} {state : State} {broken weaker : State → Prop}
    {post : α → State → Prop} (h : Ends pass state broken post)
    (hweaker : ∀ after, broken after → weaker after) : Ends pass state weaker post := by
  refine h.imp_right ?_
  rintro ⟨after, hrun, hbroken⟩
  exact ⟨after, hrun, hweaker after hbroken⟩

/-- What is known of the state may be weakened. -/
theorem Reaches.weaken {pass : Pass α} {state : State} {kind weaker : State → Prop}
    (h : Reaches pass state kind) (hweaker : ∀ after, kind after → weaker after) :
    Reaches pass state weaker :=
  (h.mono_broken hweaker).mono fun _ => hweaker

/-- Whether a value is used makes no difference to how a step ends. -/
theorem Ends.discard {pass : Pass α} {state : State} {broken : State → Prop}
    {post : α → State → Prop} (h : Ends pass state broken post) :
    Ends (Functor.discard pass) state broken fun _ after => ∃ value, post value after := by
  show Ends ((fun _ => PUnit.unit) <$> pass) state _ _
  rw [map_eq_pure_bind]
  exact h.bind fun value after hpost => ends_pure ⟨value, hpost⟩

section Binds

variable {state : State} {broken : State → Prop} {post : β → State → Prop}

/-- Looking at the state does not change it. -/
theorem Ends.of_get {goOn : State → Pass β} (h : Ends (goOn state) state broken post) :
    Ends (get >>= goOn) state broken post := h

/-- What follows a replacement of the state begins with the new one. -/
theorem Ends.of_set {after : State} {goOn : PUnit → Pass β}
    (h : Ends (goOn ⟨⟩) after broken post) : Ends (set after >>= goOn) state broken post := h

/-- What follows a change of the state begins with the changed one. -/
theorem Ends.of_modify {change : State → State} {goOn : PUnit → Pass β}
    (h : Ends (goOn ⟨⟩) (change state) broken post) :
    Ends (modify change >>= goOn) state broken post := h

/-- A result without failure goes on with its value. -/
theorem Ends.of_ok {result : Except FormulaError α} {value : α} (hresult : result = .ok value)
    {goOn : α → Pass β} (h : Ends (goOn value) state broken post) :
    Ends ((liftM result : Pass α) >>= goOn) state broken post := by
  subst hresult
  exact h

/-- Counting leaves workbook and chain alone. -/
theorem Ends.of_count {change : Statistics → Statistics} {goOn : PUnit → Pass β}
    (h : ∀ counted : State, counted.workbook = state.workbook → counted.chain = state.chain →
      counted.statistics = change state.statistics → Ends (goOn ⟨⟩) counted broken post) :
    Ends (count change >>= goOn) state broken post :=
  h _ rfl rfl rfl

/-- Asking whether to stop does not change the state. -/
theorem Ends.of_is_stopped {setting : Setting} {goOn : Bool → Pass β}
    (h : Ends (goOn (setting.supervision.stops state.stored)) state broken post) :
    Ends (isStopped setting >>= goOn) state broken post := h

/-- Looking up cells of the chain does not change the state. -/
theorem Ends.of_cells_at {places : List Nat} {goOn : List FormulaCell → Pass β}
    (h : Ends (goOn (places.filterMap state.chain.cell?)) state broken post) :
    Ends (cellsAt places >>= goOn) state broken post := h

/-- A change of the state ends in the changed one. -/
theorem ends_modify {change : State → State} {post : PUnit → State → Prop}
    (h : post ⟨⟩ (change state)) : Ends (modify change) state broken post :=
  Or.inl ⟨⟨⟩, change state, rfl, h⟩

end Binds

end Pass

/-- The cell that shows the outcome of an evaluation, unless the rules of the engine were broken. -/
def resultOf : Evaluation.Outcome → Option Cell
  | .ok value => some value.toCell
  | .error failure => (Pass.failureValue failure).map Cell.error

section Cells

open Pass (evaluateIn)

/-- Whether the formula of a cell leads to no volatile function. -/
def IsSteady (book : Workbook) (cell : FormulaCell) : Prop :=
  ∀ tree, Formula.parseTokens cell.tokens = .ok tree → tree.Steady book cell.id.sheet

/-- Whether the value of a cell depends on nothing but the cells that its references read, as long
as sheets, names and dates stay. -/
def ReadsCovered (book : Workbook) (cell : FormulaCell) : Prop :=
  ∀ left right : Workbook, book.SameFrame left → book.SameFrame right →
    (∀ sheet position, (cell.references book).reads sheet position = true →
      left.shown sheet position = right.shown sheet position) →
    ∀ setting draw, evaluateIn setting left draw cell = evaluateIn setting right draw cell

/-- Whether a cell stores the value of its formula in the workbook as it is. -/
def Settles (book : Workbook) (cell : FormulaCell) : Prop :=
  ∀ setting draw, ∃ result, resultOf (evaluateIn setting book draw cell) = some result ∧
    book.result? cell.id.sheet cell.id.position = some result

/-- Whether a lookup by what is no number breaks the formula of a cell off in the workbook as it
is. -/
def Stuck (book : Workbook) (cell : FormulaCell) : Prop :=
  ∀ setting draw, evaluateIn setting book draw cell = .error .indexNotNumber

/-- What a pass needs of a cell that it calculates: the cell holds a formula, and the value of this
formula is determined by the cells that were scanned. -/
structure Calculable (book : Workbook) (cell : FormulaCell) : Prop where
  isFormula : (book.content cell.id.sheet cell.id.position).formulaText.isSome
  steady : IsSteady book cell
  covered : ReadsCovered book cell

variable {book other : Workbook} {cell : FormulaCell}

/-- A formula stays steady in every workbook with the same frame. -/
theorem IsSteady.congr (h : IsSteady book cell) (hframe : book.SameFrame other) :
    IsSteady other cell := by
  intro tree htree name hname
  refine h tree htree name ?_
  rwa [hframe.leads_to]

/-- What a formula reads stays covered in every workbook with the same frame. -/
theorem ReadsCovered.congr (h : ReadsCovered book cell) (hframe : book.SameFrame other) :
    ReadsCovered other cell := by
  intro left right hleft hright hshown
  refine h left right (hframe.trans hleft) (hframe.trans hright) ?_
  rwa [FormulaCell.references, hframe.references]

/-- Whether a formula can be calculated depends on the inputs of the workbook only. -/
theorem Calculable.congr (h : Calculable book cell) (hinputs : book.inputs = other.inputs) :
    Calculable other cell := by
  have hframe := Workbook.same_frame_of_inputs hinputs
  refine ⟨?_, h.steady.congr hframe, h.covered.congr hframe⟩
  rw [← Workbook.formula_text_eq hinputs]
  exact h.isFormula

/-- The value of a calculated cell does not depend on the setting. -/
theorem Calculable.evaluate_in_eq (h : Calculable book cell) (setting otherSetting : Setting)
    (draw otherDraw : Nat) :
    evaluateIn setting book draw cell = evaluateIn otherSetting book otherDraw cell := by
  unfold evaluateIn
  refine bind_congr_of_ok fun tree htree => ?_
  have hsteady := h.steady tree (map_error_eq_ok_iff.mp htree)
  exact Evaluation.evaluate_congr ⟨rfl, rfl, rfl⟩ (fun _ _ _ _ _ => rfl) _ _ _ _ (.inl hsteady)

/-- A calculated cell has one value in workbooks that show the same at the cells that it reads,
whatever the setting. -/
theorem Calculable.evaluate_in_congr (h : Calculable book cell)
    (hinputs : book.inputs = other.inputs)
    (hshown : ∀ sheet position, (cell.references book).reads sheet position = true →
      book.shown sheet position = other.shown sheet position)
    (setting otherSetting : Setting) (draw otherDraw : Nat) :
    evaluateIn setting book draw cell = evaluateIn otherSetting other otherDraw cell := by
  have hframe := Workbook.same_frame_of_inputs hinputs
  calc
    evaluateIn setting book draw cell = evaluateIn setting other draw cell :=
      h.covered book other ⟨rfl, rfl, rfl⟩ hframe hshown setting draw
    _ = evaluateIn otherSetting other otherDraw cell :=
      (h.congr hinputs).evaluate_in_eq setting otherSetting draw otherDraw

/-- A calculated cell has a result, unless a lookup breaks its formula off whatever the setting. -/
theorem Calculable.exists_result_or_stuck (h : Calculable book cell) (setting : Setting)
    (draw : Nat) :
    (∃ result, resultOf (evaluateIn setting book draw cell) = some result) ∨ Stuck book cell := by
  cases houtcome : evaluateIn setting book draw cell with
  | ok value => exact Or.inl ⟨_, rfl⟩
  | error failure =>
      cases hparse : Formula.parseTokens cell.tokens with
      | error refusal =>
          obtain rfl : FormulaError.invalid refusal = failure := by
            simpa [evaluateIn, hparse, Except.mapError, bind, Except.bind] using houtcome
          exact Or.inl ⟨_, rfl⟩
      | ok tree =>
          have htame := Evaluation.evaluate_steady (h.steady tree hparse) cell.id.position
            setting.moment (setting.seed.child draw)
          rcases htame failure (by
            simpa [evaluateIn, hparse, Except.mapError, bind, Except.bind] using houtcome) with
            ⟨name, rfl⟩ | rfl
          · exact Or.inl ⟨_, rfl⟩
          · exact Or.inr fun other otherDraw =>
              (h.evaluate_in_eq other setting otherDraw draw).trans houtcome

/-- A stuck cell stores no value that it could have. -/
theorem Stuck.not_settles (h : Stuck book cell) (setting : Setting) : ¬ Settles book cell := by
  intro hsettles
  obtain ⟨result, hresult, -⟩ := hsettles setting 0
  rw [h setting 0] at hresult
  cases hresult

/-- A cell that is stuck stays so while it reads the same. -/
theorem Calculable.stuck_congr (h : Calculable book cell) (hinputs : book.inputs = other.inputs)
    (hshown : ∀ sheet position, (cell.references book).reads sheet position = true →
      book.shown sheet position = other.shown sheet position)
    (hstuck : Stuck book cell) : Stuck other cell := by
  intro setting draw
  rw [← h.evaluate_in_congr hinputs hshown setting setting draw draw]
  exact hstuck setting draw

end Cells

/-- What calculating or refusing some cells does to a state: it changes results of these cells and
nothing else that later steps look at. -/
structure Touches (cells : List FormulaCell) (before after : State) : Prop where
  inputs : after.workbook.inputs = before.workbook.inputs
  chain : after.chain = before.chain
  others : ∀ sheet position, (∀ cell ∈ cells, ¬ cell.IsAt sheet position) →
    after.workbook.result? sheet position = before.workbook.result? sheet position

namespace Touches

variable {cells more : List FormulaCell} {before middle after : State}

/-- A state with the same workbook and the same chain is touched nowhere. -/
theorem of_eq (hworkbook : after.workbook = before.workbook) (hchain : after.chain = before.chain) :
    Touches cells before after :=
  ⟨congrArg Workbook.inputs hworkbook, hchain, fun sheet position _ => by rw [hworkbook]⟩

/-- What touches few cells only touches no more than a longer list of them. -/
theorem mono (h : Touches cells before after) (hmore : ∀ cell ∈ cells, cell ∈ more) :
    Touches more before after :=
  ⟨h.inputs, h.chain, fun sheet position hout =>
    h.others sheet position fun cell hcell => hout cell (hmore cell hcell)⟩

/-- Two steps in a row that touch the same cells only touch those cells only. -/
theorem trans (h : Touches cells before middle) (hafter : Touches cells middle after) :
    Touches cells before after :=
  ⟨hafter.inputs.trans h.inputs, hafter.chain.trans h.chain, fun sheet position hout =>
    (hafter.others sheet position hout).trans (h.others sheet position hout)⟩

/-- Storing the result of a formula touches that formula only. -/
theorem of_stores {cell : FormulaCell} {result : Cell}
    (h : Stores cell.id.sheet cell.id.position result before.workbook after.workbook)
    (hchain : after.chain = before.chain) : Touches [cell] before after := by
  refine ⟨h.inputs, hchain, fun sheet position hout => h.others sheet position ?_⟩
  rintro ⟨rfl, rfl⟩
  exact hout cell (by simp) ⟨rfl, rfl⟩

/-- A formula that can be calculated still can after other results are stored. -/
theorem calculable (h : Touches cells before after) {cell : FormulaCell}
    (hcell : Calculable before.workbook cell) : Calculable after.workbook cell :=
  hcell.congr h.inputs.symm

/-- A cell keeps its value while cells are touched that it does not read. -/
theorem shown (h : Touches cells before after) {cell : FormulaCell}
    (hreads : ∀ other ∈ cells, (cell.references before.workbook).reads other.id.sheet
      other.id.position = false) :
    ∀ sheet position, (cell.references before.workbook).reads sheet position = true →
      before.workbook.shown sheet position = after.workbook.shown sheet position := by
  intro sheet position hread
  refine Workbook.shown_eq_of_result_eq h.inputs.symm (h.others sheet position ?_).symm
  rintro other hother ⟨rfl, rfl⟩
  simp [hreads other hother] at hread

/-- A cell that stores its value goes on doing so while cells are touched that it neither reads nor
is. -/
theorem settles (h : Touches cells before after) {cell : FormulaCell}
    (hcell : Calculable before.workbook cell) (hsettles : Settles before.workbook cell)
    (hreads : ∀ other ∈ cells, (cell.references before.workbook).reads other.id.sheet
      other.id.position = false)
    (hothers : ∀ other ∈ cells, other.id ≠ cell.id) : Settles after.workbook cell := by
  intro setting draw
  obtain ⟨result, hvalue, hresult⟩ := hsettles setting draw
  refine ⟨result, ?_, ?_⟩
  · rwa [← hcell.evaluate_in_congr h.inputs.symm (h.shown hreads) setting setting draw draw]
  · rw [h.others _ _ ?_, hresult]
    rintro other hother ⟨hsheet, hposition⟩
    exact hothers other hother (CellId.eq_of_place_eq hsheet hposition)

end Touches

namespace Pass

variable {setting : Setting} {state : State} {broken : State → Prop}

/-- Storing the result of a formula succeeds where nobody refuses it. -/
theorem store_ends (hrefuse : setting.supervision.refuseAfter = none) {sheet : Nat}
    {position : Position} (hformula : (state.workbook.content sheet position).formulaText.isSome)
    (result : Cell) :
    Ends (store setting sheet position result) state broken fun _ after =>
      Stores sheet position result state.workbook after.workbook ∧ after.chain = state.chain ∧
        after.statistics = state.statistics := by
  obtain ⟨source, hsource⟩ := Option.isSome_iff_exists.mp hformula
  obtain ⟨written, hwritten, hstores⟩ := store_in_spec hsource result
  have hgoes : setting.supervision.refuses state.stored = false := by
    simp [Supervision.refuses, hrefuse]
  refine Ends.of_get ?_
  rw [if_neg (by simp [hgoes])]
  exact Ends.of_ok hwritten (.inl ⟨⟨⟩, _, rfl, hstores, rfl, rfl⟩)

/-- Evaluating a cell gives its result, or is broken off where the cell is stuck. -/
theorem evaluate_ends {cell : FormulaCell} (hcell : Calculable state.workbook cell) :
    Ends (evaluate setting cell) state
      (fun after => Touches [] state after ∧ Stuck after.workbook cell) fun result after =>
        resultOf (evaluateIn setting state.workbook state.evaluated cell) = some result ∧
          after.workbook = state.workbook ∧ after.chain = state.chain ∧
          after.statistics.completed = state.statistics.completed := by
  refine Ends.of_get (Ends.of_set ?_)
  rcases hcell.exists_result_or_stuck setting state.evaluated with ⟨result, hresult⟩ | hstuck
  · cases houtcome : evaluateIn setting state.workbook state.evaluated cell with
    | ok value => exact ends_pure ⟨rfl, rfl, rfl, rfl⟩
    | error failure =>
        rw [houtcome] at hresult
        obtain ⟨fault, hfault, rfl⟩ := Option.map_eq_some_iff.mp hresult
        simp only [hfault]
        exact Ends.of_modify (ends_pure ⟨hresult, rfl, rfl, rfl⟩)
  · rw [hstuck setting state.evaluated]
    exact Or.inr ⟨_, rfl, .of_eq rfl rfl, hstuck⟩

/-- Calculating a cell stores the value that its formula has in the workbook before. -/
theorem run_cell_ends (hrefuse : setting.supervision.refuseAfter = none) {cell : FormulaCell}
    (hcell : Calculable state.workbook cell) :
    Ends (runCell setting cell) state
      (fun after => Touches [] state after ∧ Stuck after.workbook cell) fun result after =>
        Touches [cell] state after ∧
        (resultOf (evaluateIn setting state.workbook state.evaluated cell) = some result ∧
          after.workbook.result? cell.id.sheet cell.id.position = some result) ∧
        after.statistics.completed = state.statistics.completed := by
  refine (evaluate_ends hcell).bind fun result middle hmiddle => ?_
  obtain ⟨hresult, hworkbook, hchain, hcompleted⟩ := hmiddle
  have hformula := hcell.isFormula
  rw [← hworkbook] at hformula
  refine (store_ends hrefuse hformula result).bind fun _ after hafter => ends_pure ?_
  obtain ⟨hstores, hafterChain, hstatistics⟩ := hafter
  rw [hworkbook] at hstores
  refine ⟨.of_stores hstores (hafterChain.trans hchain), ⟨hresult, hstores.result⟩, ?_⟩
  rw [hstatistics, hcompleted]

/-- Calculating a cell that does not read itself leaves it with its value. -/
theorem settles_of_run {cell : FormulaCell} {after : State} (hcell : Calculable state.workbook cell)
    (htouches : Touches [cell] state after)
    (hself : (cell.references state.workbook).reads cell.id.sheet cell.id.position = false)
    (hstored : ∃ result,
      resultOf (evaluateIn setting state.workbook state.evaluated cell) = some result ∧
        after.workbook.result? cell.id.sheet cell.id.position = some result) :
    Settles after.workbook cell := by
  obtain ⟨result, hvalue, hresult⟩ := hstored
  intro other draw
  refine ⟨result, ?_, hresult⟩
  have hshown := htouches.shown (by simpa using hself)
  rwa [← hcell.evaluate_in_congr htouches.inputs.symm hshown setting other state.evaluated draw]

/-- Whether no cell of a list reads itself or a later one, and none stands there twice. -/
def Ordered (book : Workbook) (cells : List FormulaCell) : Prop :=
  (∀ cell ∈ cells, (cell.references book).reads cell.id.sheet cell.id.position = false) ∧
  cells.Pairwise fun earlier later => later.id ≠ earlier.id ∧
    (earlier.references book).reads later.id.sheet later.id.position = false

/-- What a formula refers to depends on the inputs of the workbook only. -/
theorem references_congr {book other : Workbook} (hinputs : book.inputs = other.inputs)
    (cell : FormulaCell) : cell.references book = cell.references other :=
  (Workbook.same_frame_of_inputs hinputs).references _ _

/-- What is in order is so while the same is put into the workbook. -/
theorem Ordered.congr {book other : Workbook} {cells : List FormulaCell} (h : Ordered book cells)
    (hinputs : book.inputs = other.inputs) : Ordered other cells := by
  simpa only [Ordered, references_congr hinputs] using h

/-- Without its first cell an order is still one. -/
theorem Ordered.tail {book : Workbook} {cell : FormulaCell} {rest : List FormulaCell}
    (h : Ordered book (cell :: rest)) : Ordered book rest :=
  ⟨fun other hother => h.1 other (by simp [hother]), (List.pairwise_cons.mp h.2).2⟩

/-- Calculating a cell that does not read itself, and counting it. -/
theorem calculate_cell_ends (hrefuse : setting.supervision.refuseAfter = none) {cell : FormulaCell}
    (hcell : Calculable state.workbook cell)
    (hself : (cell.references state.workbook).reads cell.id.sheet cell.id.position = false) :
    Ends (discard (runCell setting cell) >>= fun _ => countCalculated) state
      (fun after => Touches [] state after ∧ Stuck after.workbook cell) fun _ after =>
        Touches [cell] state after ∧ Settles after.workbook cell := by
  refine (run_cell_ends hrefuse hcell).discard.bind fun _ middle hmiddle => ends_modify ?_
  obtain ⟨result, htouches, hstored, -⟩ := hmiddle
  have hsettles := settles_of_run hcell htouches hself ⟨result, hstored⟩
  exact ⟨htouches.trans (.of_eq rfl rfl), hsettles⟩

/-- Whether calculating cells has been broken off at one of them that is stuck, with those before it
done. -/
def BrokenAmong (cells : List FormulaCell) (before after : State) : Prop :=
  ∃ done cell rest, cells = done ++ cell :: rest ∧ Touches done before after ∧
    (∀ earlier ∈ done, Settles after.workbook earlier) ∧ Stuck after.workbook cell

/-- A cell keeps its value while cells behind it in the order are touched. -/
theorem Ordered.settles_of_touches {book : Workbook} {cell : FormulaCell} {rest : List FormulaCell}
    {middle after : State} (hordered : Ordered book (cell :: rest))
    (hinputs : book.inputs = middle.workbook.inputs) (hcell : Calculable middle.workbook cell)
    (hsettles : Settles middle.workbook cell) (htouches : Touches rest middle after) :
    Settles after.workbook cell := by
  have hlater := (List.pairwise_cons.mp hordered.2).1
  refine htouches.settles hcell hsettles ?_ fun other hother => (hlater other hother).1
  intro other hother
  rw [← references_congr hinputs]
  exact (hlater other hother).2

/-- Calculating cells once each, none of which reads itself or a later one, leaves all of them with
the values that their formulas have at the end, unless one of them is stuck when its turn comes. -/
theorem run_all_ends (hrefuse : setting.supervision.refuseAfter = none) (cells : List FormulaCell)
    (hcells : ∀ cell ∈ cells, Calculable state.workbook cell)
    (hordered : Ordered state.workbook cells) :
    Ends (runAll setting cells) state (BrokenAmong cells state) fun finished after =>
      Touches cells state after ∧
      (finished = true → ∀ cell ∈ cells, Settles after.workbook cell) ∧
      (finished = false → after.statistics.completed = false) := by
  induction cells generalizing state with
  | nil => exact ends_pure ⟨.of_eq rfl rfl, fun _ => by simp, Bool.noConfusion⟩
  | cons cell rest ih =>
      have hcell := hcells cell (by simp)
      refine Ends.of_is_stopped ?_
      split
      · exact Ends.of_modify (ends_pure ⟨.of_eq rfl rfl, Bool.noConfusion, fun _ => rfl⟩)
      · rw [← bind_assoc]
        refine ((calculate_cell_ends hrefuse hcell (hordered.1 cell (by simp))).mono_broken
          fun _ ⟨hnone, hstuck⟩ => ⟨[], cell, rest, rfl, hnone, by simp, hstuck⟩).bind
            fun _ middle hmiddle => ?_
        obtain ⟨htouches, hsettles⟩ := hmiddle
        have hinputs := htouches.inputs.symm
        -- what follows leaves the result of this cell alone, and nothing that it reads changes
        have hkept : ∀ {others : List FormulaCell} {after : State}, (∀ other ∈ others,
            other ∈ rest) → Touches others middle after → Settles after.workbook cell :=
          fun hothers hafter => hordered.settles_of_touches hinputs (htouches.calculable hcell)
            hsettles (hafter.mono hothers)
        have hboth : ∀ {others : List FormulaCell} {after : State}, Touches others middle after →
            Touches (cell :: others) state after := fun hafter =>
          (htouches.mono (by simp)).trans (hafter.mono fun other hother => by simp [hother])
        refine ((ih (fun other hother => htouches.calculable (hcells other (by simp [hother])))
          (hordered.tail.congr hinputs)).mono_broken ?_).mono ?_
        · rintro after ⟨done, last, others, rfl, hdone, hearlier, hstuck⟩
          exact ⟨cell :: done, last, others, rfl, hboth hdone, List.forall_mem_cons.mpr
            ⟨hkept (fun other hother => by simp [hother]) hdone, hearlier⟩, hstuck⟩
        · rintro finished after ⟨hafter, hall, hcompleted⟩
          exact ⟨hboth hafter, fun hfinished => List.forall_mem_cons.mpr
            ⟨hkept (fun _ => id) hafter, hall hfinished⟩, hcompleted⟩

/-- Refusing cells leaves each of them with the error value of a cycle. -/
theorem refuse_circular_ends (hrefuse : setting.supervision.refuseAfter = none)
    (cells : List FormulaCell)
    (hcells : ∀ cell ∈ cells,
      (state.workbook.content cell.id.sheet cell.id.position).formulaText.isSome) :
    Ends (refuseCircular setting cells) state broken fun _ after =>
      Touches cells state after ∧
      (∀ cell ∈ cells, after.workbook.result? cell.id.sheet cell.id.position =
        some (.error .reference)) ∧
      after.statistics.completed = state.statistics.completed := by
  induction cells generalizing state with
  | nil => exact ends_pure ⟨.of_eq rfl rfl, by simp, rfl⟩
  | cons cell rest ih =>
      refine (store_ends hrefuse (hcells cell (by simp)) _).bind fun _ stored hstored => ?_
      obtain ⟨hstores, hchain, hstatistics⟩ := hstored
      have htouches : Touches [cell] state stored := .of_stores hstores hchain
      refine Ends.of_count fun counted hworkbook hcountedChain hcounted => ?_
      have hall := htouches.trans (.of_eq hworkbook hcountedChain)
      refine (ih fun other hother => ?_).mono ?_
      · rw [Workbook.formula_text_eq hall.inputs]
        exact hcells other (by simp [hother])
      · rintro _ after ⟨hafter, hrest, hafterCompleted⟩
        refine ⟨?_, List.forall_mem_cons.mpr ⟨?_, hrest⟩, ?_⟩
        · exact (hall.mono (by simp)).trans (hafter.mono fun other hother => by simp [hother])
        · -- a later cell at the same place would be given the same error value
          by_cases hagain : ∃ other ∈ rest, other.IsAt cell.id.sheet cell.id.position
          · obtain ⟨other, hother, hsheet, hposition⟩ := hagain
            rw [← hsheet, ← hposition]
            exact hrest other hother
          · rw [hafter.others _ _ fun other hother hat => hagain ⟨other, hother, hat⟩, hworkbook]
            exact hstores.result
        · rw [hafterCompleted, hcounted, hstatistics]

/-- Whether iterating over cells has been broken off at one of them that is stuck. -/
def BrokenWithin (cells : List FormulaCell) (before after : State) : Prop :=
  Touches cells before after ∧ ∃ cell ∈ cells, Stuck after.workbook cell

/-- What breaks off after some cells have been touched breaks off the whole. -/
theorem BrokenWithin.after_touches {cells more : List FormulaCell} {middle after : State}
    (htouches : Touches more state middle) (h : BrokenWithin cells middle after)
    (hcells : ∀ cell ∈ cells, cell ∈ more) : BrokenWithin more state after := by
  obtain ⟨hafter, cell, hcell, hstuck⟩ := h
  exact ⟨htouches.trans (hafter.mono hcells), cell, hcells cell hcell, hstuck⟩

/-- One iteration changes results of the cells on a cycle only. -/
theorem sweep_ends (hrefuse : setting.supervision.refuseAfter = none) (first : Bool)
    (cells : List FormulaCell) (hcells : ∀ cell ∈ cells, Calculable state.workbook cell)
    (largest : Float) :
    Ends (sweep setting first cells largest) state (BrokenWithin cells state) fun change after =>
      Touches cells state after ∧ (change = none → after.statistics.completed = false) := by
  induction cells generalizing state largest with
  | nil => exact ends_pure ⟨.of_eq rfl rfl, by simp⟩
  | cons cell rest ih =>
      refine Ends.of_is_stopped ?_
      split
      · exact Ends.of_modify (ends_pure ⟨.of_eq rfl rfl, fun _ => rfl⟩)
      · refine Ends.of_get (((run_cell_ends hrefuse (hcells cell (by simp))).mono_broken
          fun _ ⟨hnone, hstuck⟩ => ⟨hnone.mono (by simp), cell, by simp, hstuck⟩).bind
            fun result ran hran => ?_)
        obtain ⟨htouches, -, -⟩ := hran
        -- only the first iteration counts the cell before the rest follows
        have hrest : ∀ counted : State, Touches [cell] state counted → ∀ amount,
            Ends (sweep setting first rest amount) counted (BrokenWithin (cell :: rest) state)
              fun change after => Touches (cell :: rest) state after ∧
                (change = none → after.statistics.completed = false) := by
          intro counted hcounted amount
          have hmore : Touches (cell :: rest) state counted := hcounted.mono (by simp)
          refine ((ih (fun other hother => hcounted.calculable (hcells other (by simp [hother])))
            amount).mono_broken fun _ hbroken =>
              hbroken.after_touches hmore fun other hother => by simp [hother]).mono ?_
          rintro change after ⟨hafter, hcompleted⟩
          exact ⟨hmore.trans (hafter.mono fun other hother => by simp [hother]), hcompleted⟩
        split
        · exact Ends.of_count fun counted hworkbook hchain _ =>
            hrest counted (htouches.trans (.of_eq hworkbook hchain)) _
        · exact hrest _ htouches _

/-- Iterating changes results of the cells on a cycle only. -/
theorem iterate_ends (hrefuse : setting.supervision.refuseAfter = none) (cells : List FormulaCell)
    (hcells : ∀ cell ∈ cells, Calculable state.workbook cell) (remaining done : Nat) :
    Ends (iterate setting cells remaining done) state (BrokenWithin cells state)
      fun finished after =>
        Touches cells state after ∧ (finished = false → after.statistics.completed = false) := by
  induction remaining generalizing state done with
  | zero => exact ends_pure ⟨.of_eq rfl rfl, Bool.noConfusion⟩
  | succ remaining ih =>
      refine Ends.of_count fun counted hworkbook hchain _ => ?_
      rw [← hworkbook] at hcells
      have hcounted : Touches cells state counted := .of_eq hworkbook hchain
      refine ((sweep_ends hrefuse _ cells hcells _).mono_broken fun _ hbroken =>
        hbroken.after_touches hcounted fun _ => id).bind fun change swept hswept => ?_
      obtain ⟨hsweep, hcompleted⟩ := hswept
      have htouches : Touches cells state swept := hcounted.trans hsweep
      cases change with
      | none => exact ends_pure ⟨htouches, fun _ => hcompleted rfl⟩
      | some largest =>
          dsimp only
          split
          · exact Ends.of_count fun _ hworkbook hchain _ =>
              ends_pure ⟨htouches.trans (.of_eq hworkbook hchain), Bool.noConfusion⟩
          · refine ((ih (fun cell hcell => hsweep.calculable (hcells cell hcell)) _).mono_broken
              fun _ hbroken => hbroken.after_touches htouches fun _ => id).mono ?_
            rintro finished after ⟨hafter, hfinished⟩
            exact ⟨htouches.trans hafter, hfinished⟩

end Pass

end Spreadsheet.Calculation
