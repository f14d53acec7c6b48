import Spreadsheet.Calculation.Calculator

/-!
# What steps of a pass leave alone

Some of what a state holds is changed by few steps of a pass only, and left alone by all others
whatever the formulas are and whether or not a step fails. So a pass that nobody stops never claims
to have been stopped: `completed_of_calculate` says so of full passes and `completed_of_recalculate`
of passes over changes.
-/

namespace Spreadsheet.Calculation

open Dependency (Chain FormulaCell)
open Formula (FormulaError)

namespace Pass

variable {α β γ : Type} {view : State → γ}

/-- Whether a step leaves alone what is seen of a state. -/
def Keeps (view : State → γ) (pass : Pass α) (state : State) : Prop :=
  view (pass.run.run state).2 = view state

/-- A step that does nothing leaves everything alone. -/
theorem keeps_pure (value : α) (state : State) : Keeps view (pure value) state := rfl

/-- A step that fails at once leaves everything alone. -/
theorem keeps_throw (failure : FormulaError) (state : State) :
    Keeps view (throw failure : Pass α) state := rfl

section Binds

variable {pass : Pass α} {goOn : α → Pass β} {state : State}

/-- Two steps in a row leave alone what each of them does, the second one after whatever value and
state. -/
theorem Keeps.bind (hpass : Keeps view pass state)
    (hgoOn : ∀ value after, Keeps view (goOn value) after) : Keeps view (pass >>= goOn) state := by
  unfold Keeps at hpass ⊢
  rw [ExceptT.run_bind, StateT.run_bind]
  cases hrun : pass.run.run state with
  | mk result after =>
      rw [hrun] at hpass
      cases result with
      | error failure => exact hpass
      | ok value => exact (hgoOn value after).trans hpass

/-- A step whose value is dropped leaves alone what it does otherwise. -/
theorem Keeps.discard (hpass : Keeps view pass state) : Keeps view (discard pass) state := by
  show Keeps view ((fun _ => PUnit.unit) <$> pass) state
  rw [map_eq_pure_bind]
  exact hpass.bind fun _ _ => keeps_pure _ _

/-- What goes on from the present state may be judged at that state. -/
theorem Keeps.of_get {goOn : State → Pass β} (h : Keeps view (goOn state) state) :
    Keeps view (get >>= goOn) state := h

/-- Replacing the state leaves alone what is the same in the new one and in what follows it. -/
theorem Keeps.of_set {after : State} {goOn : PUnit → Pass β} (hafter : view after = view state)
    (h : Keeps view (goOn ⟨⟩) after) : Keeps view (set after >>= goOn) state :=
  Eq.trans h hafter

/-- A result that is not part of the state leaves everything alone, so that only what follows it
counts. -/
theorem Keeps.of_lift {result : Except FormulaError α}
    (h : ∀ value, Keeps view (goOn value) state) :
    Keeps view ((liftM result : Pass α) >>= goOn) state := by
  cases result with
  | error failure => exact keeps_throw failure state
  | ok value => exact h value

/-- A change of the state leaves alone what it does not change. -/
theorem keeps_modify {change : State → State} (h : view (change state) = view state) :
    Keeps view (modify change) state := h

end Binds

/-- Whether nothing is seen of what calculating single formulas changes. -/
structure Blind (view : State → γ) : Prop where
  results : ∀ (state : State) workbook stored, view { state with workbook, stored } = view state
  chain : ∀ (state : State) chain, view { state with chain } = view state
  evaluated : ∀ (state : State) evaluated, view { state with evaluated } = view state
  counts : ∀ (state : State) calculated errors,
    view { state with statistics := { state.statistics with calculated, errors } } = view state

variable {setting : Setting}

section Steps

variable (hblind : Blind view)
include hblind

/-- Storing a result is not seen, whether it is stored or refused. -/
theorem keeps_store (sheet : Nat) (position : Position) (result : Cell) (state : State) :
    Keeps view (store setting sheet position result) state := by
  refine Keeps.of_get ?_
  split
  · exact keeps_throw _ state
  · exact Keeps.of_lift fun _ => keeps_modify (hblind.results _ _ _)

/-- Counting an error is not seen. -/
theorem keeps_count_error (state : State) : Keeps view countError state :=
  keeps_modify (hblind.counts state state.statistics.calculated (state.statistics.errors + 1))

/-- Counting a calculated formula is not seen. -/
theorem keeps_count_calculated (state : State) : Keeps view countCalculated state :=
  keeps_modify (hblind.counts state (state.statistics.calculated + 1) state.statistics.errors)

/-- Evaluating a formula is not seen, whether it has a value, is unreadable or fails. -/
theorem keeps_evaluate (cell : FormulaCell) (state : State) :
    Keeps view (evaluate setting cell) state := by
  refine Keeps.of_get (Keeps.of_set (hblind.evaluated _ _) ?_)
  split
  · exact keeps_pure _ _
  · split
    · exact (keeps_count_error hblind _).bind fun _ _ => keeps_pure _ _
    · exact keeps_throw _ _

/-- Calculating one formula is not seen. -/
theorem keeps_run_cell (cell : FormulaCell) (state : State) :
    Keeps view (runCell setting cell) state :=
  (keeps_evaluate hblind cell state).bind fun _ _ => (keeps_store hblind _ _ _ _).bind fun _ _ =>
    keeps_pure _ _

/-- Refusing formulas as circular is not seen. -/
theorem keeps_refuse_circular (cells : List FormulaCell) (state : State) :
    Keeps view (refuseCircular setting cells) state := by
  induction cells generalizing state with
  | nil => exact keeps_pure _ _
  | cons cell rest ih =>
      exact (keeps_store hblind _ _ _ _).bind fun _ _ => (keeps_count_error hblind _).bind
        fun _ after => ih after

/-- Registering a formula is not seen, whether it can be read or not. -/
theorem keeps_register (sheet : Nat) (position : Position) (formula : String) (state : State) :
    Keeps view (register setting sheet position formula) state := by
  unfold register
  split
  · exact (keeps_count_error hblind _).bind fun _ _ => keeps_store hblind _ _ _ _
  · exact Keeps.of_lift fun _ => Keeps.of_get (Keeps.of_lift fun _ =>
      keeps_modify (hblind.chain _ _))

/-- Registering the formulas of one sheet is not seen. -/
theorem keeps_register_all (sheet : Nat) (found : List (Position × String)) (state : State) :
    Keeps view (registerAll setting sheet found) state := by
  induction found generalizing state with
  | nil => exact keeps_pure _ _
  | cons head rest ih => exact (keeps_register hblind _ _ _ _).bind fun _ after => ih after

/-- Registering the formulas of several sheets is not seen. -/
theorem keeps_register_sheets (sheets : List Nat) (state : State) :
    Keeps view (registerSheets setting sheets) state := by
  induction sheets generalizing state with
  | nil => exact keeps_pure _ _
  | cons sheet rest ih =>
      exact Keeps.of_get ((keeps_register_all hblind _ _ _).bind fun _ after => ih after)

/-- Whether a stop cannot happen, or nothing is seen of it. -/
def StopUnseen (setting : Setting) (view : State → γ) : Prop :=
  setting.supervision.stopAfter = none ∨
    ∀ state : State,
      view { state with statistics := { state.statistics with completed := false } } = view state

variable (hstop : StopUnseen setting view)
include hstop

omit hblind in
/-- Counting a stop is not seen, if it happens at all. -/
theorem keeps_count_stopped {state : State} (h : setting.supervision.stops state.stored = true) :
    Keeps view countStopped state := by
  rcases hstop with hunstopped | hunseen
  · simp [Supervision.stops, hunstopped] at h
  · exact keeps_modify (hunseen state)

/-- Calculating formulas in a row is not seen, wherever it is stopped. -/
theorem keeps_run_all (cells : List FormulaCell) (state : State) :
    Keeps view (runAll setting cells) state := by
  induction cells generalizing state with
  | nil => exact keeps_pure _ _
  | cons cell rest ih =>
      refine Keeps.of_get ?_
      split
      · exact (keeps_count_stopped hstop ‹_›).bind fun _ _ => keeps_pure _ _
      · exact (keeps_run_cell hblind _ _).discard.bind fun _ _ =>
          (keeps_count_calculated hblind _).bind fun _ after => ih after

/-- One sweep over circular formulas is not seen, wherever it is stopped. -/
theorem keeps_sweep (first : Bool) (cells : List FormulaCell) (largest : Float) (state : State) :
    Keeps view (sweep setting first cells largest) state := by
  induction cells generalizing largest state with
  | nil => exact keeps_pure _ _
  | cons cell rest ih =>
      refine Keeps.of_get ?_
      split
      · exact (keeps_count_stopped hstop ‹_›).bind fun _ _ => keeps_pure _ _
      · refine Keeps.of_get ((keeps_run_cell hblind _ _).bind fun _ ran => ?_)
        split
        · exact (keeps_count_calculated hblind _).bind fun _ after => ih _ after
        · exact ih _ ran

end Steps

/-- Whether a state counts as run to its end. -/
def runsOn (state : State) : Bool := state.statistics.completed

/-- Nothing that calculating single formulas changes is part of whether a state counts as run to its
end. -/
theorem blind_runs_on : Blind runsOn where
  results _ _ _ := rfl
  chain _ _ := rfl
  evaluated _ _ := rfl
  counts _ _ _ := rfl

section Unstopped

variable (hunstopped : setting.supervision.stopAfter = none)
include hunstopped

/-- Without a stop, formulas calculated in a row leave a state counted as run to its end. -/
theorem runs_on_run_all (cells : List FormulaCell) (state : State) :
    Keeps runsOn (runAll setting cells) state :=
  keeps_run_all blind_runs_on (.inl hunstopped) cells state

/-- Without a stop, no number of sweeps changes whether a state counts as run to its end. -/
theorem runs_on_iterate (cells : List FormulaCell) (remaining done : Nat) (state : State) :
    Keeps runsOn (iterate setting cells remaining done) state := by
  induction remaining generalizing done state with
  | zero => exact keeps_pure _ _
  | succ remaining ih =>
      refine (keeps_modify rfl).bind fun _ _ =>
        (keeps_sweep blind_runs_on (.inl hunstopped) _ _ _ _).bind fun change swept => ?_
      cases change with
      | none => exact keeps_pure _ _
      | some largest =>
          dsimp only
          split
          · exact (keeps_modify rfl).bind fun _ _ => keeps_pure _ _
          · exact ih _ swept

/-- Without a stop, the iterative part of a pass leaves a state counted as run to its end. -/
theorem runs_on_run_iterative (circular ordered : List Nat) (state : State) :
    Keeps runsOn (runIterative setting circular ordered) state := by
  refine Keeps.of_get ((runs_on_run_all hunstopped _ _).bind fun _ _ => ?_)
  split
  · exact keeps_modify rfl
  · refine (keeps_modify rfl).bind fun _ _ => Keeps.of_get
      ((runs_on_iterate hunstopped _ _ _ _).bind fun _ _ => ?_)
    split
    · exact Keeps.of_get (Keeps.of_get (Keeps.of_get
        ((runs_on_run_all hunstopped _ _).discard.bind fun _ _ => keeps_modify rfl)))
    · exact keeps_pure _ _

/-- Without a stop, calculating any places leaves a state counted as run to its end. -/
theorem runs_on_run_places (places : List Nat) (state : State) :
    Keeps runsOn (runPlaces setting places) state := by
  refine Keeps.of_get ?_
  dsimp only
  split
  · exact runs_on_run_iterative hunstopped _ _ _
  · exact Keeps.of_get ((keeps_refuse_circular blind_runs_on _ _).bind fun _ _ =>
      (keeps_modify rfl).bind fun _ _ => Keeps.of_get (runs_on_run_all hunstopped _ _).discard)

/-- Without a stop, a full pass leaves a state counted as run to its end. -/
theorem runs_on_calculate_all (state : State) : Keeps runsOn (calculateAll setting) state := by
  refine (keeps_modify rfl).bind fun _ _ => Keeps.of_get
    ((keeps_register_sheets blind_runs_on _ _).bind fun _ _ => (keeps_modify rfl).bind
      fun _ _ => ?_)
  exact Keeps.bind (Keeps.of_get (keeps_modify rfl)) fun _ _ => Keeps.of_get
    (runs_on_run_places hunstopped _ _)

/-- Without a stop, a pass over changes leaves a state counted as run to its end. -/
theorem runs_on_calculate_changed (changed : List CellId) (state : State) :
    Keeps runsOn (calculateChanged setting changed) state := by
  refine Keeps.of_get ?_
  dsimp only
  split
  · exact runs_on_calculate_all hunstopped _
  · exact Keeps.bind (Keeps.of_get (keeps_modify rfl)) fun _ _ =>
      runs_on_run_places hunstopped _ _

end Unstopped

end Pass

section Completion

variable {setting : Setting} (hunstopped : setting.supervision.stopAfter = none)
include hunstopped

/-- A full pass that nobody stops reports itself as completed, whether it returns or fails. -/
theorem completed_of_calculate {book : Workbook} {chain : Chain} {after : State}
    {result : Except FormulaError Statistics} (h : calculate setting book chain = (result, after)) :
    after.statistics.completed = true := by
  obtain rfl : (calculate setting book chain).2 = after := congrArg Prod.snd h
  exact Pass.runs_on_calculate_all hunstopped (.initial book chain)

/-- A pass over changes that nobody stops reports itself as completed, whether it
returns or fails. -/
theorem completed_of_recalculate {book : Workbook} {chain : Chain} {changed : List CellId}
    {after : State} {result : Except FormulaError Statistics}
    (h : recalculate setting book chain changed = (result, after)) :
    after.statistics.completed = true := by
  obtain rfl : (recalculate setting book chain changed).2 = after := congrArg Prod.snd h
  exact Pass.runs_on_calculate_changed hunstopped changed (.initial book chain)

end Completion

end Spreadsheet.Calculation
