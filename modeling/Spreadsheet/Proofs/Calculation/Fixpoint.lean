import Spreadsheet.Proofs.Calculation.Sweep
import Spreadsheet.Proofs.Calculation.Twins

/-!
# Cycles that have converged

When no number changes any more, iterating stops. Then what is downstream of the cycles is
calculated again, so that a cell on a cycle is left behind if it reads some of that. The main
theorem, `calculate_fixpoint`, says that all other cells on a cycle store what they are worth, and
`converged_leaves_behind` that the exceptions are real.
-/

namespace Spreadsheet

/-- A formula shows its result. -/
theorem Workbook.shown_of_result {book : Workbook} {sheet : Nat} {position : Position}
    {result : Cell} (h : book.result? sheet position = some result) :
    book.shown sheet position = result.effective := by
  unfold result? at h
  rw [shown_eq]
  cases hcontent : book.content sheet position with
  | formula source stored =>
      obtain rfl : stored = some result := by simpa [hcontent, Cell.result?] using h
      rfl
  | _ => simp [hcontent, Cell.result?] at h

namespace Dependency.Chain

variable {chain : Chain} {place : Nat}

/-- The places of cells on no cycle. -/
def orderedPlaces (chain : Chain) : List Nat :=
  chain.places.filter fun place => !chain.isCircular place

/-- The places of cells on no cycle that read a cell on a cycle, directly or by way of others. They
are calculated again after the cycles have been iterated. -/
def rerunPlaces (chain : Chain) : List Nat :=
  chain.downstream chain.circularPlaces chain.orderedPlaces

/-- The circular places of a chain are circular. -/
theorem circular_of_mem (h : place ∈ chain.circularPlaces) : chain.isCircular place = true :=
  (List.mem_filter.mp h).2

/-- The ordered places of a chain are not circular. -/
theorem free_of_mem (h : place ∈ chain.orderedPlaces) : chain.isCircular place = false := by
  simpa using (List.mem_filter.mp h).2

/-- What runs again after the sweeps is among the ordered places. -/
theorem ordered_of_rerun (h : place ∈ chain.rerunPlaces) : place ∈ chain.orderedPlaces :=
  (List.mem_filter.mp h).1

/-- No circular place runs again after the sweeps. -/
theorem not_rerun_of_circular (h : place ∈ chain.circularPlaces) : place ∉ chain.rerunPlaces := by
  intro hrerun
  simpa [circular_of_mem h] using free_of_mem (ordered_of_rerun hrerun)

end Dependency.Chain

namespace Calculation

open Dependency (Chain FormulaCell)

section Results

/-- A value is shown as it is stored. -/
theorem effective_to_cell (value : Value) : value.toCell.effective = value.toCell := by
  unfold Value.toCell Value.scalarToCell
  cases value.scalar with
  | number amount =>
      dsimp only
      split <;> rfl
  | _ => rfl

/-- Only finite numbers are stored. -/
theorem is_finite_of_to_cell {value : Value} {amount : Float}
    (h : value.toCell = .number amount) : Number.isFinite amount = true := by
  unfold Value.toCell Value.scalarToCell at h
  cases hscalar : value.scalar with
  | number found =>
      simp only [hscalar] at h
      split at h
      · obtain rfl := Cell.number.inj h
        assumption
      · cases h
  | _ => simp [hscalar] at h

variable {outcome : Evaluation.Outcome} {result : Cell}

/-- What a formula results in is stored as it is. -/
theorem effective_result (h : resultOf outcome = some result) : result.effective = result := by
  cases outcome with
  | ok value =>
      obtain rfl := Option.some.inj h
      exact effective_to_cell value
  | error failure =>
      obtain ⟨fault, -, rfl⟩ := Option.map_eq_some_iff.mp h
      rfl

/-- A number that a formula results in is never an undefined one. -/
theorem is_number_of_result {amount : Float} (h : resultOf outcome = some (.number amount)) :
    Number.isNotNumber amount = false := by
  have hfinite : Number.isFinite amount = true := by
    cases outcome with
    | ok value => exact is_finite_of_to_cell (Option.some.inj h)
    | error failure =>
        obtain ⟨fault, -, hfault⟩ := Option.map_eq_some_iff.mp h
        cases hfault
  simp only [Number.isFinite, Number.isNotNumber, decide_eq_true_eq, decide_eq_false_iff_not]
    at hfinite ⊢
  omega

end Results

/-- Whether a cell shows numbers in two workbooks. What is not a number in the first one does not
count. -/
def showsNumbers (early late : Workbook) (cell : FormulaCell) : Bool :=
  match early.shown cell.id.sheet cell.id.position, late.shown cell.id.sheet cell.id.position with
  | .number old, .number _ => !Number.isNotNumber old
  | _, _ => false

/-- Whether all cells on a cycle show numbers, before and after. -/
def HoldNumbers (chain : Chain) (early late : Workbook) : Prop :=
  ∀ place ∈ chain.circularPlaces, ∀ cell ∈ chain.cell? place, showsNumbers early late cell = true

instance (chain : Chain) (early late : Workbook) : Decidable (HoldNumbers chain early late) :=
  inferInstanceAs (Decidable (∀ place ∈ chain.circularPlaces, ∀ cell ∈ chain.cell? place,
    showsNumbers early late cell = true))

/-- Whether a cell shows zero, with either sign. -/
def showsZero (book : Workbook) (sheet : Nat) (position : Position) : Bool :=
  match book.shown sheet position with
  | .number amount => Number.isZero amount
  | _ => false

/-- Whether a cell shows in a workbook what it shows later, or a zero with the sign that it had
earlier. -/
def ShowsUpToSign (early late book : Workbook) (sheet : Nat) (position : Position) : Prop :=
  book.shown sheet position = late.shown sheet position ∨
    book.shown sheet position = early.shown sheet position ∧
      showsZero early sheet position = true ∧ showsZero late sheet position = true

/-- Whether a cell stores what its formula is worth where zeros that it reads may have the sign that
they had earlier. -/
def SettlesUpToSigns (early late : Workbook) (cell : FormulaCell) : Prop :=
  ∃ book : Workbook, book.inputs = late.inputs ∧
    (∀ sheet position, (cell.references late).reads sheet position = true →
      ShowsUpToSign early late book sheet position) ∧
    ∀ setting draw, ∃ result, resultOf (Pass.evaluateIn setting book draw cell) = some result ∧
      late.result? cell.id.sheet cell.id.position = some result

section Changes

variable {setting : Setting} {early late : Workbook} {cell : FormulaCell} {final : Float}

/-- Nothing is left to doubt if no zero that the cell reads has changed its sign. -/
theorem SettlesUpToSigns.settles (h : SettlesUpToSigns early late cell)
    (hcalculable : Calculable late cell)
    (hsigns : ∀ sheet position, (cell.references late).reads sheet position = true →
      showsZero early sheet position = true → showsZero late sheet position = true →
        early.shown sheet position = late.shown sheet position) : Settles late cell := by
  obtain ⟨book, hinputs, hshown, hstored⟩ := h
  intro setting draw
  obtain ⟨result, hvalue, hresult⟩ := hstored setting draw
  refine ⟨result, ?_, hresult⟩
  rw [← hvalue]
  refine congrArg resultOf (hcalculable.evaluate_in_congr hinputs.symm ?_ _ _ _ _)
  intro sheet position hread
  rcases hshown sheet position hread with hsame | ⟨hold, hzero, hlateZero⟩
  · exact hsame.symm
  · exact (hold.trans (hsigns sheet position hread hzero hlateZero)).symm

/-- A cell keeps its number, up to the sign of zero, if no number has changed. -/
theorem Renewal.number_eq_or_zero (h : Renewal setting early late final cell)
    (hfinal : Number.isZero final = true) {old new : Float}
    (hearly : early.shown cell.id.sheet cell.id.position = .number old)
    (hlate : late.shown cell.id.sheet cell.id.position = .number new)
    (hnumber : Number.isNotNumber old = false) :
    new = old ∨ Number.isZero new = true ∧ Number.isZero old = true := by
  have hresult : h.result = .number new := by
    rw [← effective_result h.value, ← Workbook.shown_of_result h.stored]
    exact hlate
  have hvalue := h.value
  rw [hresult] at hvalue
  have hdistance : Pass.change (early.shown cell.id.sheet cell.id.position) h.result =
      some (new - old).abs := by
    rw [hearly, hresult]
    rfl
  refine Number.eq_or_zeros_of_distance (is_number_of_result hvalue) hnumber ?_
  refine (h.change _ hdistance).imp_right fun hle => ?_
  simp only [Number.isZero, beq_iff_eq] at hfinal ⊢
  omega

end Changes

section Places

variable {grown : Chain} {book : Workbook} {setting : Setting}
  {previous iterated earlier after : State} {place : Nat} {cell : FormulaCell}

/-- What becomes of cycles once they have converged: `previous` is the state before the last
iteration and `iterated` the one after it, and from both of them what is downstream of the cycles
is calculated again. -/
structure Converged (setting : Setting) (previous iterated earlier after : State) : Prop where
  settled : Settled setting (previous.chain.circularPlaces.filterMap previous.chain.cell?) previous
    iterated
  earlier : Touches (previous.chain.rerunPlaces.filterMap previous.chain.cell?) previous earlier
  after : Touches (previous.chain.rerunPlaces.filterMap previous.chain.cell?) iterated after

namespace Converged

variable (hchained : Chained grown book previous)
  (h : Converged setting previous iterated earlier after)

include h in
/-- The chain is the same after the last sweep as before the one preceding it. -/
theorem chain : after.chain = previous.chain := h.after.chain.trans h.settled.touches.chain

include hchained h

/-- Calculating again what is downstream leaves the rest alone. -/
theorem result_after (hcell : previous.chain.cell? place = some cell)
    (hout : place ∉ previous.chain.rerunPlaces) :
    after.workbook.result? cell.id.sheet cell.id.position =
      iterated.workbook.result? cell.id.sheet cell.id.position := by
  have htouches := h.after
  have hchain := h.settled.touches.chain
  rw [← hchain] at hcell hout htouches
  exact (hchained.touches h.settled.touches).result_eq htouches hcell hout

/-- A place that does not run again shows after the pass what the last sweep left. -/
theorem shown_after (hcell : previous.chain.cell? place = some cell)
    (hout : place ∉ previous.chain.rerunPlaces) :
    iterated.workbook.shown cell.id.sheet cell.id.position =
      after.workbook.shown cell.id.sheet cell.id.position :=
  Workbook.shown_eq_of_result_eq h.after.inputs.symm (h.result_after hchained hcell hout).symm

/-- A place that does not run again shows before the last sweep what it showed earlier. -/
theorem shown_earlier (hcell : previous.chain.cell? place = some cell)
    (hout : place ∉ previous.chain.rerunPlaces) :
    previous.workbook.shown cell.id.sheet cell.id.position =
      earlier.workbook.shown cell.id.sheet cell.id.position :=
  Workbook.shown_eq_of_result_eq h.earlier.inputs.symm
    (hchained.result_eq h.earlier hcell hout).symm

variable (hexact : Number.isZero setting.options.maxChange = true)
  (hnumbers : HoldNumbers previous.chain earlier.workbook after.workbook)
include hexact hnumbers

/-- The last iteration has changed no number on a cycle except for the sign of zero. -/
theorem shown_circular (hplace : place ∈ previous.chain.circularPlaces)
    (hcell : previous.chain.cell? place = some cell) :
    ShowsUpToSign earlier.workbook after.workbook previous.workbook cell.id.sheet
      cell.id.position := by
  have hout := Chain.not_rerun_of_circular hplace
  have hearlier := h.shown_earlier hchained hcell hout
  have hafter := h.shown_after hchained hcell hout
  obtain ⟨final, hsize, hsmall, hrenewals⟩ := h.settled.renewed
  obtain ⟨hrenewal⟩ := hrenewals cell (List.mem_filterMap.mpr ⟨place, hplace, hcell⟩)
  have hshows := hnumbers place hplace cell hcell
  unfold showsNumbers at hshows
  split at hshows
  next old new hearly hlate =>
    rcases hrenewal.number_eq_or_zero (Number.is_zero_of_le hsize hexact hsmall)
      (hearlier.trans hearly) (hafter.trans hlate) (by simpa using hshows) with rfl | ⟨hnew, hold⟩
    · exact Or.inl (hearlier.trans (hearly.trans hlate.symm))
    · refine Or.inr ⟨hearlier, ?_, ?_⟩
      · rw [showsZero, hearly]
        exact hold
      · rw [showsZero, hlate]
        exact hnew
  · cases hshows

/-- What a cell reads has not changed since before the last iteration, except for the sign of zero,
if it reads nothing that is calculated again. -/
theorem shown_read (hcell : previous.chain.cell? place = some cell)
    (hreads : ∀ target ∈ previous.chain.precedentsOf place, target ∉ previous.chain.rerunPlaces)
    {sheet : Nat} {position : Position}
    (hread : (cell.references previous.workbook).reads sheet position = true) :
    iterated.workbook.shown sheet position = after.workbook.shown sheet position ∧
      ShowsUpToSign earlier.workbook after.workbook previous.workbook sheet position := by
  have hiteratedInputs := h.settled.touches.inputs
  by_cases hformula : ∃ target read, previous.chain.cell? target = some read ∧
      read.IsAt sheet position
  · obtain ⟨target, read, htarget, rfl, rfl⟩ := hformula
    have hmem := (hchained.reads_iff hcell htarget).mp hread
    have hafter := h.shown_after hchained htarget (hreads target hmem)
    refine ⟨hafter, ?_⟩
    by_cases hcircle : target ∈ previous.chain.circularPlaces
    · exact h.shown_circular hchained hexact hnumbers hcircle htarget
    · have hlast := Workbook.shown_eq_of_result_eq hiteratedInputs
        (hchained.result_eq h.settled.touches htarget hcircle)
      exact Or.inl (hlast.symm.trans hafter)
  · -- no formula that is calculated stands there
    have hnone : ∀ places : List Nat, ∀ other ∈ places.filterMap previous.chain.cell?,
        ¬ other.IsAt sheet position := by
      intro places other hother hat
      obtain ⟨target, -, htarget⟩ := List.mem_filterMap.mp hother
      exact hformula ⟨target, other, htarget, hat⟩
    have hlast := Workbook.shown_eq_of_result_eq hiteratedInputs
      (h.settled.touches.others _ _ (hnone _))
    have hafter := Workbook.shown_eq_of_result_eq h.after.inputs (h.after.others _ _ (hnone _))
    exact ⟨hafter.symm, Or.inl (hafter.trans hlast).symm⟩

/-- A cell on a cycle that reads nothing that is calculated again stores what it is worth, up to the
signs of zeros. -/
theorem settles (hcalculable : Calculable previous.workbook cell)
    (hplace : place ∈ previous.chain.circularPlaces)
    (hcell : previous.chain.cell? place = some cell)
    (hreads : ∀ target ∈ previous.chain.precedentsOf place,
      target ∉ previous.chain.rerunPlaces) :
    SettlesUpToSigns earlier.workbook after.workbook cell := by
  obtain ⟨final, -, -, hrenewals⟩ := h.settled.renewed
  obtain ⟨hrenewal⟩ := hrenewals cell (List.mem_filterMap.mpr ⟨place, hplace, hcell⟩)
  have hbook : hrenewal.book.inputs = previous.workbook.inputs := hrenewal.between.inputs
  have hiterated := h.settled.touches.inputs
  have hafter : after.workbook.inputs = previous.workbook.inputs := h.after.inputs.trans hiterated
  refine ⟨hrenewal.book, hbook.trans hafter.symm, fun sheet position hread => ?_,
    fun other draw => ⟨hrenewal.result, ?_, ?_⟩⟩
  · -- the last iteration has calculated the cell from results of which none has changed
    rw [Pass.references_congr hafter] at hread
    obtain ⟨hnew, hold⟩ := h.shown_read hchained hexact hnumbers hcell hreads hread
    rcases hrenewal.between.results sheet position with hearly | hlate
    · rw [ShowsUpToSign, Workbook.shown_eq_of_result_eq hbook hearly]
      exact hold
    · have hsame := Workbook.shown_eq_of_result_eq (hbook.trans hiterated.symm) hlate
      exact Or.inl (hsame.trans hnew)
  · rw [← (hcalculable.congr hbook.symm).evaluate_in_eq setting other hrenewal.draw draw]
    exact hrenewal.value
  · rw [h.result_after hchained hcell (Chain.not_rerun_of_circular hplace)]
    exact hrenewal.stored

end Converged

/-- Places in order hold different cells. -/
theorem Chained.cells_distinct (h : Chained grown book previous) {places : List Nat}
    (hsorted : places.Pairwise (· < ·)) :
    (places.filterMap previous.chain.cell?).Pairwise fun earlier later =>
      later.id ≠ earlier.id := by
  refine List.Pairwise.filterMap _ ?_ hsorted
  intro left right hlt first hfirst second hsecond hid
  have hsame := h.place_unique hsecond hfirst hid
  omega

end Places

/-- The setting with another number of iterations at most. -/
def Setting.within (setting : Setting) (count : Nat) : Setting :=
  { setting with options := { setting.options with maxIterations := count } }

/-- A pass that reports statistics has run without failure, and they are those it has reached. -/
theorem run_of_perform {pass : Pass Unit} {book : Workbook} {chain : Chain}
    {statistics : Statistics} {after : State}
    (h : perform pass book chain = (.ok statistics, after)) :
    ∃ result, pass.run.run (.initial book chain) = (.ok result, after) ∧
      after.statistics = statistics := by
  unfold perform at h
  cases hrun : pass.run.run (.initial book chain) with
  | mk outcome reached =>
      rw [hrun] at h
      obtain ⟨hreport, rfl⟩ := Prod.mk.inj h
      obtain ⟨result, rfl, hsame⟩ := except_map_eq_ok_iff.mp hreport
      exact ⟨result, rfl, hsame⟩

/-- What holds of the state that a pass reaches holds however it ends. -/
theorem perform_of_reaches {pass : Pass Unit} {book : Workbook} {chain : Chain}
    {kind : State → Prop} (h : pass.Reaches (.initial book chain) kind) :
    kind (perform pass book chain).2 := by
  obtain ⟨outcome, after, hperform, ⟨-, hkind⟩ | ⟨-, hkind⟩⟩ := perform_of_ends h
  · rwa [hperform]
  · rwa [hperform]

namespace Pass

/-! ## The number of iterations makes a difference to nothing but iterating -/

section Within

variable (setting : Setting) (count : Nat)

/-- How many sweeps are allowed does not matter to formulas calculated in a row. -/
theorem run_all_within (cells : List FormulaCell) :
    runAll (setting.within count) cells = runAll setting cells := by
  induction cells with
  | nil => rfl
  | cons cell rest ih =>
      unfold runAll
      rw [ih]
      rfl

/-- How many sweeps are allowed does not matter to registering the formulas of one sheet. -/
theorem register_all_within (sheet : Nat) (found : List (Position × String)) :
    registerAll (setting.within count) sheet found = registerAll setting sheet found := by
  induction found with
  | nil => rfl
  | cons head rest ih =>
      unfold registerAll
      rw [ih]
      rfl

/-- How many sweeps are allowed does not matter to registering the formulas of several sheets. -/
theorem register_sheets_within (sheets : List Nat) :
    registerSheets (setting.within count) sheets = registerSheets setting sheets := by
  induction sheets with
  | nil => rfl
  | cons sheet rest ih =>
      unfold registerSheets
      simp only [ih, register_all_within]

/-- How many sweeps are allowed does not matter to enrolling all formulas of a workbook. -/
theorem enroll_within : enroll (setting.within count) = enroll setting := by
  simp only [enroll, register_sheets_within]

/-- How many sweeps are allowed does not matter to one sweep. -/
theorem sweep_within (first : Bool) (cells : List FormulaCell) (largest : Float) :
    sweep (setting.within count) first cells largest = sweep setting first cells largest := by
  induction cells generalizing largest with
  | nil => rfl
  | cons cell rest ih =>
      unfold sweep
      simp only [ih]
      rfl

/-- Once their number is fixed, how many sweeps are allowed does not matter to the sweeps either. -/
theorem iterate_within (cells : List FormulaCell) (remaining done : Nat) :
    iterate (setting.within count) cells remaining done = iterate setting cells remaining done := by
  induction remaining generalizing done with
  | zero => rfl
  | succ remaining ih =>
      unfold iterate
      simp only [ih, sweep_within]
      rfl

end Within

/-! ## The state that the last iteration has found -/

section Runs

variable {setting : Setting} {state : State} {broken : State → Prop}
  (hrefuse : setting.supervision.refuseAfter = none)

/-- Looking up cells gives those at the places and changes nothing. -/
theorem ends_cells_at (places : List Nat) :
    Ends (cellsAt places) state broken fun cells after =>
      cells = places.filterMap state.chain.cell? ∧ state = after :=
  Or.inl ⟨_, _, rfl, rfl, rfl⟩

/-- Counting changes what is counted, and nothing else. -/
theorem ends_count (change : Statistics → Statistics) :
    Ends (Pass.count change) state broken fun _ after => after.workbook = state.workbook ∧
      after.chain = state.chain ∧ after.statistics = change state.statistics :=
  Or.inl ⟨⟨⟩, _, rfl, rfl, rfl, rfl⟩

include hrefuse

/-- Calculates again what is downstream of cycles, if iterating them has come to its end. -/
def runAgain (setting : Setting) (circular ordered : List Nat) (finished : Bool) : Pass Unit := do
  if finished then
    let calculated := (← get).statistics.calculated
    let again := (← get).chain.downstream circular ordered
    discard <| runAll setting (← cellsAt again)
    count fun statistics => { statistics with calculated }

/-- What is calculated again is what is downstream of the cycles, and it leaves the progress of the
pass alone. -/
theorem run_again_touches {chain grown : Chain} {book : Workbook} (hchain : state.chain = chain)
    (hchained : Chained grown book state) (hcalculable : PlacesCalculable state chain.orderedPlaces)
    (finished : Bool) :
    Ends (runAgain setting chain.circularPlaces chain.orderedPlaces finished) state
      (Touches (chain.rerunPlaces.filterMap chain.cell?) state) fun _ after =>
        Touches (chain.rerunPlaces.filterMap chain.cell?) state after ∧
        progress after = progress state := by
  subst hchain
  unfold runAgain
  split
  · refine Ends.of_get (Ends.of_get (Ends.of_cells_at ?_))
    refine (((run_ordered_discard_ends hrefuse hchained
      ((List.pairwise_lt_range.filter _).filter _)
      (fun place hplace => Chain.free_of_mem (Chain.ordered_of_rerun hplace))
      (hcalculable.mono fun place => Chain.ordered_of_rerun)).mono_broken
        fun _ ⟨_, _, hbroken⟩ => hbroken.touches).keeping
          (keeps_run_all blind_progress (.inr fun _ => rfl) _ _).discard).bind
            fun _ again hrun => ?_
    obtain ⟨⟨htouches, -⟩, hprogress⟩ := hrun
    exact ends_modify ⟨htouches.trans (.of_eq rfl rfl), hprogress⟩
  · exact ends_pure ⟨.of_eq rfl rfl, rfl⟩

/-- If cycles have converged by an iteration, one iteration less at most leaves them as this
iteration has found them, even if the pass is broken off after that. -/
theorem iterate_converges {grown : Chain} {book : Workbook} (hchained : Chained grown book state)
    (hcalculable : ∀ places, PlacesCalculable state places)
    (hunsettled : state.statistics.converged = false) (count : Nat) :
    let cells := state.chain.circularPlaces.filterMap state.chain.cell?
    let again := runAgain setting state.chain.circularPlaces state.chain.orderedPlaces
    Ends (iterate setting cells setting.options.maxIterations 0 >>= again) state (fun _ => True)
      fun _ after => Reaches (iterate setting cells count 0 >>= again) state fun earlier =>
        after.statistics.completed = true → after.statistics.converged = true →
          1 ≤ after.statistics.iterations ∧
          (after.statistics.iterations = count + 1 → ∃ previous iterated,
            Touches cells state previous ∧ Converged setting previous iterated earlier after) := by
  intro cells again
  refine ((iterate_settles hrefuse (hcalculable _).cells
    (hchained.cells_distinct (List.pairwise_lt_range.filter _)) hunsettled
      setting.options.maxIterations count 0).mono_broken fun _ _ => trivial).bind_apart ?_ ?_
  · rintro finished iterated _ ⟨hiterated, hunconverged⟩
    refine ((run_again_touches hrefuse hiterated.chain (hchained.touches hiterated)
      ((hcalculable _).touches hiterated) finished).mono_broken fun _ _ => trivial).mono ?_
    rintro _ after ⟨-, hprogress⟩ _ hsettled
    rw [(Prod.mk.inj hprogress).2, hunconverged] at hsettled
    cases hsettled
  · intro finished iterated otherFinished previous hrun
    obtain ⟨hiterated, hprevious, -, hconverged⟩ := hrun
    refine ((run_again_touches hrefuse hiterated.chain (hchained.touches hiterated)
      ((hcalculable _).touches hiterated) finished).mono_broken fun _ _ => trivial).mono
        fun _ after hafter => ?_
    obtain ⟨hagain, hprogress⟩ := hafter
    obtain ⟨hiterations, hdone⟩ := Prod.mk.inj hprogress
    -- the other pass changes only what it calculates again, also where that is broken off
    have hother : Reaches (again otherFinished) previous
        (Touches (state.chain.rerunPlaces.filterMap state.chain.cell?) previous) :=
      (run_again_touches hrefuse hprevious.chain (hchained.touches hprevious)
        ((hcalculable _).touches hprevious) otherFinished).mono fun _ _ => And.left
    refine hother.weaken fun earlier hearlier _ hsettled => ?_
    rw [hdone] at hsettled
    rw [hiterations]
    obtain ⟨hfirst, hlast⟩ := hconverged hsettled
    refine ⟨hfirst, fun hcount => ⟨previous, iterated, hprevious, ?_⟩⟩
    rw [← hprevious.chain] at hlast hagain hearlier
    exact ⟨hlast (by omega), hearlier, hagain⟩

/-- If cycles have converged by an iteration, a pass with one iteration less at most leaves them as
this iteration has found them, even if it is broken off after that. -/
theorem run_iterative_converges (hready : Ready state) (count : Nat) :
    Ends (runIterative setting state.chain.circularPlaces state.chain.orderedPlaces) state
      (fun _ => True) fun _ after =>
        Reaches (runIterative (setting.within count) state.chain.circularPlaces
            state.chain.orderedPlaces) state fun earlier =>
          after.statistics.completed = true → after.statistics.converged = true →
            1 ≤ after.statistics.iterations ∧
            (after.statistics.iterations = count + 1 → after.chain.circularPlaces ≠ [] →
              ∃ previous iterated, Touches (state.chain.places.filterMap state.chain.cell?) state
                previous ∧ Converged setting previous iterated earlier after) := by
  unfold runIterative
  simp only [run_all_within, iterate_within]
  refine (ends_cells_at _).bind_both ?_
  rintro _ _ ⟨rfl, rfl⟩
  refine ((run_ordered_ends hrefuse hready.chained (List.pairwise_lt_range.filter _)
    (fun place => Chain.free_of_mem) (hready.places_calculable _)).mono_broken
      fun _ _ => trivial).bind_both fun finished ordered hordered => ?_
  obtain ⟨htouches, -, hcompleted⟩ := hordered
  by_cases hquit : (!finished || state.chain.circularPlaces.isEmpty) = true
  · -- stopped, or there are no cycles
    simp only [if_pos hquit]
    refine ends_modify (ends_modify fun hdone _ => ⟨Nat.le_refl 1, fun _ hsome => ?_⟩)
    have hunfinished : finished = false := by
      rw [← htouches.chain] at hquit
      simpa [show ordered.chain.circularPlaces ≠ [] from hsome] using hquit
    exact absurd hdone (by simp [hcompleted hunfinished])
  · simp only [if_neg hquit]
    refine (ends_count _).bind_both fun _ counted hcounted => ?_
    obtain ⟨hworkbook, hchain, hstatistics⟩ := hcounted
    have hbegun : Touches (state.chain.places.filterMap state.chain.cell?) state counted :=
      (htouches.mono (cells_mono fun place hplace => (List.mem_filter.mp hplace).1)).trans
        (.of_eq hworkbook hchain)
    rw [← hbegun.chain]
    refine (ends_cells_at _).bind_both ?_
    rintro _ _ ⟨rfl, rfl⟩
    refine (iterate_converges hrefuse (hready.chained.touches hbegun)
      (fun places => (hready.places_calculable places).touches hbegun) (by rw [hstatistics])
        count).mono fun _ after hafter => hafter.weaken fun earlier hearlier hdone hsettled => ?_
    obtain ⟨hfirst, hlast⟩ := hearlier hdone hsettled
    refine ⟨hfirst, fun hcount _ => ?_⟩
    obtain ⟨previous, iterated, hprevious, hconverged⟩ := hlast hcount
    refine ⟨previous, iterated, ?_, hconverged⟩
    rw [hbegun.chain] at hprevious ⊢
    exact hbegun.trans (hprevious.mono
      (cells_mono fun place hplace => (List.mem_filter.mp hplace).1))

omit hrefuse in
/-- A full pass that succeeds has got ready to calculate, however many sheets there are. -/
theorem enroll_ends_of_ok {book : Workbook} (hpredictable : Predictable book) {chain : Chain}
    {result : Unit} {after : State}
    (h : (calculateAll setting).run.run (.initial book chain) = (.ok result, after)) :
    Ends (enroll setting) (.initial book chain) broken fun _ ready => Ready ready := by
  obtain ⟨outcome, ready, _, hrun, -, -, -, hready⟩ :=
    together_enroll (rfl : setting.supervision = setting.supervision) rfl hpredictable chain chain
  cases outcome with
  | ok value => exact Or.inl ⟨value, ready, hrun, (hready value rfl).1⟩
  | error failure =>
      rw [calculate_all_eq, ExceptT.run_bind, StateT.run_bind, hrun] at h
      cases h

/-- A full pass that has converged leaves the cells on cycles that read nothing that is calculated
again with what they are worth. -/
theorem calculate_all_converges (hiterative : setting.options.iterative = true)
    (hexact : Number.isZero setting.options.maxChange = true) {book : Workbook} {chain : Chain}
    (henroll : Ends (enroll setting) (.initial book chain) (fun _ => True) fun _ ready =>
      Ready ready) (count : Nat) :
    Ends (calculateAll setting) (.initial book chain) (fun _ => True) fun _ after =>
      Reaches (calculateAll (setting.within count)) (.initial book chain) fun earlier =>
        after.statistics.completed = true → after.statistics.converged = true →
          1 ≤ after.statistics.iterations ∧
          (after.statistics.iterations = count + 1 →
            HoldNumbers after.chain earlier.workbook after.workbook →
            ∀ place ∈ after.chain.circularPlaces, ∀ cell ∈ after.chain.cell? place,
              (∀ target ∈ after.chain.precedentsOf place, target ∉ after.chain.rerunPlaces) →
                SettlesUpToSigns earlier.workbook after.workbook cell ∧
                  Calculable after.workbook cell) := by
  rw [calculate_all_eq, calculate_all_eq, enroll_within]
  refine henroll.bind_both fun _ state hready => ?_
  have hrun : ∀ other : Setting, other.options.iterative = true →
      ∀ (broken : State → Prop) (post : Unit → State → Prop),
      Ends (runIterative other state.chain.circularPlaces state.chain.orderedPlaces) state broken
        post →
      Ends (get >>= fun found => runPlaces other found.chain.places) state broken post := by
    intro other hother broken post h
    unfold runPlaces
    refine Ends.of_get (Ends.of_get ?_)
    rw [if_pos hother]
    exact h
  refine hrun setting hiterative _ _ ((run_iterative_converges hrefuse hready count).mono
    fun _ after hafter => hrun (setting.within count) hiterative _ _ (hafter.weaken
      fun earlier hearlier hdone hsettled => ?_))
  obtain ⟨hfirst, hlast⟩ := hearlier hdone hsettled
  refine ⟨hfirst, fun hcount hnumbers place hplace cell hcell hreads => ?_⟩
  obtain ⟨previous, iterated, hprevious, hconverged⟩ := hlast hcount (List.ne_nil_of_mem hplace)
  have hchain := hconverged.chain
  rw [Option.mem_def, hchain] at hcell
  rw [hchain] at hnumbers hplace hreads
  have hcalculable : Calculable previous.workbook cell := by
    rw [hprevious.chain] at hcell
    exact hprevious.calculable (hready.calculable cell (hready.mem_formula_cells hcell))
  refine ⟨hconverged.settles (hready.chained.touches hprevious) hexact hnumbers hcalculable hplace
    hcell hreads, ?_⟩
  exact hconverged.after.calculable (hconverged.settled.touches.calculable hcalculable)

end Runs

end Pass

/-- When cycles have converged, with no number changing in the last iteration, every cell on a cycle
that reads nothing that is calculated again after it stores what its formula is worth in the
workbook as the pass leaves it. Zeros that the cell reads may have changed their signs in the last
iteration, as this is no change of a number; otherwise nothing is left to doubt. A pass with one
iteration less at most shows what the last iteration has found, and all cells on a cycle have to
hold numbers before and after it. This holds where formulas lead to no volatile function and have
values that depend on nothing but what is scanned from them. Where cells have keys a pass that
nobody stops runs to its end, unless one of the formulas is stuck and breaks it off. -/
theorem calculate_fixpoint (setting : Setting) (hrefuse : setting.supervision.refuseAfter = none)
    (hiterative : setting.options.iterative = true)
    (hexact : Number.isZero setting.options.maxChange = true) (book : Workbook)
    (hpredictable : Predictable book) (chain : Chain) :
    (book.sheetCount ≤ CellId.sheetLimit →
      Concludes setting (calculate setting book chain).1 (calculate setting book chain).2) ∧
    ∀ statistics after, calculate setting book chain = (.ok statistics, after) →
      statistics.completed = true → statistics.converged = true →
        1 ≤ statistics.iterations ∧
        let earlier := (calculate (setting.within (statistics.iterations - 1)) book chain).2
        HoldNumbers after.chain earlier.workbook after.workbook →
          ∀ place ∈ after.chain.circularPlaces, ∀ cell ∈ after.chain.cell? place,
            (∀ target ∈ after.chain.precedentsOf place, target ∉ after.chain.rerunPlaces) →
              SettlesUpToSigns earlier.workbook after.workbook cell ∧
              ((∀ sheet position,
                  (cell.references after.workbook).reads sheet position = true →
                  showsZero earlier.workbook sheet position = true →
                  showsZero after.workbook sheet position = true →
                    earlier.workbook.shown sheet position = after.workbook.shown sheet position) →
                Settles after.workbook cell) := by
  refine ⟨fun hsheets => ?_, fun statistics after hrun hdone hsettled => ?_⟩
  · obtain ⟨outcome, after, hperform, -, hconcludes, -⟩ :=
      calculate_concludes hrefuse hsheets hpredictable chain
    rwa [hperform]
  · obtain ⟨result, hall, rfl⟩ := run_of_perform hrun
    obtain ⟨_, found, hfound, hreached⟩ | ⟨_, hfound, -⟩ := Pass.calculate_all_converges hrefuse
      hiterative hexact (Pass.enroll_ends_of_ok hpredictable hall) (after.statistics.iterations - 1)
    · obtain rfl : after = found := congrArg Prod.snd (hall.symm.trans hfound)
      obtain ⟨hfirst, hlast⟩ := perform_of_reaches hreached hdone hsettled
      refine ⟨hfirst, fun hnumbers place hplace cell hcell hreads => ?_⟩
      obtain ⟨hsettles, hcalculable⟩ := hlast (by omega) hnumbers place hplace cell hcell hreads
      exact ⟨hsettles, hsettles.settles hcalculable⟩
    · cases hall.symm.trans hfound

section Samples

/-- A setting in which cycles are iterated until no number changes, and nobody watches. -/
def exactSetting : Setting := { plainSetting with options := ⟨true, 100, 0.0, true⟩ }

/-- A workbook in which `A1` and `B1` read each other, and `C1` reads `B1`. -/
def loopBook : Workbook :=
  .ofSheet ((((Worksheet.blank "Sheet1").insert ⟨0, 0⟩ (.formula "=IF(TRUE,5,B1)" none)
    ⟨by decide, rfl⟩).insert ⟨0, 1⟩ (.formula "=-A1" none) ⟨by decide, rfl⟩).insert ⟨0, 2⟩
      (.formula "=B1+1" none) ⟨by decide, rfl⟩)

/-- The cycle of this workbook converges by the second iteration, and then its cells store what they
are worth. -/
theorem calculate_fixpoint_of_loop :
    exactSetting.supervision.refuseAfter = none ∧ exactSetting.options.iterative = true ∧
      Number.isZero exactSetting.options.maxChange = true ∧
      Predictable loopBook ∧
      ∃ statistics after, calculate exactSetting loopBook .empty = (.ok statistics, after) ∧
        statistics.completed = true ∧ statistics.converged = true ∧ statistics.iterations = 2 ∧
        HoldNumbers after.chain (calculate (exactSetting.within 1) loopBook .empty).2.workbook
          after.workbook ∧
        after.chain.circularPlaces = [1, 2] ∧
        ∀ place ∈ after.chain.circularPlaces, ∀ cell ∈ after.chain.cell? place,
          Settles after.workbook cell := by
  have hexact : Number.isZero exactSetting.options.maxChange = true := by decide +kernel
  have hpredictable : Predictable loopBook := .of_plain (by decide +kernel)
  refine ⟨rfl, rfl, hexact, hpredictable, ?_⟩
  have hreport : (calculate exactSetting loopBook .empty).1 =
      .ok ⟨3, 3, 2, 2, 0, 0, true, true⟩ := by decide +kernel
  have hnumbers : HoldNumbers (calculate exactSetting loopBook .empty).2.chain
      (calculate (exactSetting.within 1) loopBook .empty).2.workbook
      (calculate exactSetting loopBook .empty).2.workbook := by decide +kernel
  have hplaces : (calculate exactSetting loopBook .empty).2.chain.circularPlaces = [1, 2] := by
    decide +kernel
  have hcells : ∀ place ∈ (calculate exactSetting loopBook .empty).2.chain.circularPlaces,
      ∀ cell ∈ (calculate exactSetting loopBook .empty).2.chain.cell? place,
        (∀ target ∈ (calculate exactSetting loopBook .empty).2.chain.precedentsOf place,
          target ∉ (calculate exactSetting loopBook .empty).2.chain.rerunPlaces) ∧
        (cell.references (calculate exactSetting loopBook .empty).2.workbook).ranges = [] ∧
        ∀ read ∈ (cell.references (calculate exactSetting loopBook .empty).2.workbook).cells,
          showsZero (calculate exactSetting loopBook .empty).2.workbook read.1 read.2 = false := by
    decide +kernel
  obtain ⟨-, hfixpoint⟩ :=
    calculate_fixpoint exactSetting rfl rfl hexact loopBook hpredictable .empty
  obtain ⟨outcome, after, hrun⟩ : ∃ outcome after,
      calculate exactSetting loopBook .empty = (outcome, after) := ⟨_, _, rfl⟩
  rw [hrun] at hreport hnumbers hplaces hcells
  subst hreport
  obtain ⟨-, hsettles⟩ := hfixpoint _ after hrun rfl rfl
  simp only [Nat.reduceSub] at hsettles
  refine ⟨_, after, hrun, rfl, rfl, rfl, hnumbers, hplaces, fun place hplace cell hcell => ?_⟩
  obtain ⟨hreads, hranges, hzeros⟩ := hcells place hplace cell hcell
  refine (hsettles hnumbers place hplace cell hcell hreads).2 fun sheet position hread _ hzero => ?_
  rw [Dependency.References.reads, hranges] at hread
  have hmem : (sheet, position) ∈ (cell.references after.workbook).cells := by simpa using hread
  simp [hzeros _ hmem] at hzero

/-- Whether cycles converge, with numbers in all their cells before and after the last iteration,
but one of these cells does not store what it is worth. -/
def LeavesBehind (setting : Setting) (book : Workbook) : Prop :=
  ∃ statistics after, calculate setting book .empty = (.ok statistics, after) ∧
    statistics.completed = true ∧ statistics.converged = true ∧
    HoldNumbers after.chain
      (calculate (setting.within (statistics.iterations - 1)) book .empty).2.workbook
      after.workbook ∧
    ∃ place ∈ after.chain.circularPlaces, ∃ cell ∈ after.chain.cell? place,
      ¬ Settles after.workbook cell

/-- A pass that has settled on numbers leaves a circular formula behind if the number it shows is
not the one it is worth now. -/
theorem LeavesBehind.of_run {setting : Setting} {book : Workbook} (statistics : Statistics)
    (place : Nat) (hrun : (calculate setting book .empty).1 = .ok statistics)
    (hsettled : statistics.completed = true ∧ statistics.converged = true)
    (hnumbers : HoldNumbers (calculate setting book .empty).2.chain
      (calculate (setting.within (statistics.iterations - 1)) book .empty).2.workbook
      (calculate setting book .empty).2.workbook)
    (hplace : place ∈ (calculate setting book .empty).2.chain.circularPlaces)
    (hdiffers : ∃ cell ∈ (calculate setting book .empty).2.chain.cell? place,
      (resultOf (Pass.evaluateIn setting (calculate setting book .empty).2.workbook 0 cell)).map
          Cell.shownNumber ≠
        ((calculate setting book .empty).2.workbook.result? cell.id.sheet cell.id.position).map
          Cell.shownNumber) :
    LeavesBehind setting book := by
  obtain ⟨cell, hcell, hdiffers⟩ := hdiffers
  refine ⟨statistics, _, Prod.ext hrun rfl, hsettled.1, hsettled.2, hnumbers, place, hplace, cell,
    hcell, fun hsettles => hdiffers ?_⟩
  obtain ⟨result, hvalue, hstored⟩ := hsettles setting 0
  rw [hvalue, hstored]

/-- A workbook in which `C1` reads `B1`, which is on no cycle, and that reads `A1`. Both `A1` and
`C1` read themselves. -/
def betweenBook : Workbook :=
  .ofSheet ((((Worksheet.blank "Sheet1").insert ⟨0, 0⟩ (.formula "=IF(TRUE,5,A1)" none)
    ⟨by decide, rfl⟩).insert ⟨0, 1⟩ (.formula "=A1+1" none) ⟨by decide, rfl⟩).insert ⟨0, 2⟩
      (.formula "=IF(TRUE,B1,C1)" none) ⟨by decide, rfl⟩)

/-- A workbook in which `A1` copies `B1`, which is zero and changes its sign. Both read
themselves. -/
def signBook : Workbook :=
  .ofSheet (((Worksheet.blank "Sheet1").insert ⟨0, 0⟩
    (.formula "=IF(TRUE,B1,A1)" (some (.number 0.0))) ⟨by decide, rfl⟩).insert ⟨0, 1⟩
      (.formula "=-B1" (some (.number 0.0))) ⟨by decide, rfl⟩)

/-- A cell between two cycles is calculated again only after both have converged, which leaves `C1`
at 1 where its formula is worth 6. And where zero has become negative by the last iteration, `A1`
stores the positive one. -/
theorem converged_leaves_behind :
    exactSetting.options.iterative = true ∧
      Number.isZero exactSetting.options.maxChange = true ∧
      exactSetting.supervision = .none ∧
      Predictable betweenBook ∧ LeavesBehind exactSetting betweenBook ∧
      Predictable signBook ∧ LeavesBehind exactSetting signBook := by
  have hbetween : LeavesBehind exactSetting betweenBook :=
    .of_run ⟨3, 3, 2, 2, 0, 0, true, true⟩ 2 (by decide +kernel) ⟨rfl, rfl⟩ (by decide +kernel)
      (by decide +kernel) (by decide +kernel)
  have hsign : LeavesBehind exactSetting signBook :=
    .of_run ⟨2, 2, 1, 2, 0, 0, true, true⟩ 0 (by decide +kernel) ⟨rfl, rfl⟩ (by decide +kernel)
      (by decide +kernel) (by decide +kernel)
  exact ⟨rfl, by decide +kernel, rfl, .of_plain (by decide +kernel), hbetween,
    .of_plain (by decide +kernel), hsign⟩

end Samples

end Calculation

end Spreadsheet
