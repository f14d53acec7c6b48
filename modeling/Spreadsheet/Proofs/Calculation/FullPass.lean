import Spreadsheet.Proofs.Calculation.Completion
import Spreadsheet.Proofs.Calculation.Consistency

/-!
# A full pass

The main theorem, `calculate_consistent`: when a full pass has run to its end, every formula of the
workbook stores the value that it has in this very workbook, except that cycles are refused or
iterated and formulas that cannot be read show `#NAME?`. Only a formula that is stuck, as it looks
up by what is no number, breaks a pass off.
-/

namespace Spreadsheet.Calculation

open Dependency (Chain FormulaCell)
open Formula (FormulaError)

/-- What a full pass has reached when it begins to calculate: the formulas of the workbook are in a
chain that has been put in order. -/
structure Ready (state : State) : Prop where
  calculable : ∀ cell ∈ formulaCells state.workbook, Calculable state.workbook cell
  registered : state.chain.registered.toList = formulaCells state.workbook
  built : state.chain = state.chain.build state.workbook

/-- Whether the formulas of a workbook that cannot be read show that. -/
def UnreadableMarked (book : Workbook) : Prop :=
  ∀ entry ∈ entries book, entry.readable = none →
    book.result? entry.sheet entry.position = some (.error .name)

namespace Ready

/-- Formulas that have been registered only have to be put in order. -/
theorem of_build {book : Workbook} (hpredictable : Predictable book) {before after : State}
    (hregistered : before.chain.registered.toList = formulaCells book)
    (hbefore : before.workbook.inputs = book.inputs) (hafter : after.workbook.inputs = book.inputs)
    (hchain : after.chain = before.chain.build before.workbook) : Ready after := by
  constructor
  case calculable =>
    intro cell hcell
    rw [formula_cells_congr hafter] at hcell
    exact (hpredictable.calculable hcell).congr hafter.symm
  case registered =>
    rw [formula_cells_congr hafter, hchain]
    exact hregistered
  case built =>
    rw [hchain]
    exact (build_build (Workbook.same_frame_of_inputs (hbefore.trans hafter.symm)) _).symm

variable {state : State} (h : Ready state)
include h

/-- A state that is ready is chained over its own workbook. -/
theorem chained : Chained state.chain state.workbook state :=
  chained_of_registered h.registered h.built

/-- The cells of the chain are formulas of the workbook. -/
theorem mem_formula_cells {place : Nat} {cell : FormulaCell}
    (hcell : state.chain.cell? place = some cell) : cell ∈ formulaCells state.workbook := by
  rw [← h.registered]
  exact Chain.mem_registered_of_cell hcell

/-- All places of a ready state can be calculated. -/
theorem places_calculable (places : List Nat) : PlacesCalculable state places :=
  fun _ _ cell hcell => h.calculable cell (h.mem_formula_cells hcell)

/-- A place with a cell is among the places of the chain. -/
theorem mem_places {place : Nat} {cell : FormulaCell}
    (hcell : state.chain.cell? place = some cell) : place ∈ state.chain.places := by
  rw [h.built] at hcell
  exact List.mem_range.mpr (Chain.place_lt_of_cell hcell)

/-- What a pass over all places leaves is consistent as far as the cells have their values. -/
theorem consistent_before (hunreadable : UnreadableMarked state.workbook) {after : State}
    (htouches : Touches (state.chain.places.filterMap state.chain.cell?) state after)
    {iterative : Bool} {limit : Nat}
    (hsettles : ∀ place < limit, ∀ cell, state.chain.cell? place = some cell →
      state.chain.isCircular place = false → Settles after.workbook cell)
    (hrefused : ∀ place cell, state.chain.cell? place = some cell →
      state.chain.isCircular place = true → iterative = false →
        after.workbook.result? cell.id.sheet cell.id.position = some (.error .reference)) :
    ConsistentBefore iterative limit after := by
  constructor
  case registered =>
    rw [htouches.chain, formula_cells_congr htouches.inputs, h.registered]
  case built =>
    rw [htouches.chain, h.built]
    exact (build_build (Workbook.same_frame_of_inputs htouches.inputs.symm) _).symm
  case unreadable =>
    intro entry hentry hnone
    rw [entries_congr htouches.inputs] at hentry
    rw [htouches.others _ _ fun cell hcell => ?_]
    · exact hunreadable entry hentry hnone
    · obtain ⟨place, -, hfound⟩ := List.mem_filterMap.mp hcell
      exact not_is_at_of_unreadable hentry hnone (h.mem_formula_cells hfound)
  case settles =>
    rw [htouches.chain]
    exact hsettles
  case refused =>
    rw [htouches.chain]
    exact hrefused

end Ready

/-- Whether a pass that was broken off has left a cell that is stuck. Unless cycles are iterated,
the cell is on none of them, and the workbook is consistent as far as the cells stand before it. -/
def BrokenOff (iterative : Bool) (state : State) : Prop :=
  ∃ place, StuckAt state place ∧ (iterative = false →
    state.chain.isCircular place = false ∧ ConsistentBefore false place state)

namespace Pass

variable {setting : Setting} {broken : State → Prop}

/-- Counting the chain leaves workbook and chain alone. -/
theorem Ends.of_count_chain {α : Type} {state : State} {goOn : PUnit → Pass α}
    {post : α → State → Prop}
    (h : ∀ counted : State, counted.workbook = state.workbook → counted.chain = state.chain →
      Ends (goOn ⟨⟩) counted broken post) : Ends (countChain >>= goOn) state broken post :=
  h _ rfl rfl

/-- Calculating all places of a chain that holds the formulas of a workbook, and nothing else, makes
the workbook consistent, unless one of the formulas is stuck. -/
theorem run_all_places_ends (hrefuse : setting.supervision.refuseAfter = none) {state : State}
    (hready : Ready state) (hunreadable : UnreadableMarked state.workbook) :
    Ends (runPlaces setting state.chain.places) state
      (fun after => after.workbook.inputs = state.workbook.inputs ∧
        BrokenOff setting.options.iterative after) fun _ after =>
        after.workbook.inputs = state.workbook.inputs ∧
        (after.statistics.completed = true → Consistent setting.options.iterative after) := by
  refine ((run_places_ends hrefuse hready.chained List.pairwise_lt_range
    (hready.places_calculable _)).mono_broken ?_).mono ?_
  · rintro after ⟨place, hbroken⟩
    have htouches := hbroken.touches
    refine ⟨htouches.inputs, place, hbroken.stuck, fun hiterative => ⟨?_, ?_⟩⟩
    · rw [htouches.chain]
      exact hbroken.free hiterative
    · exact hready.consistent_before hunreadable htouches
        (fun other hother cell hcell => hbroken.earlier hiterative other (hready.mem_places hcell)
          hother cell hcell)
        fun other cell hcell hcircle _ => hbroken.refused hiterative other
          (hready.mem_places hcell) cell hcell hcircle
  · rintro _ after ⟨htouches, hresults⟩
    refine ⟨htouches.inputs, fun hdone limit => hready.consistent_before hunreadable htouches
      (fun place _ cell hcell => ?_) fun place cell hcell => ?_⟩
    · exact (hresults hdone place (hready.mem_places hcell) cell hcell).1
    · exact (hresults hdone place (hready.mem_places hcell) cell hcell).2

/-- What a full pass does before it calculates. -/
def enroll (setting : Setting) : Pass Unit := do
  modify fun state => { state with chain := .empty }
  registerSheets setting (List.range (← get).workbook.sheetCount)
  modify fun state => { state with chain := state.chain.build state.workbook }
  countChain

/-- A full pass first enrolls all formulas and then calculates every place of the chain it has
built. -/
theorem calculate_all_eq (setting : Setting) :
    calculateAll setting =
      enroll setting >>= fun _ => get >>= fun state => runPlaces setting state.chain.places := by
  simp only [calculateAll, enroll, bind_assoc]

/-- A full pass begins by registering all formulas and putting them in order. -/
theorem enroll_registers (hrefuse : setting.supervision.refuseAfter = none) {book : Workbook}
    (hsheets : book.sheetCount ≤ CellId.sheetLimit) (chain : Chain) :
    Ends (enroll setting) (.initial book chain) broken fun _ after => ∃ registered,
      Registers (entries book) { State.initial book chain with chain := .empty } registered ∧
        after.workbook = registered.workbook ∧
        after.chain = registered.chain.build registered.workbook := by
  have hregister : Ends (registerSheets setting (List.range book.sheetCount))
      { State.initial book chain with chain := .empty } broken fun _ after =>
        Registers (entries book) { State.initial book chain with chain := .empty } after :=
    register_sheets_ends hrefuse rfl _ (fun _ => entries_stand hsheets) (entries_fresh book)
  exact Ends.of_modify (Ends.of_get (hregister.bind fun _ registered hregistered =>
    Ends.of_modify (ends_modify ⟨registered, hregistered, rfl, rfl⟩)))

/-- Enrolling the formulas of a predictable workbook changes no input and ends in a ready state in
which every unreadable formula is marked. -/
theorem enroll_ends (hrefuse : setting.supervision.refuseAfter = none) {book : Workbook}
    (hsheets : book.sheetCount ≤ CellId.sheetLimit) (hpredictable : Predictable book)
    (chain : Chain) :
    Ends (enroll setting) (.initial book chain) broken fun _ after =>
      after.workbook.inputs = book.inputs ∧ Ready after ∧ UnreadableMarked after.workbook := by
  refine (enroll_registers hrefuse hsheets chain).mono ?_
  intro _ after ⟨registered, hregistered, hworkbook, hchain⟩
  have hinputs : after.workbook.inputs = book.inputs := by
    rw [hworkbook]
    exact hregistered.inputs
  refine ⟨hinputs, ?_, fun entry hentry hnone => ?_⟩
  · exact .of_build hpredictable hregistered.registered hregistered.inputs hinputs hchain
  · rw [entries_congr hinputs] at hentry
    rw [hworkbook]
    exact hregistered.unreadable entry hentry hnone

/-- A full pass makes a workbook consistent, unless one of the formulas is stuck. -/
theorem calculate_all_ends (hrefuse : setting.supervision.refuseAfter = none) {book : Workbook}
    (hsheets : book.sheetCount ≤ CellId.sheetLimit) (hpredictable : Predictable book)
    (chain : Chain) :
    Ends (calculateAll setting) (.initial book chain)
      (fun after => after.workbook.inputs = book.inputs ∧
        BrokenOff setting.options.iterative after) fun _ after =>
        after.workbook.inputs = book.inputs ∧
        (after.statistics.completed = true → Consistent setting.options.iterative after) := by
  rw [calculate_all_eq]
  refine (enroll_ends hrefuse hsheets hpredictable chain).bind fun _ ready hready => Ends.of_get ?_
  obtain ⟨hinputs, hready, hunreadable⟩ := hready
  exact ((run_all_places_ends hrefuse hready hunreadable).mono_broken fun _ hbroken =>
    ⟨hbroken.1.trans hinputs, hbroken.2⟩).mono fun _ _ hafter => ⟨hafter.1.trans hinputs, hafter.2⟩

end Pass

/-- A pass that ends without failure reports its statistics, and one that is broken off says so. -/
theorem perform_of_ends {pass : Pass Unit} {book : Workbook} {chain : Chain}
    {broken : State → Prop} {post : Unit → State → Prop}
    (h : pass.Ends (.initial book chain) broken post) :
    ∃ outcome after, perform pass book chain = (outcome, after) ∧
      (outcome = .ok after.statistics ∧ post ⟨⟩ after ∨
        outcome = .error .indexNotNumber ∧ broken after) := by
  rcases h with ⟨_, after, hrun, hpost⟩ | ⟨after, hrun, hbroken⟩
  · exact ⟨.ok after.statistics, after, by rw [perform, hrun]; rfl, .inl ⟨rfl, hpost⟩⟩
  · exact ⟨.error .indexNotNumber, after, by rw [perform, hrun]; rfl, .inr ⟨rfl, hbroken⟩⟩

/-- Whether a pass has reported that it ran to its end. -/
def Finishes (outcome : Except FormulaError Statistics) : Prop :=
  ∃ statistics, outcome = .ok statistics ∧ statistics.completed = true

/-- How a pass ends whose results nobody refuses: with a report, which is that it ran to its end
unless it was to be stopped, or broken off at a formula that is stuck in the workbook as it is
left. -/
def Concludes (setting : Setting) (outcome : Except FormulaError Statistics) (after : State) :
    Prop :=
  (∃ statistics, outcome = .ok statistics ∧
      (setting.supervision.stopAfter = none → statistics.completed = true)) ∨
    outcome = .error .indexNotNumber ∧ BrokenOff setting.options.iterative after

namespace Concludes

variable {setting : Setting} {outcome : Except FormulaError Statistics} {after : State}

/-- A pass that was broken off has left a cell that is stuck. -/
theorem broken_off (h : Concludes setting outcome after)
    (hstopped : outcome = .error .indexNotNumber) :
    BrokenOff setting.options.iterative after := by
  rcases h with ⟨_, hreport, -⟩ | ⟨-, hbroken⟩
  · cases hstopped.symm.trans hreport
  · exact hbroken

/-- A pass that makes a workbook consistent, unless a formula is stuck, comes to one of the two. -/
theorem of_ends {pass : Pass Unit} {book : Workbook} {chain : Chain}
    (hends : pass.Ends (.initial book chain)
      (fun after => after.workbook.inputs = book.inputs ∧
        BrokenOff setting.options.iterative after) fun _ after =>
        after.workbook.inputs = book.inputs ∧
        (after.statistics.completed = true → Consistent setting.options.iterative after))
    (hcompleted : setting.supervision.stopAfter = none →
      (perform pass book chain).2.statistics.completed = true) :
    ∃ outcome after, perform pass book chain = (outcome, after) ∧
      after.workbook.inputs = book.inputs ∧ Concludes setting outcome after ∧
      (Finishes outcome → Consistent setting.options.iterative after) := by
  obtain ⟨outcome, after, hperform, ⟨rfl, hinputs, hconsistent⟩ | ⟨rfl, hinputs, hbroken⟩⟩ :=
    perform_of_ends hends
  · rw [hperform] at hcompleted
    refine ⟨_, after, hperform, hinputs, .inl ⟨_, rfl, hcompleted⟩, ?_⟩
    rintro ⟨_, hreport, hdone⟩
    obtain rfl := Except.ok.inj hreport
    exact hconsistent hdone
  · exact ⟨_, after, hperform, hinputs, .inr ⟨rfl, hbroken⟩, fun ⟨_, hreport, _⟩ => nomatch hreport⟩

end Concludes

/-- A full pass that finishes leaves a consistent workbook. -/
theorem calculate_concludes {setting : Setting} (hrefuse : setting.supervision.refuseAfter = none)
    {book : Workbook} (hsheets : book.sheetCount ≤ CellId.sheetLimit)
    (hpredictable : Predictable book) (chain : Chain) :
    ∃ outcome after, calculate setting book chain = (outcome, after) ∧
      after.workbook.inputs = book.inputs ∧ Concludes setting outcome after ∧
      (Finishes outcome → Consistent setting.options.iterative after) :=
  Concludes.of_ends (Pass.calculate_all_ends hrefuse hsheets hpredictable chain)
    fun hunstopped => completed_of_calculate hunstopped rfl

/-- What a pass that ran to its end leaves of a formula. -/
structure Entry.Calculated (iterative : Bool) (state : State) (entry : Entry) : Prop where
  unreadable : ∀ refusal, Pass.tokensOfExpr entry.source = .error refusal →
    state.workbook.result? entry.sheet entry.position = some (.error .name)
  readable : ∀ tokens, Pass.tokensOfExpr entry.source = .ok tokens →
    ∃ place cell, state.chain.cell? place = some cell ∧
      FormulaCell.of entry.sheet entry.position tokens = .ok cell ∧
      (state.chain.isCircular place = false → Settles state.workbook cell) ∧
      (state.chain.isCircular place = true → iterative = false →
        state.workbook.result? entry.sheet entry.position = some (.error .reference))

/-- In a consistent state every formula of the workbook is calculated, whether it is ordered,
circular or unreadable. -/
theorem Consistent.calculated {iterative : Bool} {state : State} (h : Consistent iterative state)
    (hsheets : state.workbook.sheetCount ≤ CellId.sheetLimit) {entry : Entry}
    (hentry : entry ∈ entries state.workbook) : entry.Calculated iterative state := by
  rcases entry.readable_cases (entries_stand hsheets hentry) with
    ⟨⟨refusal, hrefusal⟩, hnone⟩ | ⟨tokens, cell, htokens, hcell, -, hat, hreadable⟩
  · exact ⟨fun _ _ => h.unreadable hentry hnone,
      fun _ htokens => by simp [hrefusal] at htokens⟩
  · refine ⟨fun _ hrefusal => by simp [htokens] at hrefusal, fun found hfound => ?_⟩
    obtain rfl : tokens = found := Except.ok.inj (htokens.symm.trans hfound)
    obtain ⟨place, hplace⟩ : ∃ place, state.chain.cell? place = some cell := by
      have hmem : cell ∈ formulaCells state.workbook :=
        List.mem_filterMap.mpr ⟨entry, hentry, hreadable⟩
      rw [← h.registered] at hmem
      rw [h.built]
      exact Chain.exists_place_of_mem hmem
    refine ⟨place, cell, hplace, hcell, h.settles hplace, fun hcircle hiterative => ?_⟩
    rw [← hat.1, ← hat.2]
    exact h.refused hplace hcircle hiterative

/-- A full pass leaves what was put into the workbook alone and, if it runs to its end, every
formula calculated. This holds where formulas lead to no volatile function and have values that
depend on nothing but what is scanned from them. A pass that nobody stops runs to its end, unless
one of the formulas is stuck in the workbook as the pass leaves it: only then it is broken off. -/
theorem calculate_consistent (setting : Setting) (hrefuse : setting.supervision.refuseAfter = none)
    (book : Workbook) (hsheets : book.sheetCount ≤ CellId.sheetLimit)
    (hpredictable : Predictable book) (chain : Chain) :
    ∃ outcome after, calculate setting book chain = (outcome, after) ∧
      after.workbook.inputs = book.inputs ∧ Concludes setting outcome after ∧
      (Finishes outcome → ∀ sheet position source,
        (position, source) ∈ after.workbook.formulas sheet →
          Entry.Calculated setting.options.iterative after ⟨sheet, position, source⟩) := by
  obtain ⟨outcome, after, hperform, hinputs, hconcludes, hconsistent⟩ :=
    calculate_concludes hrefuse hsheets hpredictable chain
  refine ⟨outcome, after, hperform, hinputs, hconcludes,
    fun hfinishes sheet position source hmem => ?_⟩
  refine (hconsistent hfinishes).calculated ?_
    (mem_entries_iff.mpr (Workbook.mem_formulas_iff.mp hmem))
  rw [Workbook.sheet_count_eq hinputs]
  exact hsheets

section Samples

/-- A workbook with a text in `A1` and a copy of it in `B1`. -/
def copyBook : Workbook :=
  .ofSheet (((Worksheet.blank "Sheet1").insert ⟨0, 0⟩ (.text "x") ⟨by decide, rfl⟩).insert ⟨0, 1⟩
    (.formula "=A1" none) ⟨by decide, rfl⟩)

/-- A setting in which nothing is iterated and nobody watches. -/
def plainSetting : Setting := ⟨.usual, .none, default, default⟩

/-- The copy is read off the text, and off nothing else. -/
theorem predictable_copy_book : Predictable copyBook := .of_plain (by decide +kernel)

/-- No lookup breaks a pass over this workbook off. -/
theorem report_of_copy_book :
    (calculate plainSetting copyBook .empty).1 = .ok ⟨1, 1, 1, 0, 0, 0, true, true⟩ := by
  decide +kernel

/-- A full pass over this workbook runs to its end and leaves the copy calculated. -/
theorem calculate_consistent_of_copy :
    plainSetting.supervision.refuseAfter = none ∧ copyBook.sheetCount ≤ CellId.sheetLimit ∧
      Predictable copyBook ∧
      ∃ statistics after, calculate plainSetting copyBook .empty = (.ok statistics, after) ∧
        statistics.completed = true ∧ Entry.Calculated false after ⟨0, ⟨0, 1⟩, "=A1"⟩ := by
  have hsheets : copyBook.sheetCount ≤ CellId.sheetLimit := by decide
  refine ⟨rfl, hsheets, predictable_copy_book, ?_⟩
  obtain ⟨outcome, after, hrun, hinputs, -, hcalculated⟩ :=
    calculate_consistent plainSetting rfl copyBook hsheets predictable_copy_book .empty
  have hreport := report_of_copy_book
  rw [hrun] at hreport
  subst hreport
  refine ⟨_, after, hrun, rfl, hcalculated ⟨_, rfl, rfl⟩ 0 ⟨0, 1⟩ _ ?_⟩
  rw [Workbook.formulas_eq hinputs]
  exact Workbook.mem_formulas_iff.mpr rfl

end Samples

end Spreadsheet.Calculation
