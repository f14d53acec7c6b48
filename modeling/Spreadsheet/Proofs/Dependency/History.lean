import Spreadsheet.Proofs.Dependency.Roster

/-!
# Histories of a chain

Any mixture of registering cells and putting them in order, from a chain without cells on. The
roster of a history is compared with the chain that has gone through the same history, one step at
a time. The main theorem, `history_spec`, says that after any history a roster is in order and
answers as the chain does, that it takes new cells and refuses the others, and that a build forgets
everything but which cells were accepted, and in which order.
-/

namespace Spreadsheet.Dependency

open Chain

/-- What can happen to a chain: a cell is registered, or the cells are put in order. -/
inductive Step where
  | add (cell : FormulaCell)
  | build (book : Workbook)

/-- A roster after a step, and the cells that it has accepted in their order. -/
def Roster.advance (state : Roster × List FormulaCell) : Step → Roster × List FormulaCell
  | .add cell =>
    match state.1.add cell with
    | (.ok _, grown) => (grown, state.2 ++ [cell])
    | (.error _, same) => (same, state.2)
  | .build book => (state.1.build book, state.2)

/-- A roster after steps from an empty one, and the cells that it has accepted. -/
def Roster.history (steps : List Step) : Roster × List FormulaCell :=
  steps.foldl advance (.empty, [])

/-- A chain after a step. -/
def Chain.advance (chain : Chain) : Step → Chain
  | .add cell =>
    match chain.add cell with
    | .ok (_, grown) => grown
    | .error _ => chain
  | .build book => chain.build book

/-- A chain after steps from an empty one. -/
def Chain.history (steps : List Step) : Chain := steps.foldl advance .empty

/-- Whether no cell is on a roster twice, and every cell carries the place at which it stands and is
found there. -/
structure Roster.Sound (roster : Roster) : Prop where
  nodup : (roster.records.map fun record => record.cell.id).Nodup
  index : ∀ (place : Nat) (record : Record),
    roster.records[place]? = some record → record.index = place
  position : ∀ id place, roster.position? id = some place ↔
    ∃ record, roster.records[place]? = some record ∧ record.cell.id = id

/-- Whether a roster answers as a chain does. -/
structure Roster.Agrees (roster : Roster) (chain : Chain) : Prop where
  cells : roster.records.map Record.cell = chain.cells
  index : ∀ (place : Nat) (record : Record), roster.records[place]? = some record →
    record.index = chain.indexOfNumber (chain.registration place)
  position : ∀ id, roster.position? id = chain.place? id
  add : ∀ cell, (roster.add cell).1 = (chain.add cell).map Prod.fst
  precedents : ∀ place, roster.precedentsOf place = chain.precedentsOf place
  dependents : ∀ place, roster.dependentsOf place = chain.dependentsOf place
  circular : ∀ place, roster.isCircular place = chain.isCircular place
  volatile : ∀ place, roster.isVolatile place = chain.isVolatile place

/-- Adding a cell that is in the chain is refused, and the refusal names the cell. -/
theorem Chain.add_eq_error {chain : Chain} {cell : FormulaCell}
    (h : ∃ other ∈ chain.registered.toList, other.id = cell.id) :
    chain.add cell = .error (.contract (.alreadyChained cell.id.render)) := by
  refine if_pos ?_
  obtain ⟨other, hmem, hid⟩ := h
  rw [← Array.any_toList, List.any_eq_true]
  exact ⟨other, hmem, beq_iff_eq.mpr hid⟩

/-- Adding a cell that is not in the chain puts it behind the others. -/
theorem Chain.add_eq_push {chain : Chain} {cell : FormulaCell}
    (h : ∀ other ∈ chain.registered.toList, other.id ≠ cell.id) :
    chain.add cell = .ok (chain.size, chain.push cell) :=
  add_eq_ok_iff.mpr ⟨h, rfl, rfl⟩

section Shown

variable {roster : Roster} {chain : Chain}

/-- A roster that shows a chain of distinct cells is sound. -/
theorem Roster.Shows.sound (h : roster.Shows chain) (hlaid : chain.Laid)
    (hdistinct : chain.Distinct) : roster.Sound where
  nodup := h.records.nodup hlaid hdistinct
  index place record hrecord := by
    rw [h.records] at hrecord
    obtain ⟨cell, -, rfl⟩ := Option.map_eq_some_iff.mp hrecord
    rfl
  position id place := by
    rw [h.positions, h.records]
    constructor
    · intro ⟨cell, hcell, hid⟩
      exact ⟨_, by rw [hcell]; rfl, hid⟩
    · intro ⟨record, hrecord, hid⟩
      obtain ⟨cell, hcell, rfl⟩ := Option.map_eq_some_iff.mp hrecord
      exact ⟨cell, hcell, hid⟩

/-- A roster that shows a chain of distinct cells agrees with it. -/
theorem Roster.Shows.agrees (h : roster.Shows chain) (hlaid : chain.Laid)
    (hdistinct : chain.Distinct) : roster.Agrees chain where
  cells := h.records.cells hlaid
  index place record hrecord := by
    rw [h.records] at hrecord
    obtain ⟨cell, hcell, rfl⟩ := Option.map_eq_some_iff.mp hrecord
    exact (hlaid.index place (hlaid.place_lt hcell)).symm
  position id :=
    Option.ext fun place => (h.positions id place).trans (hlaid.place_iff hdistinct).symm
  add cell := by
    by_cases hknown : ∃ other ∈ chain.registered.toList, other.id = cell.id
    · rw [h.add_refused hlaid hknown, add_eq_error hknown]
      rfl
    · have hnew : ∀ other ∈ chain.registered.toList, other.id ≠ cell.id :=
        fun other hmem hid => hknown ⟨other, hmem, hid⟩
      rw [(h.add_accepted hlaid hnew).1, add_eq_push hnew]
      rfl
  precedents place := congrArg (listed · place) h.precedents
  dependents place := congrArg (listed · place) h.dependents
  circular place := congrArg (fun table : Array Bool => (table[place]?).getD false) h.circular
  volatile place :=
    congrArg (fun table : Array References => (table[place]?).any References.isVolatile)
      h.references

end Shown

/-- What is known of a roster with the cells it has accepted, and of the chain beside it. -/
structure Tracks (state : Roster × List FormulaCell) (chain : Chain) : Prop where
  shows : state.1.Shows chain
  laid : chain.Laid
  grown : Grown state.2 chain

namespace Tracks

variable {state : Roster × List FormulaCell} {chain : Chain}

/-- The empty chain has accepted nothing. -/
theorem empty : Tracks (.empty, []) .empty :=
  ⟨.of_empty, laid_empty, .empty⟩

/-- The cells of a chain with a history are distinct. -/
theorem distinct (h : Tracks state chain) : chain.Distinct := h.grown.registered.2

/-- A chain holds exactly the cells that were accepted. -/
theorem mem_accepted_iff (h : Tracks state chain) {cell : FormulaCell} :
    cell ∈ chain.registered.toList ↔ cell ∈ state.2 := by
  rw [h.grown.registered.1]

/-- Roster and chain take a new cell. -/
theorem add_accepted (h : Tracks state chain) {cell : FormulaCell}
    (hnew : ∀ other ∈ state.2, other.id ≠ cell.id) :
    (Roster.advance state (.add cell)).2 = state.2 ++ [cell] ∧
      Tracks (Roster.advance state (.add cell)) (chain.advance (.add cell)) := by
  have hfree : ∀ other ∈ chain.registered.toList, other.id ≠ cell.id :=
    fun other hmem => hnew other (h.mem_accepted_iff.mp hmem)
  obtain ⟨hplace, hshows⟩ := h.shows.add_accepted h.laid hfree
  have hgrows := add_eq_push hfree
  have hroster : Roster.advance state (.add cell) = ((state.1.add cell).2, state.2 ++ [cell]) := by
    rcases hadd : state.1.add cell with ⟨answer, grown⟩
    rw [hadd] at hplace
    obtain rfl : answer = .ok chain.size := hplace
    simp only [Roster.advance, hadd]
  have hchain : chain.advance (.add cell) = chain.push cell := by
    simp only [Chain.advance, hgrows]
  rw [hroster, hchain]
  exact ⟨rfl, hshows, h.laid.push cell, h.grown.add hgrows⟩

/-- Roster and chain refuse a cell they have. -/
theorem add_refused (h : Tracks state chain) {cell : FormulaCell}
    (hknown : ∃ other ∈ state.2, other.id = cell.id) :
    Roster.advance state (.add cell) = state ∧ chain.advance (.add cell) = chain := by
  obtain ⟨other, hother, hid⟩ := hknown
  have hmem : other ∈ chain.registered.toList := h.mem_accepted_iff.mpr hother
  constructor
  · simp only [Roster.advance, h.shows.add_refused h.laid ⟨other, hmem, hid⟩]
  · simp only [Chain.advance, add_eq_error ⟨other, hmem, hid⟩]

/-- A step keeps a roster and its chain together. -/
theorem advance (h : Tracks state chain) (step : Step) :
    Tracks (Roster.advance state step) (chain.advance step) := by
  cases step with
  | build book =>
      exact ⟨h.shows.buildBy h.laid h.distinct _, laid_build chain _, h.grown.build _⟩
  | add cell =>
      by_cases hknown : ∃ other ∈ state.2, other.id = cell.id
      · obtain ⟨hroster, hchain⟩ := h.add_refused hknown
        rw [hroster, hchain]
        exact h
      · refine (h.add_accepted fun other hmem hid => ?_).2
        exact hknown ⟨other, hmem, hid⟩

/-- Steps keep a roster and its chain together. -/
theorem run (h : Tracks state chain) (steps : List Step) :
    Tracks (steps.foldl Roster.advance state) (steps.foldl Chain.advance chain) := by
  induction steps generalizing state chain with
  | nil => exact h
  | cons step rest ih => exact ih (h.advance step)

/-- Distinct cells are all accepted. -/
theorem run_adds (h : Tracks state chain) (cells : List FormulaCell)
    (hdistinct : ((state.2 ++ cells).map FormulaCell.id).Nodup) :
    ((cells.map Step.add).foldl Roster.advance state).2 = state.2 ++ cells := by
  induction cells generalizing state chain with
  | nil => exact (List.append_nil _).symm
  | cons cell rest ih =>
      have hnew : ∀ other ∈ state.2, other.id ≠ cell.id := by
        intro other hmem hid
        rw [List.map_append, List.nodup_append] at hdistinct
        exact hdistinct.2.2 _ (List.mem_map_of_mem hmem) _ (by simp) hid
      obtain ⟨haccepted, hnext⟩ := h.add_accepted hnew
      have hsplit : state.2 ++ cell :: rest = (state.2 ++ [cell]) ++ rest := by simp
      rw [List.map_cons, List.foldl_cons, ih hnext (by rwa [haccepted, ← hsplit]), haccepted,
        hsplit]

end Tracks

/-- After every history the chain holds what the roster has accepted. -/
theorem tracks_history (steps : List Step) :
    Tracks (Roster.history steps) (Chain.history steps) :=
  Tracks.empty.run steps

/-- What building gives depends on the cells that were accepted alone. -/
theorem Tracks.build_eq {left right : Roster × List FormulaCell} {leftChain rightChain : Chain}
    (hleft : Tracks left leftChain) (hright : Tracks right rightChain) (hsame : left.2 = right.2)
    (book : Workbook) :
    left.1.build book = right.1.build book ∧ leftChain.build book = rightChain.build book := by
  have hregistered : leftChain.registered = rightChain.registered := by
    refine Array.toList_inj.mp ?_
    rw [hleft.grown.registered.1, hright.grown.registered.1, hsame]
  have hbuilt : leftChain.build book = rightChain.build book := by
    rw [Chain.build, Chain.build, buildBy, buildBy, hregistered]
  have hshows := hleft.shows.buildBy hleft.laid hleft.distinct (FormulaCell.references book)
  refine ⟨hshows.unique ?_, hbuilt⟩
  show (right.1.buildBy _).Shows (leftChain.build book)
  rw [hbuilt]
  exact hright.shows.buildBy hright.laid hright.distinct _

/-- After any mixture of additions and builds a roster is in order and answers as the chain beside
it. It refuses a cell that it has, without any change, and puts any other cell behind the rest. A
build makes of it what it makes of a fresh roster that takes the accepted cells in their order. -/
theorem history_spec (steps : List Step) (book : Workbook) :
    let roster := (Roster.history steps).1
    let accepted := (Roster.history steps).2
    let fresh := Roster.history (accepted.map .add)
    roster.Sound ∧ roster.Agrees (Chain.history steps) ∧
    (∀ cell : FormulaCell,
      if (roster.position? cell.id).isSome then
        roster.add cell = (.error (.contract (.alreadyChained cell.id.render)), roster)
      else (roster.add cell).1 = .ok roster.records.length) ∧
    fresh.2 = accepted ∧ roster.build book = fresh.1.build book ∧
    (Chain.history steps).build book = (Chain.history (accepted.map .add)).build book := by
  intro roster accepted fresh
  have h := tracks_history steps
  have hdistinct : (accepted.map FormulaCell.id).Nodup := by
    show ((Roster.history steps).2.map FormulaCell.id).Nodup
    rw [← h.grown.registered.1]
    exact h.distinct
  have hfresh : fresh.2 = accepted := Tracks.empty.run_adds accepted hdistinct
  refine ⟨h.shows.sound h.laid h.distinct, h.shows.agrees h.laid h.distinct, fun cell => ?_, hfresh,
    h.build_eq (tracks_history _) hfresh.symm book⟩
  have hknown := h.shows.is_some_position_iff h.laid cell.id
  split
  · exact h.shows.add_refused h.laid (hknown.mp ‹_›)
  · rw [h.shows.length_eq h.laid]
    refine (h.shows.add_accepted h.laid fun other hmem hid => ?_).1
    exact ‹¬ _› (hknown.mpr ⟨other, hmem, hid⟩)

/-- A cell that is registered after a build is put before the cell that reads it by the next build,
and is refused the second time. -/
example :
    let reader : FormulaCell := ⟨⟨0⟩, [.cell ⟨0, 1, false, false⟩]⟩
    let read : FormulaCell := ⟨⟨1⟩, [.text "five"]⟩
    let steps := [.add reader, .build .new, .add read, .add read, .build .new]
    let roster := (Roster.history steps).1
    roster.records.map Record.number = [1, 0] ∧ roster.precedentsOf 1 = [0] ∧
      (Roster.history steps).2.map FormulaCell.id = [⟨0⟩, ⟨1⟩] := by
  cbv

end Spreadsheet.Dependency
