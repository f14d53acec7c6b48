import Spreadsheet.Proofs.Calculation.Pass
import Spreadsheet.Proofs.Dependency.Change

/-!
# Calculating places of a chain

A pass calculates places of a chain that has been put in order: those on no cycle in their order,
and the others by refusal or iteration. The main theorem, `run_places_ends`, says with what results
this leaves the cells at these places, also where one of them is stuck and breaks the pass off.
-/

namespace Spreadsheet.Calculation

open Dependency (Chain FormulaCell)

/-- Whether a state works on a chain that was put in order over the names and sheets of its
workbook. -/
structure Chained (grown : Chain) (book : Workbook) (state : State) : Prop where
  distinct : grown.Distinct
  chain : state.chain = grown.build book
  frame : book.SameFrame state.workbook

namespace Chained

variable {grown : Chain} {book : Workbook} {state after : State}

/-- Storing results leaves a chain chained. -/
theorem touches (h : Chained grown book state) {cells : List FormulaCell}
    (htouches : Touches cells state after) : Chained grown book after :=
  ⟨h.distinct, htouches.chain.trans h.chain,
    h.frame.trans (Workbook.same_frame_of_inputs htouches.inputs.symm)⟩

/-- A cell reads another one where the place of that is among its precedents. -/
theorem reads_iff (h : Chained grown book state) {place target : Nat} {cell read : FormulaCell}
    (hcell : state.chain.cell? place = some cell) (hread : state.chain.cell? target = some read) :
    (cell.references state.workbook).reads read.id.sheet read.id.position = true ↔
      target ∈ state.chain.precedentsOf place := by
  have hreferences : cell.references state.workbook = cell.references book :=
    (h.frame.references _ _).symm
  rw [h.chain] at hcell hread ⊢
  rw [Chain.build, h.distinct.mem_precedents_iff, hreferences]
  constructor
  · exact fun hreads => ⟨cell, read, hcell, hread, hreads⟩
  · rintro ⟨found, other, hfound, hother, hreads⟩
    obtain rfl : cell = found := Option.some.inj (hcell.symm.trans hfound)
    obtain rfl : read = other := Option.some.inj (hread.symm.trans hother)
    exact hreads

/-- One cell has one place in a chain. -/
theorem place_unique (h : Chained grown book state) {left right : Nat} {first second : FormulaCell}
    (hfirst : state.chain.cell? left = some first) (hsecond : state.chain.cell? right = some second)
    (hid : first.id = second.id) : left = right := by
  rw [h.chain] at hfirst hsecond
  exact h.distinct.place_unique hfirst hsecond hid

/-- Places on no cycle, in their order, hold cells none of which reads itself or a later one. -/
theorem ordered (h : Chained grown book state) {places : List Nat}
    (hsorted : places.Pairwise (· < ·))
    (hfree : ∀ place ∈ places, state.chain.isCircular place = false) :
    Pass.Ordered state.workbook (places.filterMap state.chain.cell?) := by
  have hnone : ∀ place ∈ places, ∀ target ∈ places, place ≤ target → ∀ cell read,
      state.chain.cell? place = some cell → state.chain.cell? target = some read →
      (cell.references state.workbook).reads read.id.sheet read.id.position = false := by
    intro place hplace target htarget hle cell read hcell hread
    by_contra hreads
    have hmem := (h.reads_iff hcell hread).mp (by simpa using hreads)
    have hplaceFree := hfree place hplace
    have htargetFree := hfree target htarget
    rw [h.chain] at hmem hplaceFree htargetFree
    have hlt := Chain.lt_of_mem_precedents hmem hplaceFree htargetFree
    omega
  constructor
  · intro cell hcell
    obtain ⟨place, hplace, hfound⟩ := List.mem_filterMap.mp hcell
    exact hnone place hplace place hplace le_rfl cell cell hfound hfound
  · refine List.Pairwise.filterMap _ ?_
      (List.Pairwise.and_mem.mp hsorted)
    rintro left right ⟨hleft, hright, hlt⟩ first hfirst second hsecond
    refine ⟨fun hid => ?_, hnone left hleft right hright (by omega) first second hfirst hsecond⟩
    have hsame := h.place_unique hfirst hsecond hid.symm
    omega

/-- A cell does not stand where cells at other places do. -/
theorem not_is_at (h : Chained grown book state) {place : Nat} {cell : FormulaCell}
    (hcell : state.chain.cell? place = some cell) {places : List Nat} (hout : place ∉ places) :
    ∀ other ∈ places.filterMap state.chain.cell?, ¬ other.IsAt cell.id.sheet cell.id.position := by
  intro other hother hat
  obtain ⟨elsewhere, helsewhere, hfound⟩ := List.mem_filterMap.mp hother
  obtain rfl := h.place_unique hfound hcell (CellId.eq_of_place_eq hat.1 hat.2)
  exact hout helsewhere

/-- A cell keeps its result while other places are touched. -/
theorem result_eq (h : Chained grown book state) {places : List Nat}
    (htouches : Touches (places.filterMap state.chain.cell?) state after) {place : Nat}
    {cell : FormulaCell} (hcell : state.chain.cell? place = some cell) (hout : place ∉ places) :
    after.workbook.result? cell.id.sheet cell.id.position =
      state.workbook.result? cell.id.sheet cell.id.position :=
  htouches.others _ _ (h.not_is_at hcell hout)

/-- A cell keeps its value while places are touched that it does not read and at which it does not
stand. -/
theorem settles (h : Chained grown book state) {places : List Nat}
    (htouches : Touches (places.filterMap state.chain.cell?) state after) {place : Nat}
    {cell : FormulaCell} (hcell : state.chain.cell? place = some cell)
    (hcalculable : Calculable state.workbook cell) (hsettles : Settles state.workbook cell)
    (hout : place ∉ places) (hunread : ∀ other ∈ places, other ∉ state.chain.precedentsOf place) :
    Settles after.workbook cell := by
  refine htouches.settles hcalculable hsettles (fun other hother => ?_) fun other hother hid => ?_
  · obtain ⟨elsewhere, helsewhere, hfound⟩ := List.mem_filterMap.mp hother
    have hnot := (h.reads_iff hcell hfound).not.mpr (hunread elsewhere helsewhere)
    simpa using hnot
  · refine h.not_is_at hcell hout other hother ?_
    rw [← hid]
    exact ⟨rfl, rfl⟩

/-- A cell on no cycle and downstream of none keeps its value while the cycles are iterated and what
is downstream of them is calculated again. -/
theorem settles_of_not_downstream (h : Chained grown book state) {circular ordered : List Nat}
    {iterated : State} (hiterated : Touches (circular.filterMap state.chain.cell?) state iterated)
    (hafter : Touches ((state.chain.downstream circular ordered).filterMap state.chain.cell?)
      iterated after)
    {place : Nat} {cell : FormulaCell} (hcell : state.chain.cell? place = some cell)
    (hcalculable : Calculable state.workbook cell) (hsettles : Settles state.workbook cell)
    (hordered : place ∈ ordered) (hcircular : place ∉ circular)
    (hout : place ∉ state.chain.downstream circular ordered) : Settles after.workbook cell := by
  have hkept : Settles iterated.workbook cell := by
    refine h.settles hiterated hcell hcalculable hsettles hcircular fun source hsource => ?_
    rw [h.chain] at hout ⊢
    exact Chain.not_mem_precedents_of_source hordered hout hsource
  rw [← hiterated.chain] at hcell hafter hout
  refine (h.touches hiterated).settles hafter hcell (hiterated.calculable hcalculable) hkept hout
    fun other hother => ?_
  rw [hiterated.chain, h.chain] at hout hother ⊢
  exact Chain.not_mem_precedents_of_downstream hordered hout hother

end Chained

/-- Fewer places have no other cells. -/
theorem cells_mono {chain : Chain} {fewer places : List Nat}
    (h : ∀ place ∈ fewer, place ∈ places) :
    ∀ cell ∈ fewer.filterMap chain.cell?, cell ∈ places.filterMap chain.cell? := by
  intro cell hcell
  obtain ⟨place, hplace, hfound⟩ := List.mem_filterMap.mp hcell
  exact List.mem_filterMap.mpr ⟨place, h place hplace, hfound⟩

/-- Whether all cells at some places can be calculated. -/
def PlacesCalculable (state : State) (places : List Nat) : Prop :=
  ∀ place ∈ places, ∀ cell, state.chain.cell? place = some cell → Calculable state.workbook cell

namespace PlacesCalculable

variable {state after : State} {places : List Nat}

/-- The cells of places that can be calculated can be calculated. -/
theorem cells (h : PlacesCalculable state places) :
    ∀ cell ∈ places.filterMap state.chain.cell?, Calculable state.workbook cell := by
  intro cell hcell
  obtain ⟨place, hplace, hfound⟩ := List.mem_filterMap.mp hcell
  exact h place hplace cell hfound

/-- Fewer places can be calculated if more of them can. -/
theorem mono (h : PlacesCalculable state places) {fewer : List Nat}
    (hfewer : ∀ place ∈ fewer, place ∈ places) : PlacesCalculable state fewer :=
  fun place hplace => h place (hfewer place hplace)

/-- Places that can be calculated still can after results are stored. -/
theorem touches (h : PlacesCalculable state places) {cells : List FormulaCell}
    (htouches : Touches cells state after) : PlacesCalculable after places := by
  intro place hplace cell hcell
  rw [htouches.chain] at hcell
  exact htouches.calculable (h place hplace cell hcell)

end PlacesCalculable

/-- Whether the cell at a place of the chain is stuck in the workbook as it is. -/
def StuckAt (state : State) (place : Nat) : Prop :=
  ∃ cell, state.chain.cell? place = some cell ∧ Stuck state.workbook cell

/-- How calculating places is broken off at one of them, whose cell is stuck in the workbook as it
is left. As far as places are calculated in their order, those on a cycle have been refused by then
and the earlier ones on no cycle have their values. -/
structure BrokenAt (inOrder : Prop) (places : List Nat) (before after : State) (place : Nat) :
    Prop where
  touches : Touches (places.filterMap before.chain.cell?) before after
  stuck : StuckAt after place
  free : inOrder → before.chain.isCircular place = false
  earlier : inOrder → ∀ other ∈ places, other < place → ∀ cell,
    before.chain.cell? other = some cell → before.chain.isCircular other = false →
      Settles after.workbook cell
  refused : inOrder → ∀ other ∈ places, ∀ cell, before.chain.cell? other = some cell →
    before.chain.isCircular other = true →
      after.workbook.result? cell.id.sheet cell.id.position = some (.error .reference)

/-- What breaks off at one of the places breaks off at one of their cells. -/
theorem BrokenAt.within {inOrder : Prop} {places : List Nat} {before after : State} {place : Nat}
    (h : BrokenAt inOrder places before after place) (hplace : place ∈ places) :
    Pass.BrokenWithin (places.filterMap before.chain.cell?) before after := by
  obtain ⟨cell, hcell, hstuck⟩ := h.stuck
  rw [h.touches.chain] at hcell
  exact ⟨h.touches, cell, List.mem_filterMap.mpr ⟨place, hplace, hcell⟩, hstuck⟩

/-- Where places are not calculated in their order, it is enough to know that a cell is stuck. -/
theorem Pass.BrokenWithin.exists_place {inOrder : Prop} {places : List Nat} {before after : State}
    (h : Pass.BrokenWithin (places.filterMap before.chain.cell?) before after)
    (hinOrder : ¬ inOrder) : ∃ place, BrokenAt inOrder places before after place := by
  obtain ⟨htouches, cell, hcell, hstuck⟩ := h
  obtain ⟨place, -, hfound⟩ := List.mem_filterMap.mp hcell
  rw [← htouches.chain] at hfound
  exact ⟨place, htouches, ⟨cell, hfound, hstuck⟩, fun h => absurd h hinOrder,
    fun h => absurd h hinOrder, fun h => absurd h hinOrder⟩

/-- Cells of places on no cycle, in their order, are broken off at one of the places. -/
theorem Pass.BrokenAmong.exists_place {places : List Nat} {before after : State}
    (h : Pass.BrokenAmong (places.filterMap before.chain.cell?) before after)
    (hsorted : places.Pairwise (· < ·))
    (hfree : ∀ place ∈ places, before.chain.isCircular place = false) :
    ∃ place ∈ places, BrokenAt True places before after place := by
  obtain ⟨done, cell, rest, hcells, htouches, hearlier, hstuck⟩ := h
  obtain ⟨first, tail, rfl, rfl, htail⟩ := List.filterMap_eq_append_iff.mp hcells
  obtain ⟨skipped, place, later, rfl, hskipped, hcell, -⟩ := List.filterMap_eq_cons_iff.mp htail
  have hplace : place ∈ first ++ (skipped ++ place :: later) := by simp
  refine ⟨place, hplace, htouches.mono fun other hother => ?_, ⟨cell, ?_, hstuck⟩,
    fun _ => hfree place hplace, fun _ other hother hlt read hread _ => ?_,
    fun _ other hother _ _ hcircle => ?_⟩
  · rw [List.filterMap_append]
    exact List.mem_append_left _ hother
  · rw [htouches.chain]
    exact hcell
  · -- an earlier place stands before this one, and those in between hold no cell
    have hafter := (List.pairwise_append.mp (List.pairwise_append.mp hsorted).2.1).2.1
    simp only [List.mem_append, List.mem_cons] at hother
    rcases hother with hfirst | hskip | rfl | hlater
    · exact hearlier read (List.mem_filterMap.mpr ⟨other, hfirst, hread⟩)
    · simp [hskipped other hskip] at hread
    · exact absurd hlt (lt_irrefl other)
    · exact absurd ((List.pairwise_cons.mp hafter).1 other hlater) (Nat.lt_asymm hlt)
  · simp [hfree other hother] at hcircle

namespace Pass

variable {setting : Setting} {grown : Chain} {book : Workbook} {state : State}

/-- Calculating places on no cycle, in their order, leaves their cells with their values, unless one
of them is stuck. -/
theorem run_ordered_ends (hrefuse : setting.supervision.refuseAfter = none)
    (hchained : Chained grown book state) {places : List Nat} (hsorted : places.Pairwise (· < ·))
    (hfree : ∀ place ∈ places, state.chain.isCircular place = false)
    (hcalculable : PlacesCalculable state places) :
    Ends (runAll setting (places.filterMap state.chain.cell?)) state
      (fun after => ∃ place ∈ places, BrokenAt True places state after place) fun finished after =>
        Touches (places.filterMap state.chain.cell?) state after ∧
        (finished = true → ∀ place ∈ places, ∀ cell, state.chain.cell? place = some cell →
          Settles after.workbook cell) ∧
        (finished = false → after.statistics.completed = false) := by
  refine ((run_all_ends hrefuse _ hcalculable.cells (hchained.ordered hsorted hfree)).mono_broken
    fun _ hbroken => hbroken.exists_place hsorted hfree).mono ?_
  rintro finished after ⟨htouches, hsettles, hcompleted⟩
  refine ⟨htouches, fun hfinished place hplace cell hcell => ?_, hcompleted⟩
  exact hsettles hfinished cell (List.mem_filterMap.mpr ⟨place, hplace, hcell⟩)

/-- The same where it does not matter whether the pass was stopped unless it says so at the end. -/
theorem run_ordered_discard_ends (hrefuse : setting.supervision.refuseAfter = none)
    (hchained : Chained grown book state) {places : List Nat} (hsorted : places.Pairwise (· < ·))
    (hfree : ∀ place ∈ places, state.chain.isCircular place = false)
    (hcalculable : PlacesCalculable state places) :
    Ends (discard (runAll setting (places.filterMap state.chain.cell?))) state
      (fun after => ∃ place ∈ places, BrokenAt True places state after place) fun _ after =>
        Touches (places.filterMap state.chain.cell?) state after ∧
        (after.statistics.completed = true → ∀ place ∈ places, ∀ cell,
          state.chain.cell? place = some cell → Settles after.workbook cell) := by
  refine (run_ordered_ends hrefuse hchained hsorted hfree hcalculable).discard.mono ?_
  rintro _ after ⟨finished, htouches, hsettles, hcompleted⟩
  refine ⟨htouches, fun hdone => hsettles ?_⟩
  by_contra hunfinished
  simp [hcompleted (by simpa using hunfinished)] at hdone

/-- Cells that were refused as circular keep the error value of a cycle while the others are
calculated, as none of these stands at their places. -/
theorem refused_kept (hchained : Chained grown book state) {places : List Nat}
    {refused after : State}
    (hreferences : ∀ cell ∈ (places.filter state.chain.isCircular).filterMap state.chain.cell?,
      refused.workbook.result? cell.id.sheet cell.id.position = some (.error .reference))
    (hafter : Touches ((places.filter fun place =>
      !state.chain.isCircular place).filterMap state.chain.cell?) refused after) :
    ∀ place ∈ places, ∀ cell, state.chain.cell? place = some cell →
      state.chain.isCircular place = true →
        after.workbook.result? cell.id.sheet cell.id.position = some (.error .reference) := by
  intro place hplace cell hcell hcircle
  rw [← hreferences cell (List.mem_filterMap.mpr ⟨place, by simp [hplace, hcircle], hcell⟩)]
  exact hafter.others _ _ (hchained.not_is_at hcell (by simp [hcircle]))

/-- Without iteration a pass refuses the cells on a cycle before it calculates the others, in their
order. -/
theorem run_refusing_ends (hrefuse : setting.supervision.refuseAfter = none)
    (hiterative : setting.options.iterative = false) (hchained : Chained grown book state)
    {places : List Nat} (hsorted : places.Pairwise (· < ·))
    (hcalculable : PlacesCalculable state places) :
    Ends (runPlaces setting places) state
      (fun after => ∃ place, BrokenAt (setting.options.iterative = false) places state after place)
      fun _ after =>
        Touches (places.filterMap state.chain.cell?) state after ∧
        (after.statistics.completed = true → ∀ place ∈ places, ∀ cell,
          state.chain.cell? place = some cell →
            (state.chain.isCircular place = false → Settles after.workbook cell) ∧
            (state.chain.isCircular place = true →
              after.workbook.result? cell.id.sheet cell.id.position =
                some (.error .reference))) := by
  have hcircular : ∀ place ∈ places.filter state.chain.isCircular, place ∈ places :=
    fun place hplace => (List.mem_filter.mp hplace).1
  have hordered : ∀ place ∈ places.filter (fun place => !state.chain.isCircular place),
      place ∈ places ∧ state.chain.isCircular place = false := by
    intro place hplace
    simpa using hplace
  unfold runPlaces
  refine Ends.of_get ?_
  rw [if_neg (by simp [hiterative])]
  refine Ends.of_cells_at ((refuse_circular_ends hrefuse _ fun cell hcell =>
    ((hcalculable.mono hcircular).cells cell hcell).isFormula).bind fun _ refused hrefused => ?_)
  obtain ⟨hrefusedTouches, hreferences, -⟩ := hrefused
  refine Ends.of_count fun counted hworkbook hchain _ => Ends.of_cells_at ?_
  have htouches := hrefusedTouches.trans (.of_eq hworkbook hchain)
  have hrun := run_ordered_discard_ends hrefuse (hchained.touches htouches) (hsorted.filter _)
    (fun place hplace => by rw [htouches.chain]; exact (hordered place hplace).2)
    ((hcalculable.mono fun place hplace => (hordered place hplace).1).touches htouches)
  rw [htouches.chain] at hrun ⊢
  have hreference : ∀ {after : State}, Touches ((places.filter fun place =>
      !state.chain.isCircular place).filterMap state.chain.cell?) counted after →
        ∀ place ∈ places, ∀ cell, state.chain.cell? place = some cell →
          state.chain.isCircular place = true →
            after.workbook.result? cell.id.sheet cell.id.position = some (.error .reference) :=
    refused_kept hchained fun cell hcell => by rw [hworkbook, hreferences cell hcell]
  have hall : ∀ {after : State}, Touches ((places.filter fun place =>
      !state.chain.isCircular place).filterMap state.chain.cell?) counted after →
        Touches (places.filterMap state.chain.cell?) state after := fun hafter =>
    (htouches.mono (cells_mono hcircular)).trans
      (hafter.mono (cells_mono fun place hplace => (hordered place hplace).1))
  refine (hrun.mono_broken ?_).mono ?_
  · rintro after ⟨place, hplace, hbroken⟩
    have hafter := hbroken.touches
    rw [htouches.chain] at hafter
    refine ⟨place, hall hafter, hbroken.stuck, fun _ => (hordered place hplace).2,
      fun _ other hother hlt cell hcell hfree => ?_, fun _ => hreference hafter⟩
    rw [← htouches.chain] at hcell
    refine hbroken.earlier trivial other (by simp [hother, hfree]) hlt cell hcell ?_
    rwa [htouches.chain]
  · rintro _ after ⟨hafter, hsettles⟩
    refine ⟨hall hafter, fun hdone place hplace cell hcell => ⟨fun hfree => ?_, ?_⟩⟩
    · exact hsettles hdone place (by simp [hplace, hfree]) cell hcell
    · exact hreference hafter place hplace cell hcell

/-- Once cycles have been iterated, calculating again what is downstream of them leaves cells on no
cycle with their values: the others read nothing that has changed. -/
theorem run_again_ends (hrefuse : setting.supervision.refuseAfter = none)
    (hchained : Chained grown book state) {circular ordered : List Nat}
    (hsorted : ordered.Pairwise (· < ·))
    (hfree : ∀ place ∈ ordered, state.chain.isCircular place = false)
    (hcircle : ∀ place ∈ circular, state.chain.isCircular place = true)
    (hcalculable : PlacesCalculable state ordered)
    (hsettles : ∀ place ∈ ordered, ∀ cell, state.chain.cell? place = some cell →
      Settles state.workbook cell)
    {iterated : State} (hiterated : Touches (circular.filterMap state.chain.cell?) state iterated) :
    Ends (discard (runAll setting
        ((state.chain.downstream circular ordered).filterMap state.chain.cell?))) iterated
      (BrokenWithin (ordered.filterMap state.chain.cell?) iterated) fun _ after =>
        Touches (ordered.filterMap state.chain.cell?) iterated after ∧
        (after.statistics.completed = true → ∀ place ∈ ordered, ∀ cell,
          state.chain.cell? place = some cell → Settles after.workbook cell) := by
  have hagain : ∀ place ∈ state.chain.downstream circular ordered, place ∈ ordered :=
    fun place hplace => (List.mem_filter.mp hplace).1
  have hagainSorted : (state.chain.downstream circular ordered).Pairwise (· < ·) :=
    hsorted.filter _
  have hagainFree : ∀ place ∈ state.chain.downstream circular ordered,
      iterated.chain.isCircular place = false := by
    intro place hplace
    rw [hiterated.chain]
    exact hfree place (hagain place hplace)
  have hrun := run_ordered_discard_ends hrefuse (hchained.touches hiterated) hagainSorted hagainFree
    ((hcalculable.mono hagain).touches hiterated)
  rw [hiterated.chain] at hrun
  refine (hrun.mono_broken ?_).mono ?_
  · rintro after ⟨place, hplace, hbroken⟩
    have hwithin := hbroken.within hplace
    rw [hiterated.chain] at hwithin
    exact hwithin.after_touches (.of_eq rfl rfl) (cells_mono hagain)
  · rintro _ after ⟨hrerun, hagainSettles⟩
    refine ⟨hrerun.mono (cells_mono hagain), fun hdone place hplace cell hcell => ?_⟩
    by_cases hdownstream : place ∈ state.chain.downstream circular ordered
    · exact hagainSettles hdone place hdownstream cell hcell
    · have hcircular : place ∉ circular := by
        intro hmem
        simpa [hfree place hplace] using hcircle place hmem
      exact hchained.settles_of_not_downstream hiterated hrerun hcell
        (hcalculable place hplace cell hcell) (hsettles place hplace cell hcell) hplace hcircular
        hdownstream

/-- With iteration a pass calculates the cells on no cycle first, then those on a cycle over and
over, and then again those downstream of them. -/
theorem run_iterative_ends (hrefuse : setting.supervision.refuseAfter = none)
    (hchained : Chained grown book state) {circular ordered : List Nat}
    (hsorted : ordered.Pairwise (· < ·))
    (hfree : ∀ place ∈ ordered, state.chain.isCircular place = false)
    (hcircle : ∀ place ∈ circular, state.chain.isCircular place = true)
    (hcalculable : PlacesCalculable state (circular ++ ordered)) :
    Ends (runIterative setting circular ordered) state
      (BrokenWithin ((circular ++ ordered).filterMap state.chain.cell?) state) fun _ after =>
        Touches ((circular ++ ordered).filterMap state.chain.cell?) state after ∧
        (after.statistics.completed = true →
          ∀ place ∈ ordered, ∀ cell, state.chain.cell? place = some cell →
            Settles after.workbook cell) := by
  have hcalculableCircle := hcalculable.mono fun place => List.mem_append_left ordered
  have hcalculableFree := hcalculable.mono fun place => List.mem_append_right circular
  have hcells : ∀ cell ∈ ordered.filterMap state.chain.cell?,
      cell ∈ (circular ++ ordered).filterMap state.chain.cell? :=
    cells_mono fun place => List.mem_append_right circular
  unfold runIterative
  refine Ends.of_cells_at (((run_ordered_ends hrefuse hchained hsorted hfree
    hcalculableFree).mono_broken fun _ ⟨_, hplace, hbroken⟩ =>
      (hbroken.within hplace).after_touches (.of_eq rfl rfl) hcells).bind
        fun finished first hfirst => ?_)
  obtain ⟨htouches, hsettles, hcompleted⟩ := hfirst
  split
  · -- stopped, or there are no cycles
    refine ends_modify ⟨(htouches.mono hcells).trans (.of_eq rfl rfl), fun hdone => hsettles ?_⟩
    by_contra hunfinished
    have hstopped := hcompleted (by simpa using hunfinished)
    simp [hstopped] at hdone
  · have hfinished : finished = true := by simp_all
    refine Ends.of_count fun counted hworkbook hchain _ => Ends.of_cells_at ?_
    have hcounted := htouches.trans (.of_eq hworkbook hchain)
    have hsettled : ∀ place ∈ ordered, ∀ cell, counted.chain.cell? place = some cell →
        Settles counted.workbook cell := by
      rw [hworkbook, hcounted.chain]
      exact hsettles hfinished
    rw [← hcounted.chain] at hfree hcircle hcells hcounted ⊢
    have hcircleCells : ∀ cell ∈ circular.filterMap counted.chain.cell?,
        cell ∈ (circular ++ ordered).filterMap counted.chain.cell? :=
      cells_mono fun place => List.mem_append_left ordered
    refine ((iterate_ends hrefuse _ (hcalculableCircle.touches hcounted).cells _ 0).mono_broken
      fun _ hbroken => hbroken.after_touches (hcounted.mono hcells) hcircleCells).bind
        fun settled iterated hiterated => ?_
    obtain ⟨hcircleTouches, hinterrupted⟩ := hiterated
    have hboth := (hcounted.mono hcells).trans (hcircleTouches.mono hcircleCells)
    split
    · refine Ends.of_get (Ends.of_get (Ends.of_cells_at ?_))
      rw [hcircleTouches.chain]
      refine ((run_again_ends hrefuse (hchained.touches hcounted) hsorted hfree hcircle
        (hcalculableFree.touches hcounted) hsettled hcircleTouches).mono_broken fun _ hbroken =>
          hbroken.after_touches hboth hcells).bind fun _ final hfinal => ends_modify ?_
      obtain ⟨hrerun, hagainSettles⟩ := hfinal
      exact ⟨(hboth.trans (hrerun.mono hcells)).trans (.of_eq rfl rfl), hagainSettles⟩
    · -- stopped during the iteration
      exact ends_pure ⟨hboth, fun hdone => by simp_all⟩

/-- Calculating places of a chain leaves cells on no cycle with their values, unless a cell is stuck
when its turn comes. Those on a cycle get the error value of a cycle unless they are iterated. -/
theorem run_places_ends (hrefuse : setting.supervision.refuseAfter = none)
    (hchained : Chained grown book state) {places : List Nat} (hsorted : places.Pairwise (· < ·))
    (hcalculable : PlacesCalculable state places) :
    Ends (runPlaces setting places) state
      (fun after => ∃ place, BrokenAt (setting.options.iterative = false) places state after place)
      fun _ after =>
        Touches (places.filterMap state.chain.cell?) state after ∧
        (after.statistics.completed = true → ∀ place ∈ places, ∀ cell,
          state.chain.cell? place = some cell →
            (state.chain.isCircular place = false → Settles after.workbook cell) ∧
            (state.chain.isCircular place = true → setting.options.iterative = false →
              after.workbook.result? cell.id.sheet cell.id.position =
                some (.error .reference))) := by
  cases hiterative : setting.options.iterative with
  | false =>
      have hrun := run_refusing_ends hrefuse hiterative hchained hsorted hcalculable
      rw [hiterative] at hrun
      refine hrun.mono ?_
      rintro _ after ⟨htouches, hresults⟩
      refine ⟨htouches, fun hdone place hplace cell hcell => ?_⟩
      obtain ⟨hsettles, hreference⟩ := hresults hdone place hplace cell hcell
      exact ⟨hsettles, fun hcircle _ => hreference hcircle⟩
  | true =>
      have hmem : ∀ place ∈ places.filter state.chain.isCircular ++
          places.filter (fun place => !state.chain.isCircular place), place ∈ places := by
        intro place hplace
        rcases List.mem_append.mp hplace with hcircle | hfree
        · exact (List.mem_filter.mp hcircle).1
        · exact (List.mem_filter.mp hfree).1
      unfold runPlaces
      refine Ends.of_get ?_
      rw [if_pos hiterative]
      refine ((run_iterative_ends hrefuse hchained (hsorted.filter _) (by simp) (by simp)
        (hcalculable.mono hmem)).mono_broken fun _ hbroken =>
          (hbroken.after_touches (.of_eq rfl rfl) (cells_mono hmem)).exists_place nofun).mono ?_
      rintro _ after ⟨htouches, hsettles⟩
      refine ⟨htouches.mono (cells_mono hmem), fun hdone place hplace cell hcell => ?_⟩
      refine ⟨fun hfree => ?_, fun _ => nofun⟩
      exact hsettles hdone place (by simp [hplace, hfree]) cell hcell

end Pass

end Spreadsheet.Calculation
