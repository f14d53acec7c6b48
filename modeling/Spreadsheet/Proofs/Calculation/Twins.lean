import Spreadsheet.Proofs.Calculation.FullPass

/-!
# Two passes side by side

Two workbooks into which the same was put may hold different results. A pass over one of them and
the same pass over the other do the same step by step, `Pass.Together`, because a pass without
iteration reads no result that it has not written itself. The main theorem, `calculate_forgets`,
says what follows: the statistics are the same, a pass that runs to its end leaves the same
workbook, and repeating a pass changes nothing.
-/

namespace Spreadsheet.Calculation

open Dependency (Chain FormulaCell)
open Formula (FormulaError)

section States

variable {left right middle other after final : State}

/-- Whether a cell has the same result in two states. -/
def Agree (left right : State) (sheet : Nat) (position : Position) : Prop :=
  left.workbook.result? sheet position = right.workbook.result? sheet position

/-- Whether two states differ in nothing that a pass looks at but results of formulas. -/
structure Twins (left right : State) : Prop where
  inputs : left.workbook.inputs = right.workbook.inputs
  chain : left.chain = right.chain
  statistics : left.statistics = right.statistics
  stored : left.stored = right.stored

/-- What two passes side by side do to what is in the workbooks: each result is written by both or
by neither, and nothing else is. -/
structure Follow (left right after final : State) : Prop where
  inputs : after.workbook.inputs = left.workbook.inputs
  results : ∀ sheet position, Agree after final sheet position ∨
    after.workbook.result? sheet position = left.workbook.result? sheet position ∧
      final.workbook.result? sheet position = right.workbook.result? sheet position

/-- States with the workbooks that the passes started from follow them. -/
theorem Follow.of_eq (hleft : after.workbook = left.workbook)
    (hright : final.workbook = right.workbook) : Follow left right after final := by
  refine ⟨congrArg Workbook.inputs hleft, fun sheet position => Or.inr ⟨?_, ?_⟩⟩
  · rw [hleft]
  · rw [hright]

/-- Two steps side by side follow where each of them does. -/
theorem Follow.trans (h : Follow left right middle other)
    (hafter : Follow middle other after final) : Follow left right after final := by
  refine ⟨hafter.inputs.trans h.inputs, fun sheet position => ?_⟩
  rcases hafter.results sheet position with hagree | ⟨hleft, hright⟩
  · exact Or.inl hagree
  · rcases h.results sheet position with hagree | ⟨hleftBefore, hrightBefore⟩
    · exact Or.inl (hleft.trans (hagree.trans hright.symm))
    · exact Or.inr ⟨hleft.trans hleftBefore, hright.trans hrightBefore⟩

/-- Results that are the same stay the same. -/
theorem Follow.agree (h : Follow left right after final) {sheet : Nat} {position : Position}
    (hagree : Agree left right sheet position) : Agree after final sheet position := by
  rcases h.results sheet position with hafter | ⟨hleft, hright⟩
  · exact hafter
  · exact hleft.trans (hagree.trans hright.symm)

end States

namespace Pass

variable {α β : Type} {setting other : Setting} {left right : State}

/-- Whether two steps, each from a state of its own, fail alike or give the same value, write the
same results and end in twins of a kind. -/
def Together (pass twin : Pass α) (left right : State) (post : α → State → State → Prop) : Prop :=
  ∃ (result : Except FormulaError α) (after final : State),
    pass.run.run left = (result, after) ∧ twin.run.run right = (result, final) ∧
      Follow left right after final ∧ Twins after final ∧
        ∀ value, result = .ok value → post value after final

/-- Doing nothing keeps twins together. -/
theorem together_pure {value : α} {post : α → State → State → Prop} (htwins : Twins left right)
    (h : post value left right) : Together (pure value) (pure value) left right post := by
  refine ⟨.ok value, left, right, rfl, rfl, .of_eq rfl rfl, htwins, fun found hfound => ?_⟩
  obtain rfl := Except.ok.inj hfound
  exact h

/-- Failing with the same failure keeps twins together. -/
theorem together_throw {failure : FormulaError} {post : α → State → State → Prop}
    (htwins : Twins left right) :
    Together (throw failure) (throw failure : Pass α) left right post :=
  ⟨.error failure, left, right, rfl, rfl, .of_eq rfl rfl, htwins, nofun⟩

/-- Two steps in a row keep twins together if the first ones do and the second ones do from whatever
twins the first ones leave. -/
theorem Together.bind {pass twin : Pass α} {goOn otherOn : α → Pass β}
    {mid : α → State → State → Prop} {post : β → State → State → Prop}
    (hpass : Together pass twin left right mid)
    (hgoOn : ∀ value after final, Follow left right after final → Twins after final →
      mid value after final → Together (goOn value) (otherOn value) after final post) :
    Together (pass >>= goOn) (twin >>= otherOn) left right post := by
  obtain ⟨result, after, final, hleft, hright, hfollow, htwins, hmid⟩ := hpass
  unfold Together
  rw [ExceptT.run_bind, StateT.run_bind, hleft, ExceptT.run_bind, StateT.run_bind, hright]
  cases result with
  | error failure => exact ⟨.error failure, after, final, rfl, rfl, hfollow, htwins, nofun⟩
  | ok value =>
      obtain ⟨found, last, lastOther, hrun, hrunOther, hlater, hend, hpost⟩ :=
        hgoOn value after final hfollow htwins (hmid value rfl)
      exact ⟨found, last, lastOther, hrun, hrunOther, hfollow.trans hlater, hend, hpost⟩

/-- What is said of the states at the end may be weakened. -/
theorem Together.mono {pass twin : Pass α} {post weaker : α → State → State → Prop}
    (h : Together pass twin left right post)
    (hweaker : ∀ value after final, Follow left right after final → post value after final →
      weaker value after final) : Together pass twin left right weaker := by
  obtain ⟨result, after, last, hleft, hright, hfollow, htwins, hpost⟩ := h
  exact ⟨result, after, last, hleft, hright, hfollow, htwins,
    fun value hvalue => hweaker value after last hfollow (hpost value hvalue)⟩

/-- Steps whose values are dropped keep twins together if they do otherwise. -/
theorem Together.discard {pass twin : Pass α} {post : α → State → State → Prop}
    (h : Together pass twin left right post) :
    Together (Functor.discard pass) (Functor.discard twin) left right
      fun _ after final => ∃ value, post value after final := by
  show Together ((fun _ => PUnit.unit) <$> pass) ((fun _ => PUnit.unit) <$> twin) left right _
  rw [map_eq_pure_bind, map_eq_pure_bind]
  exact h.bind fun value _ _ _ htwins hvalue => together_pure htwins ⟨value, hvalue⟩

section Binds

variable {post : β → State → State → Prop} {middle final : State}

/-- What goes on from the present states may be judged at those states. -/
theorem Together.of_get {goOn otherOn : State → Pass β}
    (h : Together (goOn left) (otherOn right) left right post) :
    Together (get >>= goOn) (get >>= otherOn) left right post := h

/-- A change of something else than the workbook comes before what follows. -/
theorem Together.of_set {goOn otherOn : PUnit → Pass β}
    (h : Together (goOn ⟨⟩) (otherOn ⟨⟩) middle final post)
    (hleft : middle.workbook = left.workbook) (hright : final.workbook = right.workbook) :
    Together (set middle >>= goOn) (set final >>= otherOn) left right post := by
  obtain ⟨result, after, last, hrun, hother, hfollow, htwins, hpost⟩ := h
  exact ⟨result, after, last, hrun, hother, (Follow.of_eq hleft hright).trans hfollow, htwins,
    hpost⟩

/-- Changes of the states that leave the workbooks as they are may be made before what follows is
judged. -/
theorem Together.of_modify {change otherChange : State → State} {goOn otherOn : PUnit → Pass β}
    (h : Together (goOn ⟨⟩) (otherOn ⟨⟩) (change left) (otherChange right) post)
    (hleft : (change left).workbook = left.workbook)
    (hright : (otherChange right).workbook = right.workbook) :
    Together (modify change >>= goOn) (modify otherChange >>= otherOn) left right post :=
  Together.of_set h hleft hright

/-- A result that is not part of the states is the same on both sides, so that only what follows it
counts. -/
theorem Together.of_lift {result : Except FormulaError α} (htwins : Twins left right)
    {goOn otherOn : α → Pass β}
    (h : ∀ value, result = .ok value → Together (goOn value) (otherOn value) left right post) :
    Together ((liftM result : Pass α) >>= goOn) ((liftM result : Pass α) >>= otherOn) left right
      post := by
  cases result with
  | error failure => exact together_throw htwins
  | ok value => exact h value rfl

end Binds

/-- Counting the same keeps twins. -/
theorem together_count (htwins : Twins left right) (change : Statistics → Statistics) :
    Together (count change) (count change) left right fun _ after _ =>
      after.chain = left.chain ∧ after.statistics = change left.statistics := by
  refine ⟨.ok ⟨⟩, { left with statistics := change left.statistics },
    { right with statistics := change right.statistics }, rfl, rfl, .of_eq rfl rfl,
    ⟨htwins.inputs, htwins.chain, ?_, htwins.stored⟩, fun _ _ => ⟨rfl, rfl⟩⟩
  show change left.statistics = change right.statistics
  rw [htwins.statistics]

/-- Counting the formulas of the chain keeps twins together and leaves the chain as it is. -/
theorem together_count_chain (htwins : Twins left right) :
    Together countChain countChain left right fun _ after _ => after.chain = left.chain := by
  refine Together.of_get ?_
  rw [← htwins.chain]
  exact (together_count htwins _).mono fun _ _ _ _ hcount => hcount.1

/-- What registering some formulas in twins leaves besides twins. -/
structure Enrolled (added : List FormulaCell) (found : List Entry) (after final : State) :
    Prop where
  grown : Chain.Grown (added ++ found.filterMap Entry.readable) after.chain
  unreadable : ∀ entry ∈ found, entry.readable = none →
    Agree after final entry.sheet entry.position

/-- Nothing is enrolled where nothing is found. -/
theorem Enrolled.nil {added : List FormulaCell} (h : Chain.Grown added left.chain) :
    Enrolled added [] left right :=
  ⟨by simpa using h, by simp⟩

/-- Formulas that are found in two lots are enrolled in twins if each lot is. -/
theorem Enrolled.append {added : List FormulaCell} {found later : List Entry} {after final : State}
    (h : Enrolled added found left right) (hafter : Follow left right after final)
    (hlater : Enrolled (added ++ found.filterMap Entry.readable) later after final) :
    Enrolled added (found ++ later) after final := by
  refine ⟨?_, fun entry hentry hunreadable => ?_⟩
  · rw [List.filterMap_append, ← List.append_assoc]
    exact hlater.grown
  · rcases List.mem_append.mp hentry with hfirst | hsecond
    · exact hafter.agree (h.unreadable entry hfirst hunreadable)
    · exact hlater.unreadable entry hsecond hunreadable

/-- Once all formulas of a workbook have been registered, twins agree on every cell except those
that the chain holds. -/
theorem Enrolled.covers {book : Workbook} (h : Enrolled [] (entries book) left right)
    (hbook : left.workbook.inputs = book.inputs)
    (hinputs : left.workbook.inputs = right.workbook.inputs) (sheet : Nat) (position : Position) :
    Agree left right sheet position ∨
      ∃ cell ∈ left.chain.registered.toList, cell.IsAt sheet position := by
  cases htext : (left.workbook.content sheet position).formulaText with
  | none =>
      refine Or.inl ?_
      rw [Agree, result_of_text_none htext]
      rw [Workbook.formula_text_eq hinputs] at htext
      exact (result_of_text_none htext).symm
  | some source =>
      rw [Workbook.formula_text_eq hbook] at htext
      have hentry : Entry.mk sheet position source ∈ entries book := mem_entries_iff.mpr htext
      cases hreadable : Entry.readable ⟨sheet, position, source⟩ with
      | none => exact Or.inl (h.unreadable _ hentry hreadable)
      | some cell =>
          refine Or.inr ⟨cell, ?_, Entry.is_at_of_readable hreadable⟩
          rw [h.grown.registered.1]
          exact List.mem_filterMap.mpr ⟨_, hentry, hreadable⟩

section Steps

variable (hsupervision : other.supervision = setting.supervision)
include hsupervision

/-- Twins are stopped together. -/
theorem Together.of_is_stopped (htwins : Twins left right) {goOn otherOn : Bool → Pass β}
    {post : β → State → State → Prop}
    (h : Together (goOn (setting.supervision.stops left.stored))
      (otherOn (setting.supervision.stops left.stored)) left right post) :
    Together (isStopped setting >>= goOn) (isStopped other >>= otherOn) left right post := by
  show Together (goOn (setting.supervision.stops left.stored))
    (otherOn (other.supervision.stops right.stored)) left right post
  rwa [hsupervision, ← htwins.stored]

/-- Storing the same result in the cell of a formula makes twins agree on that cell. -/
theorem together_store (htwins : Twins left right) {sheet : Nat} {position : Position}
    (hformula : (left.workbook.content sheet position).formulaText.isSome) (result : Cell) :
    Together (store setting sheet position result) (store other sheet position result) left right
      fun _ after final => Agree after final sheet position ∧ after.chain = left.chain := by
  obtain ⟨source, hsource⟩ := Option.isSome_iff_exists.mp hformula
  obtain ⟨written, hwritten, hstores⟩ := store_in_spec hsource result
  rw [Workbook.formula_text_eq htwins.inputs] at hsource
  obtain ⟨otherWritten, hotherWritten, hotherStores⟩ := store_in_spec hsource result
  refine Together.of_get ?_
  rw [hsupervision, ← htwins.stored]
  split
  · exact together_throw htwins
  · rw [hwritten, hotherWritten]
    have hagree : written.result? sheet position = otherWritten.result? sheet position :=
      hstores.result.trans hotherStores.result.symm
    refine ⟨.ok ⟨⟩, _, _, rfl, rfl, ⟨hstores.inputs, fun elsewhere place => ?_⟩, ⟨?_, htwins.chain,
      htwins.statistics, ?_⟩, fun _ _ => ⟨hagree, rfl⟩⟩
    · by_cases hplace : elsewhere = sheet ∧ place = position
      · obtain ⟨rfl, rfl⟩ := hplace
        exact Or.inl hagree
      · exact Or.inr ⟨hstores.others _ _ hplace, hotherStores.others _ _ hplace⟩
    · exact hstores.inputs.trans (htwins.inputs.trans hotherStores.inputs.symm)
    · show left.stored + 1 = left.stored + 1
      rfl

omit hsupervision in
/-- A cell that reads the same in twins has the same value in them. -/
theorem together_evaluate (htwins : Twins left right) {cell : FormulaCell}
    (hcell : Calculable left.workbook cell)
    (hreads : ∀ sheet position, (cell.references left.workbook).reads sheet position = true →
      Agree left right sheet position) :
    Together (evaluate setting cell) (evaluate other cell) left right fun _ after _ =>
      after.chain = left.chain := by
  have hvalue : evaluateIn setting left.workbook left.evaluated cell =
      evaluateIn other right.workbook right.evaluated cell := by
    refine hcell.evaluate_in_congr htwins.inputs (fun sheet position hread => ?_) _ _ _ _
    exact Workbook.shown_eq_of_result_eq htwins.inputs (hreads sheet position hread)
  refine Together.of_get (Together.of_set ?_ rfl rfl)
  rw [← hvalue]
  have hcounted : Twins { left with evaluated := left.evaluated + 1 }
      { right with evaluated := right.evaluated + 1 } :=
    ⟨htwins.inputs, htwins.chain, htwins.statistics, htwins.stored⟩
  cases evaluateIn setting left.workbook left.evaluated cell with
  | ok value => exact together_pure hcounted rfl
  | error failure =>
      dsimp only
      cases failureValue failure with
      | none => exact together_throw hcounted
      | some fault =>
          refine (together_count hcounted _).bind fun _ after final _ htwins hchain => ?_
          exact together_pure htwins hchain.1

/-- Calculating a formula makes twins agree on its cell if they agree on all that it reads. -/
theorem together_run_cell (htwins : Twins left right) {cell : FormulaCell}
    (hcell : Calculable left.workbook cell)
    (hreads : ∀ sheet position, (cell.references left.workbook).reads sheet position = true →
      Agree left right sheet position) :
    Together (runCell setting cell) (runCell other cell) left right fun _ after final =>
      Agree after final cell.id.sheet cell.id.position := by
  refine (together_evaluate htwins hcell hreads).bind
    fun result middle otherMiddle hfollow hmiddle _ => ?_
  have hformula : (middle.workbook.content cell.id.sheet cell.id.position).formulaText.isSome := by
    rw [Workbook.formula_text_eq hfollow.inputs]
    exact hcell.isFormula
  refine (together_store hsupervision hmiddle hformula result).bind
    fun _ _ _ _ hstored hagree => ?_
  exact together_pure hstored hagree.1

/-- Calculating cells once each, none of which reads itself or a later one, does the same to twins
that agree on what the cells read besides each other. -/
theorem together_run_all (htwins : Twins left right) (cells : List FormulaCell)
    (hcells : ∀ cell ∈ cells, Calculable left.workbook cell)
    (hordered : Ordered left.workbook cells)
    (hreads : ∀ cell ∈ cells, ∀ sheet position,
      (cell.references left.workbook).reads sheet position = true →
        Agree left right sheet position ∨ ∃ read ∈ cells, read.IsAt sheet position) :
    Together (runAll setting cells) (runAll other cells) left right fun finished after final =>
      (finished = true → ∀ cell ∈ cells, Agree after final cell.id.sheet cell.id.position) ∧
      (finished = false → after.statistics.completed = false) := by
  induction cells generalizing left right with
  | nil => exact together_pure htwins ⟨fun _ => by simp, Bool.noConfusion⟩
  | cons cell rest ih =>
      obtain ⟨hself, hpairs⟩ := hordered
      obtain ⟨hlater, hrest⟩ := List.pairwise_cons.mp hpairs
      refine Together.of_is_stopped hsupervision htwins ?_
      split
      · refine (together_count htwins _).bind fun _ counted _ _ hcounted hstatistics =>
          together_pure hcounted ⟨Bool.noConfusion, fun _ => ?_⟩
        rw [hstatistics.2]
      · -- the first cell reads none of the list, so twins agree on all that it reads
        have hfirst : ∀ sheet position,
            (cell.references left.workbook).reads sheet position = true →
              Agree left right sheet position := by
          intro sheet position hread
          refine (hreads cell (by simp) sheet position hread).resolve_right ?_
          rintro ⟨read, hmem, rfl, rfl⟩
          rcases List.mem_cons.mp hmem with rfl | hmem
          · simp [hself read (by simp)] at hread
          · simp [(hlater read hmem).2] at hread
        refine (together_run_cell hsupervision htwins (hcells cell (by simp)) hfirst).discard.bind
          fun _ ran otherRan hran hranTwins hagree => ?_
        obtain ⟨_, hagree⟩ := hagree
        refine (together_count hranTwins _).bind fun _ counted otherCounted hcounted htwins _ => ?_
        have hfollow := hran.trans hcounted
        have hinputs := hfollow.inputs.symm
        refine (ih htwins (fun later hmem => (hcells later (by simp [hmem])).congr hinputs)
          (.congr ⟨fun later hmem => hself later (by simp [hmem]), hrest⟩ hinputs) ?_).mono ?_
        · intro later hmem sheet position hread
          rw [← references_congr hinputs] at hread
          rcases hreads later (by simp [hmem]) sheet position hread with
            hbefore | ⟨read, hread, hat⟩
          · exact Or.inl (hfollow.agree hbefore)
          · rcases List.mem_cons.mp hread with rfl | hread
            · obtain ⟨rfl, rfl⟩ := hat
              exact Or.inl (hcounted.agree hagree)
            · exact Or.inr ⟨read, hread, hat⟩
        · rintro finished after final hafter ⟨hall, hcompleted⟩
          refine ⟨fun hfinished => List.forall_mem_cons.mpr ⟨?_, hall hfinished⟩, hcompleted⟩
          exact hafter.agree (hcounted.agree hagree)

/-- Refusing cells leaves twins with the same results in them. -/
theorem together_refuse_circular (htwins : Twins left right) (cells : List FormulaCell)
    (hcells : ∀ cell ∈ cells,
      (left.workbook.content cell.id.sheet cell.id.position).formulaText.isSome) :
    Together (refuseCircular setting cells) (refuseCircular other cells) left right
      fun _ after final => after.chain = left.chain ∧
        ∀ cell ∈ cells, Agree after final cell.id.sheet cell.id.position := by
  induction cells generalizing left right with
  | nil => exact together_pure htwins ⟨rfl, by simp⟩
  | cons cell rest ih =>
      refine (together_store hsupervision htwins (hcells cell (by simp)) _).bind
        fun _ stored _ hstored hstoredTwins hstore => ?_
      obtain ⟨hagree, hchain⟩ := hstore
      refine (together_count hstoredTwins _).bind fun _ counted _ hcounted htwins hcount => ?_
      have hfollow := hstored.trans hcounted
      refine (ih htwins fun later hmem => ?_).mono ?_
      · rw [Workbook.formula_text_eq hfollow.inputs]
        exact hcells later (by simp [hmem])
      · rintro _ after final hafter ⟨hafterChain, hrest⟩
        refine ⟨hafterChain.trans (hcount.1.trans hchain), List.forall_mem_cons.mpr ⟨?_, hrest⟩⟩
        exact hafter.agree (hcounted.agree hagree)

omit hsupervision in
/-- The cells at some places are the same in twins, so that only what follows counts. -/
theorem Together.of_cells_at (htwins : Twins left right) {places : List Nat}
    {goOn otherOn : List FormulaCell → Pass β} {post : β → State → State → Prop}
    (h : Together (goOn (places.filterMap left.chain.cell?))
      (otherOn (places.filterMap left.chain.cell?)) left right post) :
    Together (cellsAt places >>= goOn) (cellsAt places >>= otherOn) left right post := by
  show Together (goOn (places.filterMap left.chain.cell?))
    (otherOn (places.filterMap right.chain.cell?)) left right post
  rwa [← htwins.chain]

/-- Calculating places of a chain without iteration leaves twins with the same results, if it runs
to its end and they agree on all other cells. -/
theorem together_run_places (hiterative : setting.options.iterative = false)
    (hotherIterative : other.options.iterative = false) (htwins : Twins left right)
    {grown : Chain} {book : Workbook} (hchained : Chained grown book left) {places : List Nat}
    (hsorted : places.Pairwise (· < ·)) (hcalculable : PlacesCalculable left places)
    (hcovers : ∀ sheet position, Agree left right sheet position ∨
      ∃ cell ∈ places.filterMap left.chain.cell?, cell.IsAt sheet position) :
    Together (runPlaces setting places) (runPlaces other places) left right fun _ after final =>
      after.statistics.completed = true → ∀ sheet position, Agree after final sheet position := by
  have hcircular : ∀ place ∈ places.filter left.chain.isCircular, place ∈ places :=
    fun place hplace => (List.mem_filter.mp hplace).1
  have hfree : ∀ place ∈ places.filter (fun place => !left.chain.isCircular place),
      place ∈ places ∧ left.chain.isCircular place = false := by
    intro place hplace
    simpa using hplace
  unfold runPlaces
  refine Together.of_get ?_
  rw [if_neg (by simp [hiterative]), if_neg (by simp [hotherIterative]), ← htwins.chain]
  refine Together.of_cells_at htwins ((together_refuse_circular hsupervision htwins _
    fun cell hcell => ((hcalculable.mono hcircular).cells cell hcell).isFormula).bind
      fun _ refused otherRefused hrefused hrefusedTwins hrefusal => ?_)
  obtain ⟨hrefusedChain, hreferences⟩ := hrefusal
  refine (together_count hrefusedTwins _).bind
    fun _ counted otherCounted hcounted htwins hcount => ?_
  have hfollow := hrefused.trans hcounted
  have hchain : counted.chain = left.chain := hcount.1.trans hrefusedChain
  -- what is still to be calculated is all that twins may not agree on
  have hrest : ∀ sheet position, Agree counted otherCounted sheet position ∨
      ∃ cell ∈ (places.filter fun place => !left.chain.isCircular place).filterMap left.chain.cell?,
        cell.IsAt sheet position := by
    intro sheet position
    rcases hcovers sheet position with hagree | ⟨cell, hcell, hat⟩
    · exact Or.inl (hfollow.agree hagree)
    · obtain ⟨place, hplace, hfound⟩ := List.mem_filterMap.mp hcell
      by_cases hcircle : left.chain.isCircular place = true
      · have hagree := hreferences cell
          (List.mem_filterMap.mpr ⟨place, by simp [hplace, hcircle], hfound⟩)
        rw [hat.1, hat.2] at hagree
        exact Or.inl (hcounted.agree hagree)
      · exact Or.inr ⟨cell, List.mem_filterMap.mpr ⟨place, by simp [hplace, hcircle], hfound⟩, hat⟩
  have hordered := hchained.ordered (hsorted.filter _) fun place hplace => (hfree place hplace).2
  have hcells := (hcalculable.mono fun place hplace => (hfree place hplace).1).cells
  refine Together.of_cells_at htwins ?_
  rw [hchain]
  refine (together_run_all hsupervision htwins _
    (fun cell hcell => (hcells cell hcell).congr hfollow.inputs.symm)
    (hordered.congr hfollow.inputs.symm)
    (fun _ _ sheet position _ => hrest sheet position)).discard.mono ?_
  rintro _ after final hafter ⟨finished, hall, hcompleted⟩ hdone sheet position
  have hfinished : finished = true := by
    by_contra hunfinished
    simp [hcompleted (by simpa using hunfinished)] at hdone
  rcases hrest sheet position with hagree | ⟨cell, hcell, rfl, rfl⟩
  · exact hafter.agree hagree
  · exact hall hfinished cell hcell

/-- Registering a formula in twins enrolls it in both, or marks it in both as unreadable. -/
theorem together_register (htwins : Twins left right) (entry : Entry)
    (htext : (left.workbook.content entry.sheet entry.position).formulaText = some entry.source)
    {added : List FormulaCell} (hgrown : Chain.Grown added left.chain) :
    Together (register setting entry.sheet entry.position entry.source)
      (register other entry.sheet entry.position entry.source) left right
      fun _ => Enrolled added [entry] := by
  unfold register
  cases htokens : tokensOfExpr entry.source with
  | error refusal =>
      have hunreadable : entry.readable = none := by
        rw [Entry.readable, htokens]
        rfl
      refine (together_count htwins _).bind fun _ counted otherCounted hcounted htwins hcount => ?_
      have hformula : (counted.workbook.content entry.sheet entry.position).formulaText.isSome := by
        rw [Workbook.formula_text_eq hcounted.inputs, htext]
        rfl
      refine (together_store hsupervision htwins hformula _).mono ?_
      rintro _ after final - ⟨hagree, hchain⟩
      refine ⟨?_, by simpa using fun _ => hagree⟩
      rw [hchain, hcount.1]
      simpa [hunreadable] using hgrown
  | ok tokens =>
      refine Together.of_lift htwins fun cell hcell => Together.of_get ?_
      have hreadable : entry.readable = some cell := by
        rw [Entry.readable, htokens]
        show (FormulaCell.of entry.sheet entry.position tokens).toOption = some cell
        rw [hcell]
        rfl
      rw [← htwins.chain]
      refine Together.of_lift htwins fun ⟨place, chain⟩ hadd => ?_
      refine ⟨.ok ⟨⟩, { left with chain }, { right with chain }, rfl, rfl, .of_eq rfl rfl,
        ⟨htwins.inputs, rfl, htwins.statistics, htwins.stored⟩, fun _ _ => ⟨?_, ?_⟩⟩
      · simpa [hreadable] using Chain.Grown.add hgrown hadd
      · simp [hreadable]

/-- Registering the formulas found on a sheet enrolls all of them in both twins. -/
theorem together_register_all (htwins : Twins left right) (sheet : Nat)
    (found : List (Position × String))
    (htexts : ∀ position source, (position, source) ∈ found →
      (left.workbook.content sheet position).formulaText = some source)
    {added : List FormulaCell} (hgrown : Chain.Grown added left.chain) :
    Together (registerAll setting sheet found) (registerAll other sheet found) left right
      fun _ => Enrolled added
        (found.map fun (position, source) => ⟨sheet, position, source⟩) := by
  induction found generalizing left right added with
  | nil => exact together_pure htwins (.nil hgrown)
  | cons head rest ih =>
      obtain ⟨position, source⟩ := head
      refine (together_register hsupervision htwins ⟨sheet, position, source⟩
        (htexts position source (by simp)) hgrown).bind
          fun _ middle otherMiddle hfollow htwins hfirst => ?_
      refine (ih htwins (fun place text hmem => ?_) hfirst.grown).mono fun _ _ _ hafter hrest =>
        hfirst.append hafter hrest
      rw [Workbook.formula_text_eq hfollow.inputs]
      exact htexts place text (by simp [hmem])

/-- Registering the formulas of several sheets enrolls all of them in both twins. -/
theorem together_register_sheets (htwins : Twins left right) (book : Workbook)
    (hbook : left.workbook.inputs = book.inputs) (sheets : List Nat) {added : List FormulaCell}
    (hgrown : Chain.Grown added left.chain) :
    Together (registerSheets setting sheets) (registerSheets other sheets) left right
      fun _ => Enrolled added (sheets.flatMap (entriesOf book)) := by
  induction sheets generalizing left right added with
  | nil => exact together_pure htwins (.nil hgrown)
  | cons sheet rest ih =>
      refine Together.of_get ?_
      rw [← Workbook.formulas_eq htwins.inputs, Workbook.formulas_eq hbook]
      refine (together_register_all hsupervision htwins sheet _ (fun position source hmem => ?_)
        hgrown).bind fun _ middle otherMiddle hfollow htwins hfirst => ?_
      · rw [Workbook.formula_text_eq hbook]
        exact Workbook.mem_formulas_iff.mp hmem
      · exact (ih htwins (hfollow.inputs.trans hbook) hfirst.grown).mono fun _ _ _ hafter hrest =>
          hfirst.append hafter hrest

/-- What a full pass does before it calculates is the same for two workbooks into which the same was
put. Afterwards they agree on all cells except those that are to be calculated. -/
theorem together_enroll {book twin : Workbook} (hinputs : book.inputs = twin.inputs)
    (hpredictable : Predictable book) (chain otherChain : Chain) :
    Together (enroll setting) (enroll other) (.initial book chain) (.initial twin otherChain)
      fun _ after final => Ready after ∧ ∀ sheet position, Agree after final sheet position ∨
        ∃ cell ∈ after.chain.places.filterMap after.chain.cell?, cell.IsAt sheet position := by
  have hstart : Twins { State.initial book chain with chain := .empty }
      { State.initial twin otherChain with chain := .empty } := ⟨hinputs, rfl, rfl, rfl⟩
  unfold enroll
  refine Together.of_modify (Together.of_get ?_) rfl rfl
  show Together (registerSheets setting (List.range book.sheetCount) >>= _)
    (registerSheets other (List.range twin.sheetCount) >>= _) _ _ _
  rw [← Workbook.sheet_count_eq hinputs]
  refine (together_register_sheets hsupervision hstart book rfl (List.range book.sheetCount)
    .empty).bind
      fun _ registered otherRegistered hregistered hregisteredTwins henrolled => ?_
  have hbuild : otherRegistered.chain.build otherRegistered.workbook =
      registered.chain.build registered.workbook := by
    have hscan : FormulaCell.references otherRegistered.workbook =
        FormulaCell.references registered.workbook :=
      funext fun cell => references_congr hregisteredTwins.inputs.symm cell
    rw [Chain.build, Chain.build, hscan, hregisteredTwins.chain]
  have hbuilt : Twins { registered with chain := registered.chain.build registered.workbook }
      { otherRegistered with chain := otherRegistered.chain.build otherRegistered.workbook } :=
    ⟨hregisteredTwins.inputs, hbuild.symm, hregisteredTwins.statistics, hregisteredTwins.stored⟩
  refine Together.of_modify ((together_count_chain hbuilt).mono ?_) rfl rfl
  intro _ after final hcounted hchain
  refine ⟨.of_build hpredictable henrolled.grown.registered.1 hregistered.inputs
    (hcounted.inputs.trans hregistered.inputs) hchain, fun sheet position => ?_⟩
  rcases henrolled.covers hregistered.inputs hregisteredTwins.inputs sheet position with
    hagree | ⟨cell, hcell, hat⟩
  · exact Or.inl (hcounted.agree hagree)
  · obtain ⟨place, hplace⟩ := Chain.exists_place_of_mem hcell
    refine Or.inr ⟨cell, List.mem_filterMap.mpr ⟨place, ?_, ?_⟩, hat⟩
    · rw [hchain]
      exact List.mem_range.mpr (Chain.place_lt_of_cell hplace)
    · rw [hchain]
      exact hplace

/-- A full pass without iteration does the same to two workbooks into which the same was put. -/
theorem together_calculate_all (hiterative : setting.options.iterative = false)
    (hotherIterative : other.options.iterative = false) {book twin : Workbook}
    (hinputs : book.inputs = twin.inputs) (hpredictable : Predictable book)
    (chain otherChain : Chain) :
    Together (calculateAll setting) (calculateAll other) (.initial book chain)
      (.initial twin otherChain) fun _ after final =>
        after.statistics.completed = true → ∀ sheet position, Agree after final sheet position := by
  rw [calculate_all_eq, calculate_all_eq]
  refine (together_enroll hsupervision hinputs hpredictable chain otherChain).bind
    fun _ ready otherReady _ htwins hready => Together.of_get ?_
  obtain ⟨hready, hcovers⟩ := hready
  rw [← htwins.chain]
  exact together_run_places hsupervision hiterative hotherIterative htwins hready.chained
    List.pairwise_lt_range (hready.places_calculable _) hcovers

end Steps

end Pass

/-- Full passes without iteration over two workbooks into which the same was put have the same
outcome, and write the same results. -/
theorem calculate_together {setting other : Setting}
    (hiterative : setting.options.iterative = false)
    (hotherIterative : other.options.iterative = false)
    (hsupervision : other.supervision = setting.supervision) {book twin : Workbook}
    (hinputs : twin.inputs = book.inputs) (hpredictable : Predictable book)
    (chain otherChain : Chain) :
    ∃ outcome after final, calculate setting book chain = (outcome, after) ∧
      calculate other twin otherChain = (outcome, final) ∧
      Follow (.initial book chain) (.initial twin otherChain) after final ∧
      after.workbook.inputs = final.workbook.inputs ∧
      ∀ statistics, outcome = .ok statistics → statistics.completed = true →
        after.workbook = final.workbook := by
  obtain ⟨result, after, final, hleft, hright, hfollow, htwins, hpost⟩ :=
    Pass.together_calculate_all hsupervision hiterative hotherIterative hinputs.symm hpredictable
      chain otherChain
  refine ⟨result.map fun _ => after.statistics, after, final, ?_, ?_, hfollow, htwins.inputs, ?_⟩
  · rw [calculate, perform, hleft]
  · rw [calculate, perform, hright, htwins.statistics]
  · intro statistics houtcome hdone
    obtain ⟨value, rfl, rfl⟩ := except_map_eq_ok_iff.mp houtcome
    exact Workbook.eq_of_result_eq htwins.inputs (hpost value rfl hdone)

/-- A full pass without iteration leaves alone what was put into the workbook, even if it fails. -/
theorem calculate_inputs {setting : Setting} (hiterative : setting.options.iterative = false)
    {book : Workbook} (hpredictable : Predictable book) (chain : Chain) :
    (calculate setting book chain).2.workbook.inputs = book.inputs := by
  obtain ⟨_, after, _, hrun, -, hfollow, -⟩ :=
    calculate_together hiterative hiterative rfl rfl hpredictable chain chain
  rw [hrun]
  exact hfollow.inputs

/-- Full passes without iteration forget old results. Over workbooks into which the same was put
they report the same, whatever results, chains, moments and chances there are, and leave the same
workbook if they run to their end. Repeating a pass changes nothing, whether or not it was stopped.
A pass after one that was stopped or refused at any point reports what it would have reported
instead of that one, and leaves the same workbook if it runs to its end. A pass that nobody watches
does so wherever cells have keys, unless one of the formulas is stuck and breaks it off. All this
holds where formulas lead to no volatile function and have values that depend on nothing but what is
scanned from them. -/
theorem calculate_forgets (setting : Setting) (hiterative : setting.options.iterative = false)
    (book : Workbook) (hpredictable : Predictable book) (chain : Chain) :
    (∀ (other : Setting) (twin : Workbook) (otherChain : Chain),
      other.options.iterative = false → other.supervision = setting.supervision →
      twin.inputs = book.inputs →
      (calculate other twin otherChain).1 = (calculate setting book chain).1 ∧
      ∀ statistics, (calculate setting book chain).1 = .ok statistics →
        statistics.completed = true →
          (calculate other twin otherChain).2.workbook =
            (calculate setting book chain).2.workbook) ∧
    (∀ other : Setting, other.options.iterative = false →
      other.supervision = setting.supervision →
      let after := (calculate setting book chain).2
      (calculate other after.workbook after.chain).1 = (calculate setting book chain).1 ∧
      (calculate other after.workbook after.chain).2.workbook = after.workbook) ∧
    (∀ (broken : Setting) (brokenChain : Chain), broken.options.iterative = false →
      let left := (calculate broken book brokenChain).2
      (calculate setting left.workbook left.chain).1 = (calculate setting book chain).1 ∧
      ∀ statistics, (calculate setting book chain).1 = .ok statistics →
        statistics.completed = true →
          (calculate setting left.workbook left.chain).2.workbook =
            (calculate setting book chain).2.workbook) ∧
    (book.sheetCount ≤ CellId.sheetLimit → setting.supervision = .none →
      Finishes (calculate setting book chain).1 ∨
        (calculate setting book chain).1 = .error .indexNotNumber ∧
          BrokenOff false (calculate setting book chain).2) := by
  have htwins : ∀ (other : Setting) (twin : Workbook) (otherChain : Chain),
      other.options.iterative = false → other.supervision = setting.supervision →
      twin.inputs = book.inputs →
      (calculate other twin otherChain).1 = (calculate setting book chain).1 ∧
      ∀ statistics, (calculate setting book chain).1 = .ok statistics →
        statistics.completed = true →
          (calculate other twin otherChain).2.workbook =
            (calculate setting book chain).2.workbook := by
    intro other twin otherChain hother hsupervision hinputs
    obtain ⟨outcome, after, final, hrun, hotherRun, -, -, hsame⟩ :=
      calculate_together hiterative hother hsupervision hinputs hpredictable chain otherChain
    rw [hrun, hotherRun]
    exact ⟨rfl, fun statistics houtcome hdone => (hsame statistics houtcome hdone).symm⟩
  refine ⟨htwins, fun other hother hsupervision => ?_, fun broken brokenChain hbroken => ?_,
    fun hsheets hunwatched => ?_⟩
  · intro after
    have hinputs := calculate_inputs hiterative hpredictable chain
    obtain ⟨outcome, found, again, hrun, hagain, hfollow, hboth, -⟩ :=
      calculate_together hiterative hother hsupervision hinputs hpredictable chain after.chain
    have hafter : after = found := congrArg Prod.snd hrun
    rw [hrun, hagain, hafter]
    refine ⟨rfl, (Workbook.eq_of_result_eq hboth fun sheet position => ?_).symm⟩
    -- what the passes have not written is in the repeated one as the first one has left it
    rcases hfollow.results sheet position with hagree | ⟨-, hkept⟩
    · exact hagree
    · show found.workbook.result? sheet position = again.workbook.result? sheet position
      rw [hkept, ← hafter]
      rfl
  · exact htwins setting _ _ hiterative rfl (calculate_inputs hbroken hpredictable brokenChain)
  · have hfree : setting.supervision.refuseAfter = none ∧ setting.supervision.stopAfter = none := by
      rw [hunwatched]
      exact ⟨rfl, rfl⟩
    obtain ⟨outcome, after, hrun, -, hconcludes, -⟩ :=
      calculate_concludes hfree.1 hsheets hpredictable chain
    rw [hrun]
    rcases hconcludes with ⟨statistics, hreport, hdone⟩ | hbroken
    · exact Or.inl ⟨statistics, hreport, hdone hfree.2⟩
    · rw [hiterative] at hbroken
      exact Or.inr hbroken

section Samples

/-- The workbook with a text and its copy, where the copy shows what it once was. -/
def staleBook : Workbook :=
  .ofSheet ((copyBook.sheets.headD default).insert ⟨0, 1⟩ (.formula "=A1" (some (.text "y")))
    ⟨by decide, rfl⟩)

/-- The old copy makes no difference to a pass, and neither does a pass that was stopped before
it. -/
theorem calculate_forgets_of_stale_copy :
    plainSetting.options.iterative = false ∧ Predictable copyBook ∧
      staleBook.inputs = copyBook.inputs ∧ staleBook.shown 0 ⟨0, 1⟩ = .text "y" ∧
      copyBook.shown 0 ⟨0, 1⟩ = .empty ∧
      ∃ statistics, statistics.completed = true ∧
        let after := (calculate plainSetting copyBook .empty).2
        let again := calculate plainSetting staleBook .empty
        let stopped := (calculate { plainSetting with supervision := .stopped } copyBook .empty).2
        let resumed := calculate plainSetting stopped.workbook stopped.chain
        again.1 = .ok statistics ∧ again.2.workbook = after.workbook ∧
          resumed.1 = .ok statistics ∧ resumed.2.workbook = after.workbook := by
  refine ⟨rfl, predictable_copy_book, rfl, rfl, rfl, ?_⟩
  obtain ⟨htwins, -, hresumed, -⟩ :=
    calculate_forgets plainSetting rfl copyBook predictable_copy_book .empty
  have hrun := report_of_copy_book
  obtain ⟨hagain, hagainBook⟩ := htwins plainSetting staleBook .empty rfl rfl rfl
  obtain ⟨hafter, hafterBook⟩ := hresumed { plainSetting with supervision := .stopped } .empty rfl
  exact ⟨_, rfl, hagain.trans hrun, hagainBook _ hrun rfl, hafter.trans hrun,
    hafterBook _ hrun rfl⟩

end Samples

end Spreadsheet.Calculation
