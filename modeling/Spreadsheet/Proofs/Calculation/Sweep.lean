import Spreadsheet.Proofs.Calculation.Completion
import Spreadsheet.Proofs.Calculation.Pass
import Spreadsheet.Proofs.Number.Difference

/-!
# Iterating over cells

An iteration calculates cells one after the other, so that each of them finds new results of the
cells before it and old results of the others. The main theorems are `sweep_renews`, which says so
together with how much each number changes, and `iterate_settles`, which finds what the last of the
iterations that have converged has begun with.
-/

namespace Spreadsheet.Calculation

open Dependency (Chain FormulaCell)

section Changes

open Number (IsSize larger magnitude isNotNumber)

/-- Taking a change of results into account for the largest one. -/
theorem is_size_grown {largest : Float} (hlargest : IsSize largest) (before after : Cell) :
    let grown := ((Pass.change before after).map (larger largest)).getD largest
    IsSize grown ∧ magnitude largest ≤ magnitude grown ∧
      ∀ distance, Pass.change before after = some distance →
        isNotNumber distance = true ∨ magnitude distance ≤ magnitude grown := by
  intro grown
  have hsign : ∀ distance, Pass.change before after = some distance →
      Number.isNegative distance = false := by
    intro distance hdistance
    unfold Pass.change at hdistance
    split at hdistance
    · cases hdistance
      exact Number.is_negative_abs _
    · cases hdistance
  cases hchange : Pass.change before after with
  | none =>
      have hgrown : grown = largest := by simp [grown, hchange]
      rw [hgrown]
      exact ⟨hlargest, le_rfl, nofun⟩
  | some distance =>
      have hgrown : grown = larger largest distance := by simp [grown, hchange]
      rw [hgrown]
      obtain ⟨hsize, hkept, hbound⟩ := Number.is_size_larger hlargest (hsign distance hchange)
      refine ⟨hsize, hkept, fun found hfound => ?_⟩
      obtain rfl := Option.some.inj hfound
      exact hbound

end Changes

section Renewal

variable {setting : Setting} {cells : List FormulaCell} {cell other : FormulaCell}
  {before middle after : State} {final : Float}

/-- Whether each result in a workbook is one of an earlier workbook or one of a later one. -/
structure Between (early late book : Workbook) : Prop where
  inputs : book.inputs = early.inputs
  results : ∀ sheet position, book.result? sheet position = early.result? sheet position ∨
    book.result? sheet position = late.result? sheet position

/-- How an iteration renews the result of a cell: by a value that comes from results some of which
are old and some of which are new, and by a change no larger than the largest one. -/
structure Renewal (setting : Setting) (early late : Workbook) (final : Float) (cell : FormulaCell)
    where
  book : Workbook
  draw : Nat
  result : Cell
  between : Between early late book
  value : resultOf (Pass.evaluateIn setting book draw cell) = some result
  stored : late.result? cell.id.sheet cell.id.position = some result
  change : ∀ distance,
    Pass.change (early.shown cell.id.sheet cell.id.position) result = some distance →
      Number.isNotNumber distance = true ∨ Number.magnitude distance ≤ Number.magnitude final

/-- A cell stays where it is while another one is touched. -/
theorem Touches.result_of_ne (h : Touches [other] before after) (hne : cell.id ≠ other.id) :
    after.workbook.result? cell.id.sheet cell.id.position =
      before.workbook.result? cell.id.sheet cell.id.position := by
  refine h.others _ _ fun found hfound hat => hne ?_
  obtain rfl := List.mem_singleton.mp hfound
  exact (CellId.eq_of_place_eq hat.1 hat.2).symm

/-- What is renewed after another cell has got its result is renewed from before that. -/
def Renewal.of_touches {late : Workbook} (h : Renewal setting middle.workbook late final cell)
    (htouches : Touches [other] before middle) (hne : cell.id ≠ other.id)
    (hresult : late.result? other.id.sheet other.id.position =
      middle.workbook.result? other.id.sheet other.id.position) :
    Renewal setting before.workbook late final cell where
  book := h.book
  draw := h.draw
  result := h.result
  value := h.value
  stored := h.stored
  between := by
    refine ⟨h.between.inputs.trans htouches.inputs, fun sheet position => ?_⟩
    rcases h.between.results sheet position with hold | hnew
    · by_cases hat : other.IsAt sheet position
      · obtain ⟨rfl, rfl⟩ := hat
        exact Or.inr (hold.trans hresult.symm)
      · refine Or.inl (hold.trans (htouches.others sheet position fun found hfound => ?_))
        obtain rfl := List.mem_singleton.mp hfound
        exact hat
    · exact Or.inr hnew
  change := by
    rw [← Workbook.shown_eq_of_result_eq htouches.inputs (htouches.result_of_ne hne)]
    exact h.change

/-- Whether cells have been calculated once more from a state, and have settled by it. -/
structure Settled (setting : Setting) (cells : List FormulaCell) (before after : State) : Prop where
  touches : Touches cells before after
  renewed : ∃ final, Number.IsSize final ∧ final ≤ setting.options.maxChange ∧
    ∀ cell ∈ cells, Nonempty (Renewal setting before.workbook after.workbook final cell)

/-- Counting leaves settled cells settled. -/
theorem Settled.count (h : Settled setting cells before middle)
    (hworkbook : after.workbook = middle.workbook) (hchain : after.chain = middle.chain) :
    Settled setting cells before after := by
  refine ⟨h.touches.trans (.of_eq hworkbook hchain), ?_⟩
  rw [hworkbook]
  exact h.renewed

end Renewal

namespace Pass

section Ends

variable {α β γ : Type} {state : State} {broken : State → Prop} {pass : Pass α}
  {view : State → γ}

/-- What a step keeps is known of the state in which it ends. -/
theorem Ends.keeping {post : α → State → Prop} (h : Ends pass state broken post)
    (hkeeps : Keeps view pass state) :
    Ends pass state broken fun value after => post value after ∧ view after = view state := by
  refine h.imp_left ?_
  rintro ⟨value, after, hrun, hpost⟩
  unfold Keeps at hkeeps
  rw [hrun] at hkeeps
  exact ⟨value, after, hrun, hpost, hkeeps⟩

/-- Two passes side by side go on from where they have come to. If the second one is broken off by
then, the first one goes on alone. -/
theorem Ends.bind_apart {twin : Pass α} {other : State} {goOn otherOn : α → Pass β}
    {first : α → State → State → Prop} {apart : β → State → State → Prop}
    {mid : α → State → α → State → Prop} {post : β → State → β → State → Prop}
    (hpass : Ends pass state broken fun value after =>
      Ends twin other (first value after) (mid value after))
    (halone : ∀ value after final, first value after final →
      Ends (goOn value) after broken fun result last => apart result last final)
    (hgoOn : ∀ value after found final, mid value after found final →
      Ends (goOn value) after broken fun result last =>
        Ends (otherOn found) final (apart result last) (post result last)) :
    Ends (pass >>= goOn) state broken fun result last =>
      Ends (twin >>= otherOn) other (apart result last) (post result last) := by
  refine hpass.bind fun value after hother => ?_
  rcases hother with ⟨found, final, hrun, hmid⟩ | ⟨final, hrun, hfirst⟩
  · refine (hgoOn value after found final hmid).mono fun result last hlast => ?_
    unfold Ends
    rw [ExceptT.run_bind, StateT.run_bind, hrun]
    exact hlast
  · refine (halone value after final hfirst).mono fun result last hapart =>
      Or.inr ⟨final, ?_, hapart⟩
    rw [ExceptT.run_bind, StateT.run_bind, hrun]
    rfl

/-- Passes that begin alike come to the same state before they differ. -/
theorem Ends.bind_both {goOn otherOn : α → Pass β} {apart : β → State → State → Prop}
    {mid : α → State → Prop} {post : β → State → β → State → Prop}
    (hpass : Ends pass state broken mid)
    (hgoOn : ∀ value after, mid value after → Ends (goOn value) after broken fun result final =>
      Ends (otherOn value) after (apart result final) (post result final)) :
    Ends (pass >>= goOn) state broken fun result final =>
      Ends (pass >>= otherOn) state (apart result final) (post result final) := by
  have hsame : Ends pass state broken fun value after =>
      Ends pass state (fun _ => False) fun found final =>
        (found = value ∧ final = after) ∧ mid value after := by
    refine hpass.imp_left ?_
    rintro ⟨value, after, hrun, hmid⟩
    exact ⟨value, after, hrun, .inl ⟨value, after, hrun, ⟨rfl, rfl⟩, hmid⟩⟩
  refine hsame.bind_apart (fun _ _ _ => False.elim) ?_
  rintro value after _ _ ⟨⟨rfl, rfl⟩, hmid⟩
  exact hgoOn _ _ hmid

end Ends

/-- What is known of an iteration as it goes on. -/
def progress (state : State) : Nat × Bool :=
  (state.statistics.iterations, state.statistics.converged)

/-- Nothing that calculating single formulas changes is part of the progress of a pass. -/
theorem blind_progress : Blind progress where
  results _ _ _ := rfl
  chain _ _ := rfl
  evaluated _ _ := rfl
  counts _ _ _ := rfl

variable {setting : Setting} {state : State}

open Number (IsSize magnitude)

/-- An iteration renews the result of every cell, unless one of them is stuck. -/
theorem sweep_renews (hrefuse : setting.supervision.refuseAfter = none) (first : Bool)
    (cells : List FormulaCell) (hcells : ∀ cell ∈ cells, Calculable state.workbook cell)
    (hdistinct : cells.Pairwise fun earlier later => later.id ≠ earlier.id) {largest : Float}
    (hlargest : IsSize largest) :
    Ends (sweep setting first cells largest) state (BrokenWithin cells state) fun found after =>
      Touches cells state after ∧ (found = none → after.statistics.completed = false) ∧
      ∀ final, found = some final → IsSize final ∧ magnitude largest ≤ magnitude final ∧
        ∀ cell ∈ cells, Nonempty (Renewal setting state.workbook after.workbook final cell) := by
  induction cells generalizing state largest with
  | nil =>
      refine ends_pure ⟨.of_eq rfl rfl, nofun, fun final hfinal => ?_⟩
      obtain rfl := Option.some.inj hfinal
      exact ⟨hlargest, le_rfl, by simp⟩
  | cons cell rest ih =>
      obtain ⟨hothers, hrest⟩ := List.pairwise_cons.mp hdistinct
      refine Ends.of_is_stopped ?_
      split
      · exact Ends.of_modify (ends_pure ⟨.of_eq rfl rfl, fun _ => rfl, nofun⟩)
      · refine Ends.of_get (((run_cell_ends hrefuse (hcells cell (by simp))).mono_broken
          fun _ ⟨hnone, hstuck⟩ => ⟨hnone.mono (by simp), cell, by simp, hstuck⟩).bind
            fun result ran hran => ?_)
        obtain ⟨htouches, ⟨hvalue, hstored⟩, -⟩ := hran
        obtain ⟨hgrown, hkept, hchange⟩ :=
          is_size_grown hlargest (state.workbook.shown cell.id.sheet cell.id.position) result
        -- only the first iteration counts the cell before the rest follows
        have hgoOn : ∀ counted : State, Touches [cell] state counted →
            counted.workbook = ran.workbook →
            Ends (sweep setting first rest (((change (state.workbook.shown cell.id.sheet
              cell.id.position) result).map (Number.larger largest)).getD largest)) counted
              (BrokenWithin (cell :: rest) state) fun found after =>
                Touches (cell :: rest) state after ∧
                (found = none → after.statistics.completed = false) ∧
                ∀ final, found = some final → IsSize final ∧ magnitude largest ≤ magnitude final ∧
                  ∀ other ∈ cell :: rest,
                    Nonempty (Renewal setting state.workbook after.workbook final other) := by
          intro counted hcounted hworkbook
          have hmore : Touches (cell :: rest) state counted := hcounted.mono (by simp)
          refine ((ih (fun other hother => hcounted.calculable (hcells other (by simp [hother])))
            hrest hgrown).mono_broken fun _ hbroken =>
              hbroken.after_touches hmore fun other hother => by simp [hother]).mono ?_
          rintro found after ⟨hafter, hstopped, hrenews⟩
          refine ⟨hmore.trans (hafter.mono fun other hother => by simp [hother]), hstopped,
            fun final hfinal => ?_⟩
          obtain ⟨hsize, hleast, hrenewals⟩ := hrenews final hfinal
          have hown : after.workbook.result? cell.id.sheet cell.id.position =
              counted.workbook.result? cell.id.sheet cell.id.position := by
            refine hafter.others _ _ fun other hother hat => hothers other hother ?_
            exact CellId.eq_of_place_eq hat.1 hat.2
          have hfirst : Renewal setting state.workbook after.workbook final cell := by
            refine ⟨state.workbook, state.evaluated, result, ⟨rfl, fun _ _ => .inl rfl⟩, hvalue, ?_,
              fun distance hdistance => ?_⟩
            · rw [hown, hworkbook, hstored]
            · exact (hchange distance hdistance).imp_right fun hle => hle.trans hleast
          refine ⟨hsize, hkept.trans hleast,
            List.forall_mem_cons.mpr ⟨.intro hfirst, fun other hother => ?_⟩⟩
          obtain ⟨hrenewal⟩ := hrenewals other hother
          exact ⟨hrenewal.of_touches hcounted (hothers other hother) hown⟩
        split
        · exact Ends.of_count fun counted hworkbook hchain _ =>
            hgoOn counted (htouches.trans (.of_eq hworkbook hchain)) hworkbook
        · exact hgoOn _ htouches rfl

section Iterations

variable {cells : List FormulaCell} (hrefuse : setting.supervision.refuseAfter = none)
  (hcells : ∀ cell ∈ cells, Calculable state.workbook cell)
  (hdistinct : cells.Pairwise fun earlier later => later.id ≠ earlier.id)
  (hunsettled : state.statistics.converged = false)
include hrefuse hcells hdistinct hunsettled

/-- What a single iteration does. It leaves it to those who iterate to say whether it was the last
one. -/
theorem iteration_ends (done : Nat) :
    Ends (count (fun statistics => { statistics with iterations := done + 1 }) >>= fun _ =>
        sweep setting (done == 0) cells 0.0) state (BrokenWithin cells state) fun found after =>
      Touches cells state after ∧ (found = none → after.statistics.completed = false) ∧
      after.statistics.iterations = done + 1 ∧ after.statistics.converged = false ∧
      (∀ final, found = some final → final ≤ setting.options.maxChange →
        Settled setting cells state after) := by
  refine Ends.of_count fun counted hworkbook hchain hstatistics => ?_
  rw [← hworkbook] at hcells
  have hcounted : Touches cells state counted := .of_eq hworkbook hchain
  refine (((sweep_renews hrefuse _ cells hcells hdistinct Number.is_size_zero).mono_broken
    fun _ hbroken => hbroken.after_touches hcounted fun _ => id).keeping
      (keeps_sweep blind_progress (.inr fun _ => rfl) _ _ _ _)).mono ?_
  rintro found after ⟨⟨hswept, hstopped, hrenews⟩, hprogress⟩
  obtain ⟨hiterations, hconverged⟩ := Prod.mk.inj hprogress
  have htouches : Touches cells state after := hcounted.trans hswept
  refine ⟨htouches, hstopped, ?_, ?_, fun final hfinal hsmall => ⟨htouches, final, ?_⟩⟩
  · rw [hiterations, hstatistics]
  · rw [hconverged, hstatistics, hunsettled]
  · obtain ⟨hsize, -, hrenewals⟩ := hrenews final hfinal
    rw [hworkbook] at hrenewals
    exact ⟨hsize, hsmall, hrenewals⟩

/-- Iterations that converge do so after those done, and if the next one is enough, it has settled
the cells. -/
theorem iterate_first (remaining done : Nat) :
    Ends (iterate setting cells remaining done) state (BrokenWithin cells state)
      fun finished after =>
        Touches cells state after ∧ (finished = false → after.statistics.completed = false) ∧
        (after.statistics.converged = true → done < after.statistics.iterations ∧
          (after.statistics.iterations = done + 1 → Settled setting cells state after)) := by
  induction remaining generalizing state done with
  | zero => exact ends_pure ⟨.of_eq rfl rfl, nofun, by simp [hunsettled]⟩
  | succ remaining ih =>
      unfold iterate
      rw [← bind_assoc]
      refine (iteration_ends hrefuse hcells hdistinct hunsettled done).bind
        fun found swept hswept => ?_
      obtain ⟨htouches, hstopped, hiterations, hconverged, hsettled⟩ := hswept
      cases found with
      | none => exact ends_pure ⟨htouches, fun _ => hstopped rfl, by simp [hconverged]⟩
      | some final =>
          dsimp only
          split
          next hsmall =>
            refine Ends.of_count fun counted hworkbook hchain hstatistics => ends_pure ?_
            have hcounted : Touches cells swept counted := .of_eq hworkbook hchain
            refine ⟨htouches.trans hcounted, nofun, fun _ => ⟨?_, fun _ => ?_⟩⟩
            · rw [hstatistics]
              exact hiterations ▸ Nat.lt_succ_self done
            · exact (hsettled final rfl hsmall).count hworkbook hchain
          next =>
            refine ((ih (fun cell hcell => htouches.calculable (hcells cell hcell)) hconverged
              (done + 1)).mono_broken fun _ hbroken =>
                hbroken.after_touches htouches fun _ => id).mono ?_
            rintro finished after ⟨hafter, hfinished, hlater⟩
            refine ⟨htouches.trans hafter, hfinished, fun hdone => ?_⟩
            have hlt := (hlater hdone).1
            exact ⟨by omega, fun heq => by omega⟩

/-- Of iterations that have converged, all but the last one leave the cells as the last one has
found them, and this one has settled them. More iterations than these are broken off apart from
them only if they have not converged. -/
theorem iterate_settles (remaining count done : Nat) :
    Ends (iterate setting cells remaining done) state (BrokenWithin cells state)
      fun finished after =>
        Ends (iterate setting cells count done) state
          (fun _ => Touches cells state after ∧ after.statistics.converged = false)
          fun _ earlier =>
            Touches cells state after ∧ Touches cells state earlier ∧
            (finished = false → after.statistics.completed = false) ∧
            (after.statistics.converged = true → done < after.statistics.iterations ∧
              (after.statistics.iterations = done + count + 1 →
                Settled setting cells earlier after)) := by
  induction count generalizing state remaining done with
  | zero =>
      refine (iterate_first hrefuse hcells hdistinct hunsettled remaining done).mono ?_
      rintro finished after ⟨htouches, hstopped, hconverged⟩
      exact ends_pure ⟨htouches, .of_eq rfl rfl, hstopped, hconverged⟩
  | succ count ih =>
      cases remaining with
      | zero =>
          -- only iterations that the other pass does not do can break it off apart from this one
          refine ends_pure (((iterate_ends hrefuse cells hcells (count + 1) done).mono_broken
            fun _ _ => ⟨.of_eq rfl rfl, hunsettled⟩).mono ?_)
          rintro _ earlier ⟨htouches, -⟩
          exact ⟨.of_eq rfl rfl, htouches, nofun, by simp [hunsettled]⟩
      | succ remaining =>
          unfold iterate
          rw [← bind_assoc, ← bind_assoc]
          refine (iteration_ends hrefuse hcells hdistinct hunsettled done).bind_both
            fun found swept hswept => ?_
          obtain ⟨htouches, hstopped, hiterations, hconverged, -⟩ := hswept
          cases found with
          | none =>
              exact ends_pure (ends_pure ⟨htouches, htouches, fun _ => hstopped rfl,
                by simp [hconverged]⟩)
          | some final =>
              dsimp only
              split
              next hsmall =>
                refine Ends.of_count fun counted hworkbook hchain hstatistics => ends_pure ?_
                refine Ends.of_count fun _ hworkbookToo hchainToo _ => ends_pure ?_
                refine ⟨htouches.trans (.of_eq hworkbook hchain),
                  htouches.trans (.of_eq hworkbookToo hchainToo), nofun, fun _ => ?_⟩
                have hown : counted.statistics.iterations = done + 1 := by
                  rw [hstatistics, hiterations]
                exact ⟨by omega, fun heq => by omega⟩
              next =>
                refine ((ih (fun cell hcell => htouches.calculable (hcells cell hcell)) hconverged
                  remaining (done + 1)).mono_broken fun _ hbroken =>
                    hbroken.after_touches htouches fun _ => id).mono ?_
                rintro finished after hearlier
                refine (hearlier.mono_broken fun _ hbroken =>
                  ⟨htouches.trans hbroken.1, hbroken.2⟩).mono ?_
                rintro _ earlier ⟨hafter, hbefore, hfinished, hlater⟩
                refine ⟨htouches.trans hafter, htouches.trans hbefore, hfinished, fun hdone => ?_⟩
                obtain ⟨hlt, hsettled⟩ := hlater hdone
                exact ⟨by omega, fun heq => hsettled (by omega)⟩

end Iterations

end Pass

end Spreadsheet.Calculation
