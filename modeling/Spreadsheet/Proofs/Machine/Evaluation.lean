import Spreadsheet.Proofs.Evaluation.Locality
import Spreadsheet.Proofs.Machine.Calls

/-!
# Evaluation on a machine

Evaluation itself has no operations that can stop a machine, but the functions that it calls do.
The main theorem, `evaluate_runs`, says that the evaluation of a formula ends with its value or
with its failure, unless a machine is stopped in one of three functions by a number that is not a
number: in `VLOOKUP` or `HLOOKUP`, which then step below zero, or in `RANDBETWEEN`, which then has
no number to draw. These are the places where an evaluation without a machine breaks off.
-/

namespace Spreadsheet.Machine

open Evaluation (Operands directRange referenceOperand namedRange combine transform roomForNames)
open Formula (Expr FormulaError)

/-- Where a machine is stopped: by a function with operands. -/
structure Stop where
  function : Builtin
  operands : List Operand
  trap : Trap

/-- A computation that may fail, and that may be stopped by a function. -/
abbrev Running := ExceptT FormulaError (Except Stop)

/-- How defined names are resolved on a machine. -/
abbrev Resolver := (sheet : Option String) → (name : String) → Seed → Running Value

/-- Applies a function to operands, unless there is an error value among them. -/
def apply (function : Builtin) (context : Context) (seed : Seed) : Operands Operand → Running Value
  | .error fault => return .error fault
  | .ok operands =>
    ExceptT.mk ((call function context seed operands).mapError fun trap =>
      ⟨function, operands, trap⟩)

mutual

/-- The value of an expression, given how names are resolved. -/
def evaluateWith (context : Context) (resolve : Resolver) : Expr → Seed → Running Value
  | .number amount, _ => return .number amount
  | .text content, _ => return .text content
  | .logical truth, _ => return .logical truth
  | .error fault, _ => return .error fault
  | .cell sheet address, _ => return context.cellValue sheet address.position
  | .range sheet range, _ =>
    match context.rangeAddress sheet range with
    | .ok address => return context.rangeValues address
    | .error fault => return .error fault
  | .name sheet name, seed => resolve sheet name seed
  | .binary operator left right, seed => do
    let left ← evaluateWith context resolve left (seed.child 0)
    let right ← evaluateWith context resolve right (seed.child 1)
    return combine operator left.scalar right.scalar
  | .unary operator operand, seed => do
    return transform operator (← evaluateWith context resolve operand (seed.child 0))
  | .call name operands, seed =>
    match Builtin.find? name with
    | none => return .error .name
    | some function =>
      if !function.accepts operands.length then return .error .value
      else if function.takesReferences then do
        apply function context seed
          (← operandReferences context resolve function.intercepts operands (seed.child 0))
      else do
        let values ← operandValues context resolve function.intercepts operands (seed.child 0)
        apply function context seed (values.map (List.map .value))
  | .array rows, seed => do return .array (← evaluateRows context resolve rows seed)

/-- The values of the operands of a call. -/
def operandValues (context : Context) (resolve : Resolver) (intercepts : Bool) :
    List Expr → Seed → Running (Operands Value)
  | [], _ => return .ok []
  | tree :: rest, seed => do
    let value ← evaluateWith context resolve tree (seed.child 0)
    match if intercepts then none else value.error? with
    | some fault => return .error fault
    | none =>
      let others ← operandValues context resolve intercepts rest (seed.child 1)
      return others.map (value :: ·)

/-- The operands of a call, with ranges as they are. -/
def operandReferences (context : Context) (resolve : Resolver) (intercepts : Bool) :
    List Expr → Seed → Running (Operands Operand)
  | [], _ => return .ok []
  | tree :: rest, seed => do
    let operand ← match referenceOperand context tree with
      | some operand => pure operand
      | none => Operand.value <$> evaluateWith context resolve tree (seed.child 0)
    match if intercepts then none else operand.value?.bind Value.error? with
    | some fault => return .error fault
    | none =>
      let others ← operandReferences context resolve intercepts rest (seed.child 1)
      return others.map (operand :: ·)

/-- The values of the rows of an array constant. -/
def evaluateRows (context : Context) (resolve : Resolver) :
    List (List Expr) → Seed → Running (List (List Value))
  | [], _ => return []
  | row :: rest, seed => do
    let values ← evaluateRow context resolve row (seed.child 0)
    return values :: (← evaluateRows context resolve rest (seed.child 1))

/-- The values of one row of an array constant. -/
def evaluateRow (context : Context) (resolve : Resolver) :
    List Expr → Seed → Running (List Value)
  | [], _ => return []
  | tree :: rest, seed => do
    let value ← evaluateWith context resolve tree (seed.child 0)
    return value :: (← evaluateRow context resolve rest (seed.child 1))

end

/-- The value of a defined name while some definitions are in progress, given how to evaluate the
expression of another one. -/
def nameValue (context : Context) (inProgress : List NameKey)
    (evaluateDefinition : DefinedName → Expr → Seed → Running Value) : Resolver :=
  fun sheet name seed =>
    match context.definition sheet name with
    | .error fault => return .error fault
    | .ok none => return .error .name
    | .ok (some definition) =>
      match definition.constant with
      | some value => return value
      | none =>
        if inProgress.contains definition.key then throw (.circularName definition.name)
        else match definition.parsed with
          | .error _ => return .error .name
          | .ok tree => evaluateDefinition definition tree seed

/-- The value of a defined name, with room for definitions as without a machine. -/
def resolveName (context : Context) : (room : Nat) → (inProgress : List NameKey) → Resolver
  | 0, inProgress =>
    nameValue context inProgress fun definition _ _ => throw (.circularName definition.name)
  | room + 1, inProgress =>
    nameValue context inProgress fun definition =>
      evaluateWith context (resolveName context room (definition.key :: inProgress))

/-- The value of an expression. -/
def evaluate (context : Context) (tree : Expr) (seed : Seed) : Running Value :=
  evaluateWith context (resolveName context (roomForNames context) []) tree seed

/-! ## Operands inside the grid -/

section Operands

variable {context : Context} {tree : Expr} {operand : Operand}

/-- A range that an expression within the grid stands for lies in the grid. -/
theorem direct_range_in_grid (h : tree.InGrid) {address : SheetRange}
    (hrange : directRange context tree = some (.ok address)) : address.Within inGrid := by
  cases tree with
  | cell sheet corner =>
      obtain ⟨index, -, rfl⟩ := except_map_eq_ok_iff.mp (Option.some.inj hrange)
      exact CellRange.in_grid_single h
  | range sheet area =>
      obtain ⟨index, -, rfl⟩ := except_map_eq_ok_iff.mp (Option.some.inj hrange)
      exact h
  | _ => cases hrange

/-- The range that a defined name stands for is one of its definition, which was read. -/
theorem named_range_in_grid {sheet : Option String} {name : String} {address : SheetRange}
    (h : namedRange context sheet name = some address) : address.Within inGrid := by
  simp only [namedRange, bind, Option.bind_eq_some_iff, to_option_eq_some_iff] at h
  obtain ⟨found, -, definition, rfl, tree, hparsed, range, hdirect, rfl⟩ := h
  exact direct_range_in_grid (Formula.in_grid_of_parse hparsed) hdirect

/-- A reference that an expression within the grid is read as lies in the grid. -/
theorem reference_operand_in_grid (h : tree.InGrid)
    (hoperand : referenceOperand context tree = some operand) : operand.Within inGrid := by
  cases tree with
  | name sheet name =>
      obtain ⟨address, haddress, rfl⟩ := Option.map_eq_some_iff.mp hoperand
      exact named_range_in_grid haddress
  | cell | range =>
      simp only [referenceOperand, Option.map_eq_some_iff] at hoperand
      obtain ⟨found, hfound, rfl⟩ := hoperand
      cases found with
      | error fault => exact trivial
      | ok address => exact direct_range_in_grid h hfound
  | _ => simp [referenceOperand, directRange] at hoperand

/-- The operands of a call within the grid lie in the grid. -/
theorem operand_references_in_grid {resolve : Evaluation.Resolver} {intercepts : Bool}
    {trees : List Expr} (h : Expr.AllInGrid trees) {seed : Seed} {found : List Operand}
    (hfound : Evaluation.operandReferences context resolve intercepts trees seed =
      .ok (.ok found)) : AllInGrid found := by
  induction trees generalizing seed found with
  | nil =>
      obtain rfl : [] = found := by simpa [Evaluation.operandReferences] using hfound
      exact nofun
  | cons tree rest ih =>
      cases hreference : referenceOperand context tree with
      | some operand =>
          simp only [Evaluation.operandReferences, hreference] at hfound
          obtain ⟨tail, hrest, rfl⟩ := Evaluation.operands_cons_eq_ok hfound
          exact List.forall_mem_cons.mpr
            ⟨reference_operand_in_grid h.1 hreference, ih h.2 hrest⟩
      | none =>
          simp only [Evaluation.operandReferences, hreference] at hfound
          obtain ⟨operand, hoperand, hfound⟩ := bind_eq_ok_iff.mp hfound
          obtain ⟨value, -, rfl⟩ := except_map_eq_ok_iff.mp hoperand
          obtain ⟨tail, hrest, rfl⟩ := Evaluation.operands_cons_eq_ok hfound
          exact List.forall_mem_cons.mpr ⟨trivial, ih h.2 hrest⟩

end Operands

/-! ## Runs -/

/-- Whether a computation on a machine follows one without, which breaks off only where the machine
is stopped in a way that is expected. -/
structure Runs {α : Type} (context : Context) (running : Running α)
    (plain : Except FormulaError α) : Prop where
  follows : Follows
    (fun (stop : Stop) failure => Slips context stop.operands stop.function stop.trap failure)
    running plain
  unbroken : ∀ failure, Breaking failure → running.run ≠ .ok (.error failure)

namespace Runs

variable {α β : Type} {context : Context} {running : Running α} {plain : Except FormulaError α}

/-- A result is reached without a machine being stopped. -/
theorem pure (result : α) : Runs context (Pure.pure result) (.ok result) :=
  ⟨.pure result, fun _ _ => nofun⟩

/-- That a name is needed for its own value is a failure of both. -/
theorem circular (name : String) : Runs context (throw (.circularName name) : Running α)
    (.error (.circularName name)) := by
  refine ⟨.throw _, ?_⟩
  rintro failure (rfl | rfl) <;> nofun

/-- Computations one after the other run if each of them does. -/
theorem bind {next : α → Running β} {plainNext : α → Except FormulaError β}
    (h : Runs context running plain)
    (hnext : ∀ result, plain = .ok result → Runs context (next result) (plainNext result)) :
    Runs context (running >>= next) (plain >>= plainNext) := by
  refine ⟨h.follows.bind fun result hresult => (hnext result hresult).follows,
    fun failure hbreaking => ?_⟩
  rw [ExceptT.run_bind]
  rcases h.follows with hrun | ⟨_, _, -, hrun, -⟩
  · cases plain with
    | error fault =>
        rw [hrun]
        intro hfailure
        refine h.unbroken failure hbreaking (hrun.trans ?_)
        cases hfailure
        rfl
    | ok result =>
        rw [hrun]
        exact (hnext result rfl).unbroken failure hbreaking
  · rw [hrun]
    nofun

/-- Mapping a result leaves a computation that runs as it should. -/
theorem map (h : Runs context running plain) (f : α → β) :
    Runs context (f <$> running) (plain.map f) := by
  have hmapped : Runs context (f <$> running) (plain >>= fun result => .ok (f result)) :=
    h.bind fun result _ => .pure (f result)
  cases plain <;> exact hmapped

/-- An operand before others, unless it is an error value that stops them. -/
theorem others {running : Running (Operands α)} {plain : Except FormulaError (Operands α)}
    (h : Runs context running plain) (fault : Option ErrorValue) (operand : α) :
    Runs context
      (match fault with
        | some fault => Pure.pure (.error fault)
        | none => do return (← running).map (operand :: ·))
      (match fault with
        | some fault => Pure.pure (.error fault)
        | none => do return (← plain).map (operand :: ·)) := by
  cases fault with
  | some fault => exact .pure _
  | none => exact h.bind fun _ _ => .pure _

end Runs

/-! ## Calls and trees -/

section Trees

variable {context : Context}

/-- Operands that are values are applied in the same way whether or not they could be ranges. -/
theorem apply_values_eq (function : Builtin) (context : Context) (seed : Seed)
    (values : Operands Value) : Evaluation.applyValues function context seed values =
      Evaluation.applyReferences function context seed (values.map (List.map .value)) := by
  cases values with
  | error fault => rfl
  | ok values =>
      have hvalues : (values.map Operand.value).map context.operandValue = values := by
        rw [List.map_map]
        exact List.map_id values
      cases hbody : function.body <;>
        simp only [Evaluation.applyValues, Evaluation.applyReferences, Except.map, hbody, hvalues]

/-- Applying a function to operands within the grid runs as it should. -/
theorem runs_apply (hdate : InCalendar context.moment.date) {function : Builtin}
    (hfunction : function ∈ Builtin.all) (seed : Seed) {operands : Operands Operand}
    (hgrid : ∀ found, operands = .ok found → AllInGrid found) :
    Runs context (apply function context seed operands)
      (Evaluation.applyReferences function context seed operands) := by
  cases operands with
  | error fault => exact .pure _
  | ok operands =>
      have hrun : (apply function context seed (.ok operands)).run =
          (call function context seed operands).mapError (Stop.mk function operands) := rfl
      have hsound : Sound context seed operands function :=
        call_sound seed hdate (hgrid _ rfl) hfunction
      -- a call that is stopped stops the run, and any other is its last part
      rcases hsound with ⟨hcall, hplain⟩ | ⟨trap, failure, hslips, hcall, hbreaks⟩ <;>
        rw [hcall] at hrun
      · refine ⟨Or.inl hrun, fun failure hbreaking => ?_⟩
        rw [hrun]
        exact fun hfailure => hplain failure hbreaking (Except.ok.inj hfailure)
      · refine ⟨Or.inr ⟨_, failure, hslips, hrun, hbreaks⟩, fun _ _ => ?_⟩
        rw [hrun]
        nofun

variable {resolve : Resolver} {plain : Evaluation.Resolver}

/-- Whether resolving names on a machine follows a resolver. -/
def RunsNames (context : Context) (resolve : Resolver) (plain : Evaluation.Resolver) : Prop :=
  ∀ sheet name seed, Runs context (resolve sheet name seed) (plain sheet name seed)

mutual

/-- The evaluation of an expression follows if resolving names does. -/
theorem runs_evaluate (hdate : InCalendar context.moment.date)
    (hresolve : RunsNames context resolve plain) (tree : Expr) (htree : tree.InGrid) (seed : Seed) :
    Runs context (evaluateWith context resolve tree seed)
      (Evaluation.evaluateWith context plain tree seed) := by
  cases tree with
  | number | text | logical | error | cell =>
      simp only [evaluateWith, Evaluation.evaluateWith]
      exact .pure _
  | range sheet area =>
      simp only [evaluateWith, Evaluation.evaluateWith]
      cases context.rangeAddress sheet area <;> exact .pure _
  | name sheet name =>
      simp only [evaluateWith, Evaluation.evaluateWith]
      exact hresolve sheet name seed
  | binary operator left right =>
      simp only [evaluateWith, Evaluation.evaluateWith]
      exact (runs_evaluate hdate hresolve left htree.1 _).bind fun _ _ =>
        (runs_evaluate hdate hresolve right htree.2 _).bind fun _ _ => .pure _
  | unary operator operand =>
      simp only [evaluateWith, Evaluation.evaluateWith]
      exact (runs_evaluate hdate hresolve operand htree _).bind fun _ _ => .pure _
  | call name operands =>
      simp only [evaluateWith, Evaluation.evaluateWith]
      cases hfind : Builtin.find? name with
      | none => exact .pure _
      | some function =>
          have hfunction := Builtin.mem_of_find hfind
          dsimp only
          split_ifs
          · exact .pure _
          · refine (runs_references hdate hresolve _ operands htree _).bind fun found hfound => ?_
            refine runs_apply hdate hfunction seed ?_
            rintro operands rfl
            exact operand_references_in_grid htree hfound
          · refine (runs_values hdate hresolve _ operands htree _).bind fun found _ => ?_
            rw [apply_values_eq]
            refine runs_apply hdate hfunction seed fun operands hoperands operand hoperand => ?_
            obtain ⟨values, -, rfl⟩ := except_map_eq_ok_iff.mp hoperands
            obtain ⟨value, -, rfl⟩ := List.mem_map.mp hoperand
            exact trivial
  | array rows =>
      simp only [evaluateWith, Evaluation.evaluateWith]
      exact (runs_rows hdate hresolve rows htree _).bind fun _ _ => .pure _

/-- The same of operands that are evaluated. -/
theorem runs_values (hdate : InCalendar context.moment.date)
    (hresolve : RunsNames context resolve plain) (intercepts : Bool) (trees : List Expr)
    (htrees : Expr.AllInGrid trees) (seed : Seed) :
    Runs context (operandValues context resolve intercepts trees seed)
      (Evaluation.operandValues context plain intercepts trees seed) := by
  cases trees with
  | nil =>
      simp only [operandValues, Evaluation.operandValues]
      exact .pure _
  | cons tree rest =>
      simp only [operandValues, Evaluation.operandValues]
      exact (runs_evaluate hdate hresolve tree htrees.1 _).bind fun _ _ =>
        (runs_values hdate hresolve intercepts rest htrees.2 _).others _ _

/-- The same of operands that are references or evaluated. -/
theorem runs_references (hdate : InCalendar context.moment.date)
    (hresolve : RunsNames context resolve plain) (intercepts : Bool) (trees : List Expr)
    (htrees : Expr.AllInGrid trees) (seed : Seed) :
    Runs context (operandReferences context resolve intercepts trees seed)
      (Evaluation.operandReferences context plain intercepts trees seed) := by
  cases trees with
  | nil =>
      simp only [operandReferences, Evaluation.operandReferences]
      exact .pure _
  | cons tree rest =>
      simp only [operandReferences, Evaluation.operandReferences]
      have hrest := runs_references hdate hresolve intercepts rest htrees.2 (seed.child 1)
      cases referenceOperand context tree with
      | some operand => exact (Runs.pure operand).bind fun _ _ => hrest.others _ _
      | none =>
          exact ((runs_evaluate hdate hresolve tree htrees.1 _).map _).bind fun _ _ =>
            hrest.others _ _

/-- The same of the rows of an array constant. -/
theorem runs_rows (hdate : InCalendar context.moment.date)
    (hresolve : RunsNames context resolve plain) (rows : List (List Expr))
    (hrows : Expr.RowsInGrid rows) (seed : Seed) :
    Runs context (evaluateRows context resolve rows seed)
      (Evaluation.evaluateRows context plain rows seed) := by
  cases rows with
  | nil =>
      simp only [evaluateRows, Evaluation.evaluateRows]
      exact .pure _
  | cons row rest =>
      simp only [evaluateRows, Evaluation.evaluateRows]
      exact (runs_row hdate hresolve row hrows.1 _).bind fun _ _ =>
        (runs_rows hdate hresolve rest hrows.2 _).bind fun _ _ => .pure _

/-- The same of one row of an array constant. -/
theorem runs_row (hdate : InCalendar context.moment.date)
    (hresolve : RunsNames context resolve plain) (trees : List Expr)
    (htrees : Expr.AllInGrid trees) (seed : Seed) :
    Runs context (evaluateRow context resolve trees seed)
      (Evaluation.evaluateRow context plain trees seed) := by
  cases trees with
  | nil =>
      simp only [evaluateRow, Evaluation.evaluateRow]
      exact .pure _
  | cons tree rest =>
      simp only [evaluateRow, Evaluation.evaluateRow]
      exact (runs_evaluate hdate hresolve tree htrees.1 _).bind fun _ _ =>
        (runs_row hdate hresolve rest htrees.2 _).bind fun _ _ => .pure _

end

end Trees

section Names

variable {context : Context} {inProgress : List NameKey}

/-- A name follows if the definitions do that can be read. -/
theorem runs_name_value {evaluateDefinition : DefinedName → Expr → Seed → Running Value}
    {plainDefinition : DefinedName → Expr → Seed → Evaluation.Outcome}
    (h : ∀ definition tree seed, tree.InGrid →
      Runs context (evaluateDefinition definition tree seed)
        (plainDefinition definition tree seed)) :
    RunsNames context (nameValue context inProgress evaluateDefinition)
      (Evaluation.nameValue context inProgress plainDefinition) := by
  intro sheet name seed
  unfold nameValue Evaluation.nameValue
  cases context.definition sheet name with
  | error fault => exact .pure _
  | ok found =>
      cases found with
      | none => exact .pure _
      | some definition =>
          dsimp only
          cases definition.constant with
          | some value => exact .pure _
          | none =>
              dsimp only
              split
              · exact .circular _
              · cases hparsed : definition.parsed with
                | error refusal => exact .pure _
                | ok tree => exact h definition tree seed (Formula.in_grid_of_parse hparsed)

/-- The value of a defined name runs as it should, whatever the room is. -/
theorem runs_resolve_name (hdate : InCalendar context.moment.date) (room : Nat) :
    RunsNames context (resolveName context room inProgress)
      (Evaluation.resolveName context room inProgress) := by
  -- on the room: what is evaluated for a name has one unit less, and more definitions in progress
  induction room generalizing inProgress with
  | zero => exact runs_name_value fun definition _ _ _ => .circular definition.name
  | succ room ih =>
      exact runs_name_value fun definition tree seed htree => runs_evaluate hdate ih tree htree seed

end Names

/-- At any moment of the calendar, the evaluation of a formula ends with its value or its failure
unless a machine is stopped by a number that is not a number: `VLOOKUP` and `HLOOKUP` step below
zero for such a number of a result, and `RANDBETWEEN` has nothing to draw between such a bound and
one beyond zero. Just then an evaluation without a machine fails with a lookup by what is no number,
or a draw from nothing. -/
theorem evaluate_runs {context : Context} {formula : String} {tree : Expr}
    (hdate : InCalendar context.moment.date) (hparse : Formula.parse formula = .ok tree)
    (seed : Seed) :
    ((evaluate context tree seed).run = .ok (Evaluation.evaluate context tree seed) ∧
        Evaluation.evaluate context tree seed ≠ .error .emptyDraw ∧
        Evaluation.evaluate context tree seed ≠ .error .indexNotNumber) ∨
      ∃ (stop : Stop) (failure : FormulaError),
        Slips context stop.operands stop.function stop.trap failure ∧
        (evaluate context tree seed).run = .error stop ∧
        Evaluation.evaluate context tree seed = .error failure := by
  have hruns : Runs context (evaluate context tree seed)
      (Evaluation.evaluate context tree seed) :=
    runs_evaluate hdate (runs_resolve_name hdate _) tree (Formula.in_grid_of_parse hparse) seed
  refine hruns.follows.imp_left fun hrun => ⟨hrun, fun hdraw => ?_, fun hindex => ?_⟩
  · refine hruns.unbroken .emptyDraw (.inl rfl) ?_
    rw [hrun, hdraw]
  · refine hruns.unbroken .indexNotNumber (.inr rfl) ?_
    rw [hrun, hindex]

/-- The function that the evaluation of a formula is stopped in, by name, and how. -/
def stopOf (context : Context) (formula : String) (seed : Seed) : Option (String × Trap) :=
  match Formula.parse formula with
  | .error _ => none
  | .ok tree =>
    match (evaluate context tree seed).run with
    | .ok _ => none
    | .error stop => some (stop.function.name, stop.trap)

/-- Proper bounds, and a proper number of a result, stop neither of the functions. -/
theorem evaluate_runs_of_lookup_and_draw :
    ∃ tree, InCalendar (Context.bare default).moment.date ∧
      Formula.parse "=VLOOKUP(2,{1,7;2,9},2,FALSE)+RANDBETWEEN(-5,-5)" = .ok tree ∧
      (evaluate (.bare default) tree default).run =
        .ok (Evaluation.evaluate (.bare default) tree default) := by
  have hdate : InCalendar (Context.bare default).moment.date := by decide
  have hreads : (Formula.parse
      "=VLOOKUP(2,{1,7;2,9},2,FALSE)+RANDBETWEEN(-5,-5)").toOption.isSome = true := by
    decide +kernel
  have hstop : stopOf (.bare default) "=VLOOKUP(2,{1,7;2,9},2,FALSE)+RANDBETWEEN(-5,-5)" default =
      none := by decide +kernel
  obtain ⟨tree, htree⟩ := Option.isSome_iff_exists.mp hreads
  have hparse := to_option_eq_some_iff.mp htree
  rcases evaluate_runs hdate hparse default with ⟨hrun, -⟩ | ⟨_, _, -, hrun, -⟩
  · exact ⟨tree, hdate, hparse, hrun⟩
  · rw [stopOf, hparse] at hstop
    dsimp only at hstop
    rw [hrun] at hstop
    cases hstop

/-- The sum of two infinities of opposite signs is not a number. It counts as zero for a number of
a result, of which one is taken, and for a bound of a draw, which lies beyond the other bound. -/
theorem evaluation_stopped :
    stopOf (.bare default)
        "=VLOOKUP(1,{1,2},SUM(SUM(1E308,1E308),-SUM(1E308,1E308)),FALSE)" default =
      some ("VLOOKUP", .belowZero) ∧
    stopOf (.bare default)
        "=HLOOKUP(1,{1;2},SUM(SUM(1E308,1E308),-SUM(1E308,1E308)),FALSE)" default =
      some ("HLOOKUP", .belowZero) ∧
    stopOf (.bare default)
        "=RANDBETWEEN(SUM(SUM(1E308,1E308),-SUM(1E308,1E308)),-5)" default =
      some ("RANDBETWEEN", .emptyRange) := by
  decide +kernel

end Spreadsheet.Machine
