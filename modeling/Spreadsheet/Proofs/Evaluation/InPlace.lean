import Spreadsheet.Proofs.Evaluation.Failure

/-!
# Evaluation in place

Here the definitions in progress are one list that evaluation changes as it goes: a definition is
pushed before its expression is evaluated and popped afterwards, whatever came out. The main
theorem, `evaluate_in_place`, says that this gives the values of `evaluate`, ends, and leaves the
list as it was, so that formulas evaluated one after another do not see each other.
-/

namespace Spreadsheet.Evaluation

open Formula (Expr FormulaError)

/-- What stops a run altogether. -/
inductive Halt where
  /-- More definitions are nested in each other than there is room for. -/
  | noRoom
  /-- A random number was asked for between bounds that leave none. -/
  | emptyDraw
  /-- A row or column of a table was asked for by what is no number. -/
  | indexNotNumber
  deriving DecidableEq

/-- A computation that may fail and that changes the list of the definitions in progress, the last
one first. What fails still leaves a list behind. -/
abbrev Running := ExceptT FormulaError (StateT (List NameKey) (Except Halt))

/-- A draw from nothing and a lookup by what is no number stop the run; other results do not. -/
def halting {α : Type} : Except FormulaError α → Except Halt (Except FormulaError α)
  | .error .emptyDraw => .error .emptyDraw
  | .error .indexNotNumber => .error .indexNotNumber
  | result => .ok result

/-- What a computation comes to with a list, with the list that it leaves. -/
def Running.outcome {α : Type} (running : Running α) (inProgress : List NameKey) :
    Except Halt (Except FormulaError α × List NameKey) :=
  running.run.run inProgress

/-- Comes to a result. -/
def Running.give {α : Type} (result : Except FormulaError α) : Running α :=
  ExceptT.mk fun inProgress => (halting result).map fun found => (found, inProgress)

/-- Stops the run for lack of room. -/
def Running.outOfRoom {α : Type} : Running α :=
  ExceptT.mk fun _ => .error .noRoom

/-- Pushes a definition, runs, and pops it again, also after a failure. -/
def Running.within {α : Type} (key : NameKey) (running : Running α) : Running α :=
  ExceptT.mk fun inProgress =>
    (running.outcome (key :: inProgress)).map fun (found, left) => (found, left.tail)

/-- How defined names are resolved in place. -/
abbrev ResolverIn := (sheet : Option String) → (name : String) → Seed → Running Value

mutual

/-- The value of an expression, given how names are resolved. -/
def evaluateIn (context : Context) (resolve : ResolverIn) : Expr → Seed → Running Value
  | .number amount, _ => return .number amount
  | .text content, _ => return .text content
  | .logical truth, _ => return .logical truth
  | .error fault, _ => return .error fault
  | .cell sheet address, _ => return context.cellValue sheet address.position
  | .range sheet range, _ =>
    match context.rangeAddress sheet range with
    | .ok address => return context.rangeValues address
    | .error fault => return .error fault
  | .name sheet name, seed => resolve sheet name seed
  | .binary operator left right, seed => do
    let left ← evaluateIn context resolve left (seed.child 0)
    let right ← evaluateIn context resolve right (seed.child 1)
    return combine operator left.scalar right.scalar
  | .unary operator operand, seed => do
    return transform operator (← evaluateIn context resolve operand (seed.child 0))
  | .call name operands, seed =>
    match Builtin.find? name with
    | none => return .error .name
    | some function =>
      if !function.accepts operands.length then return .error .value
      else if function.takesReferences then do
        let found ← referencesIn context resolve function.intercepts operands (seed.child 0)
        .give (applyReferences function context seed found)
      else do
        let found ← valuesIn context resolve function.intercepts operands (seed.child 0)
        .give (applyValues function context seed found)
  | .array rows, seed => do return .array (← rowsIn context resolve rows seed)

/-- The values of the operands of a call. -/
def valuesIn (context : Context) (resolve : ResolverIn) (intercepts : Bool) :
    List Expr → Seed → Running (Operands Value)
  | [], _ => return .ok []
  | tree :: rest, seed => do
    let value ← evaluateIn context resolve tree (seed.child 0)
    match if intercepts then none else value.error? with
    | some fault => return .error fault
    | none =>
      let others ← valuesIn context resolve intercepts rest (seed.child 1)
      return others.map (value :: ·)

/-- The operands of a call, with ranges as they are. -/
def referencesIn (context : Context) (resolve : ResolverIn) (intercepts : Bool) :
    List Expr → Seed → Running (Operands Operand)
  | [], _ => return .ok []
  | tree :: rest, seed => do
    let operand ← match referenceOperand context tree with
      | some operand => pure operand
      | none => Operand.value <$> evaluateIn context resolve tree (seed.child 0)
    match if intercepts then none else operand.value?.bind Value.error? with
    | some fault => return .error fault
    | none =>
      let others ← referencesIn context resolve intercepts rest (seed.child 1)
      return others.map (operand :: ·)

/-- The values of the rows of an array constant. -/
def rowsIn (context : Context) (resolve : ResolverIn) :
    List (List Expr) → Seed → Running (List (List Value))
  | [], _ => return []
  | row :: rest, seed => do
    let values ← rowIn context resolve row (seed.child 0)
    return values :: (← rowsIn context resolve rest (seed.child 1))

/-- The values of one row of an array constant. -/
def rowIn (context : Context) (resolve : ResolverIn) :
    List Expr → Seed → Running (List Value)
  | [], _ => return []
  | tree :: rest, seed => do
    let value ← evaluateIn context resolve tree (seed.child 0)
    return value :: (← rowIn context resolve rest (seed.child 1))

end

/-- The value of a defined name, given how to evaluate the expression of a definition. -/
def nameIn (context : Context) (evaluateDefinition : DefinedName → Expr → Seed → Running Value) :
    ResolverIn :=
  fun sheet name seed =>
    match context.definition sheet name with
    | .error fault => return .error fault
    | .ok none => return .error .name
    | .ok (some definition) =>
      match definition.constant with
      | some value => return value
      | none => do
        if (← get).contains definition.key then throw (.circularName definition.name)
        else match definition.parsed with
          | .error _ => return .error .name
          | .ok tree => evaluateDefinition definition tree seed

/-- The value of a defined name. Each definition that is evaluated on the way takes one unit of
`room`, and is in progress until it has a value or fails. -/
def resolveIn (context : Context) : (room : Nat) → ResolverIn
  | 0 => nameIn context fun _ _ _ => .outOfRoom
  | room + 1 => nameIn context fun definition tree seed =>
      .within definition.key (evaluateIn context (resolveIn context room) tree seed)

/-- Whether a computation comes to a result with a list of definitions in progress, and leaves the
list as it was. -/
def Leaves {α : Type} (running : Running α) (inProgress : List NameKey)
    (result : Except FormulaError α) : Prop :=
  running.outcome inProgress = (halting result).map fun found => (found, inProgress)

section Rules

variable {α β : Type} {inProgress : List NameKey}

/-- A value leaves the list of definitions in progress as it was. -/
theorem leaves_pure (value : α) : Leaves (pure value) inProgress (.ok value) :=
  rfl

/-- A result that is given leaves the list as it was, whether it is a value or a failure. -/
theorem leaves_give (result : Except FormulaError α) : Leaves (.give result) inProgress result :=
  rfl

/-- That a name is needed for its own value leaves the list as it was. -/
theorem leaves_throw_circular (name : String) :
    Leaves (throw (.circularName name) : Running α) inProgress (.error (.circularName name)) :=
  rfl

/-- What goes on from the list may be judged at that list. -/
theorem Leaves.of_get {goOn : List NameKey → Running α} {result : Except FormulaError α}
    (h : Leaves (goOn inProgress) inProgress result) : Leaves (get >>= goOn) inProgress result :=
  h

/-- Two computations in a row leave the list as it was if each of them does. -/
theorem Leaves.bind {first : Running α} {goOn : α → Running β} {result : Except FormulaError α}
    {next : α → Except FormulaError β} (hfirst : Leaves first inProgress result)
    (h : ∀ value, Leaves (goOn value) inProgress (next value)) :
    Leaves (first >>= goOn) inProgress (result >>= next) := by
  have hbind : (first >>= goOn).outcome inProgress = first.outcome inProgress >>= fun found =>
      match found.1 with
      | .ok value => (goOn value).outcome found.2
      | .error failure => .ok (.error failure, found.2) := by
    show first.outcome inProgress >>= _ = _
    congr 1
    funext ⟨found, left⟩
    cases found <;> rfl
  unfold Leaves
  rw [hbind, hfirst]
  cases result with
  | ok value => exact h value
  | error failure => cases failure <;> rfl

/-- A definition is in progress while it is evaluated only. -/
theorem Leaves.within {running : Running α} {key : NameKey} {result : Except FormulaError α}
    (h : Leaves running (key :: inProgress) result) :
    Leaves (running.within key) inProgress result := by
  show (running.outcome (key :: inProgress)).map _ = _
  rw [h]
  cases halting result <;> rfl

/-- Mapping a value leaves the list as it was. -/
theorem Leaves.map {running : Running α} {result : Except FormulaError α}
    (h : Leaves running inProgress result) (f : α → β) :
    Leaves (f <$> running) inProgress (result.map f) := by
  rw [← bind_pure_comp]
  have hmapped : Leaves (running >>= fun value => pure (f value)) inProgress
      (result >>= fun value => .ok (f value)) := h.bind fun value => leaves_pure _
  cases result <;> exact hmapped

end Rules

section Trees

variable {context : Context} {inProgress : List NameKey} {inPlace : ResolverIn} {resolve : Resolver}

/-- Whether resolving names in place gives the values of a resolver. -/
def LeavesNames (inPlace : ResolverIn) (inProgress : List NameKey) (resolve : Resolver) : Prop :=
  ∀ sheet name seed, Leaves (inPlace sheet name seed) inProgress (resolve sheet name seed)

mutual

/-- An expression has its value in place if names have theirs. -/
theorem leaves_evaluate (hresolve : LeavesNames inPlace inProgress resolve) (tree : Expr)
    (seed : Seed) :
    Leaves (evaluateIn context inPlace tree seed) inProgress
      (evaluateWith context resolve tree seed) := by
  cases tree with
  | number | text | logical | error | cell =>
      simp only [evaluateIn, evaluateWith]
      exact leaves_pure _
  | range sheet area =>
      simp only [evaluateIn, evaluateWith]
      cases context.rangeAddress sheet area <;> exact leaves_pure _
  | name sheet name =>
      simp only [evaluateIn, evaluateWith]
      exact hresolve sheet name seed
  | binary operator left right =>
      simp only [evaluateIn, evaluateWith]
      exact (leaves_evaluate hresolve left _).bind fun _ =>
        (leaves_evaluate hresolve right _).bind fun _ => leaves_pure _
  | unary operator operand =>
      simp only [evaluateIn, evaluateWith]
      exact (leaves_evaluate hresolve operand _).bind fun _ => leaves_pure _
  | call name operands =>
      simp only [evaluateIn, evaluateWith]
      cases Builtin.find? name with
      | none => exact leaves_pure _
      | some function =>
          dsimp only
          split_ifs
          · exact leaves_pure _
          · exact (leaves_references hresolve _ operands _).bind fun _ => leaves_give _
          · exact (leaves_values hresolve _ operands _).bind fun _ => leaves_give _
  | array rows =>
      simp only [evaluateIn, evaluateWith]
      exact (leaves_rows hresolve rows _).bind fun _ => leaves_pure _

/-- The same of operands that are evaluated. -/
theorem leaves_values (hresolve : LeavesNames inPlace inProgress resolve) (intercepts : Bool)
    (trees : List Expr) (seed : Seed) :
    Leaves (valuesIn context inPlace intercepts trees seed) inProgress
      (operandValues context resolve intercepts trees seed) := by
  cases trees with
  | nil =>
      simp only [valuesIn, operandValues]
      exact leaves_pure _
  | cons tree rest =>
      simp only [valuesIn, operandValues]
      refine (leaves_evaluate hresolve tree _).bind fun value => ?_
      cases (if intercepts then none else value.error?) with
      | some fault => exact leaves_pure _
      | none => exact (leaves_values hresolve intercepts rest _).bind fun _ => leaves_pure _

/-- The same of operands that are references or evaluated. -/
theorem leaves_references (hresolve : LeavesNames inPlace inProgress resolve) (intercepts : Bool)
    (trees : List Expr) (seed : Seed) :
    Leaves (referencesIn context inPlace intercepts trees seed) inProgress
      (operandReferences context resolve intercepts trees seed) := by
  cases trees with
  | nil =>
      simp only [referencesIn, operandReferences]
      exact leaves_pure _
  | cons tree rest =>
      simp only [referencesIn, operandReferences]
      cases referenceOperand context tree with
      | some operand =>
          refine (leaves_pure operand).bind fun operand => ?_
          cases (if intercepts then none else operand.value?.bind Value.error?) with
          | some fault => exact leaves_pure _
          | none => exact (leaves_references hresolve intercepts rest _).bind fun _ => leaves_pure _
      | none =>
          refine ((leaves_evaluate hresolve tree _).map _).bind fun operand => ?_
          cases (if intercepts then none else operand.value?.bind Value.error?) with
          | some fault => exact leaves_pure _
          | none => exact (leaves_references hresolve intercepts rest _).bind fun _ => leaves_pure _

/-- The same of the rows of an array constant. -/
theorem leaves_rows (hresolve : LeavesNames inPlace inProgress resolve) (rows : List (List Expr))
    (seed : Seed) :
    Leaves (rowsIn context inPlace rows seed) inProgress
      (evaluateRows context resolve rows seed) := by
  cases rows with
  | nil =>
      simp only [rowsIn, evaluateRows]
      exact leaves_pure _
  | cons row rest =>
      simp only [rowsIn, evaluateRows]
      exact (leaves_row hresolve row _).bind fun _ =>
        (leaves_rows hresolve rest _).bind fun _ => leaves_pure _

/-- The same of one row of an array constant. -/
theorem leaves_row (hresolve : LeavesNames inPlace inProgress resolve) (trees : List Expr)
    (seed : Seed) :
    Leaves (rowIn context inPlace trees seed) inProgress
      (evaluateRow context resolve trees seed) := by
  cases trees with
  | nil =>
      simp only [rowIn, evaluateRow]
      exact leaves_pure _
  | cons tree rest =>
      simp only [rowIn, evaluateRow]
      exact (leaves_evaluate hresolve tree _).bind fun _ =>
        (leaves_row hresolve rest _).bind fun _ => leaves_pure _

end

end Trees

section Names

variable {context : Context} {inProgress : List NameKey}

/-- A name has its value in place if the definitions have theirs that are not in progress. -/
theorem leaves_name_value {evaluateInPlace : DefinedName → Expr → Seed → Running Value}
    {evaluateDefinition : DefinedName → Expr → Seed → Outcome}
    (hevaluate : ∀ definition tree seed, definition.key ∈ waiting context inProgress →
      Leaves (evaluateInPlace definition tree seed) inProgress
        (evaluateDefinition definition tree seed)) :
    LeavesNames (nameIn context evaluateInPlace) inProgress
      (nameValue context inProgress evaluateDefinition) := by
  intro sheet name seed
  unfold nameIn nameValue
  cases hfound : context.definition sheet name with
  | error fault => exact leaves_pure _
  | ok found =>
      cases found with
      | none => exact leaves_pure _
      | some definition =>
          dsimp only
          cases definition.constant with
          | some value => exact leaves_pure _
          | none =>
              refine .of_get ?_
              dsimp only
              split
              · exact leaves_throw_circular _
              · rename_i hfree
                cases definition.parsed with
                | error refusal => exact leaves_pure _
                | ok tree =>
                    exact hevaluate definition tree seed
                      (mem_waiting_of_definition hfound (by simpa using hfree))

/-- Names have their values in place if there is room for the definitions that are not in
progress, on both sides. -/
theorem leaves_resolve (room other : Nat) (hroom : (waiting context inProgress).length ≤ room)
    (hother : (waiting context inProgress).length ≤ other) :
    LeavesNames (resolveIn context room) inProgress (resolveName context other inProgress) := by
  induction room generalizing inProgress other with
  | zero =>
      have hnone : ∀ key, key ∉ waiting context inProgress := by
        intro key hkey
        have := List.length_pos_of_mem hkey
        omega
      cases other <;>
        exact leaves_name_value fun definition _ _ hkey => (hnone definition.key hkey).elim
  | succ room ih =>
      cases other with
      | zero =>
          refine leaves_name_value fun definition tree seed hkey => ?_
          have := List.length_pos_of_mem hkey
          omega
      | succ other =>
          refine leaves_name_value fun definition tree seed hkey => ?_
          have hless := waiting_cons_length_lt hkey
          exact (leaves_evaluate (ih other (by omega) (by omega)) tree seed).within

end Names

/-- The values of formulas evaluated one after another over one list of definitions in progress. A
failure of one formula is its outcome and does not stop those after it. -/
def evaluateEach (context : Context) (room : Nat) :
    List (Expr × Seed) → List NameKey → Except Halt (List Outcome × List NameKey)
  | [], inProgress => .ok ([], inProgress)
  | (tree, seed) :: rest, inProgress => do
    let (outcome, left) ←
      (evaluateIn context (resolveIn context room) tree seed).outcome inProgress
    let (outcomes, left) ← evaluateEach context room rest left
    return (outcome :: outcomes, left)

section Runs

variable (context : Context) (spare : Nat)

/-- With room for all names and more, an expression comes to its value and leaves the list as it
was. -/
theorem leaves_evaluate_during (inProgress : List NameKey) (tree : Expr) (seed : Seed) :
    Leaves (evaluateIn context (resolveIn context (roomForNames context + spare)) tree seed)
      inProgress (evaluateDuring context inProgress tree seed) := by
  have hroom := waiting_length_le context inProgress
  exact leaves_evaluate (leaves_resolve _ _ (by omega) hroom) tree seed

/-- With room for all names and more, formulas come to their values one after the other, each from
the same list. -/
theorem evaluate_each_eq (inProgress : List NameKey) (formulas : List (Expr × Seed)) :
    evaluateEach context (roomForNames context + spare) formulas inProgress =
      (formulas.mapM fun formula =>
        halting (evaluateDuring context inProgress formula.1 formula.2)).map
          fun outcomes => (outcomes, inProgress) := by
  induction formulas with
  | nil => rfl
  | cons formula rest ih =>
      obtain ⟨tree, seed⟩ := formula
      rw [evaluateEach, leaves_evaluate_during context spare inProgress tree seed, List.mapM_cons]
      cases halting (evaluateDuring context inProgress tree seed) with
      | error halt => rfl
      | ok outcome =>
          show evaluateEach context (roomForNames context + spare) rest inProgress >>= _ = _
          rw [ih]
          cases rest.mapM fun formula =>
            halting (evaluateDuring context inProgress formula.1 formula.2) <;> rfl

/-- Evaluation in place ends with every list of definitions in progress, gives the value of the
expression and leaves the list as it was. With an empty list it fails only at a name whose
definition leads back to itself, unless it breaks off altogether at a draw from nothing or a lookup
by what is no number. Formulas evaluated one after another over one list have the values that each
has by itself. -/
theorem evaluate_in_place :
    (∀ tree seed inProgress,
      (evaluateIn context (resolveIn context (roomForNames context + spare)) tree seed).outcome
          inProgress =
        (halting (evaluateDuring context inProgress tree seed)).map
          fun outcome => (outcome, inProgress)) ∧
      (∀ tree seed failure, evaluate context tree seed = .error failure →
        Failure (bookOf context) context.sheet tree failure) ∧
      ∀ formulas : List (Expr × Seed),
        evaluateEach context (roomForNames context + spare) formulas [] =
          (formulas.mapM fun formula => halting (evaluate context formula.1 formula.2)).map
            fun outcomes => (outcomes, []) :=
  ⟨fun tree seed inProgress => leaves_evaluate_during context spare inProgress tree seed,
    fun _ _ _ h => failure_of_evaluate h,
    fun formulas => evaluate_each_eq context spare [] formulas⟩

end Runs

end Spreadsheet.Evaluation
