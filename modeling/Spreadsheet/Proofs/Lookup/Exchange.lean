import Spreadsheet.Evaluation.Evaluate
import Spreadsheet.Proofs.Lookup.Objections

/-!
# Operands written out and operands in cells

Besides their tables, the functions that look a value up take single values, which may be written
out or stand in cells. The main theorem, `evaluate_exchanged`, says that this is all the same unless
an error value is moved into a cell. One that is written out ends the call where it stands, from
left to right. One in a cell reaches the function, which checks its operands in an order of its own.
Then the two forms agree if the same ends both.
-/

namespace Spreadsheet.Evaluation

open Builtin (Finder finders SameValues valueAt)
open Formula (Expr FormulaError)

/-! ## Reading operands in two forms -/

/-- An expression that has a value of its own, whatever the seed. -/
def Written (context : Context) (resolve : Resolver) (tree : Expr) (value : Value) : Prop :=
  referenceOperand context tree = none ∧ ∀ seed, evaluateWith context resolve tree seed = .ok value

/-- A reference to a cell that shows a value. -/
def Holds (context : Context) (tree : Expr) (value : Value) : Prop :=
  ∃ address, referenceOperand context tree = some (.range address) ∧
    context.operandValue (.range address) = value

/-- The operands of a call from an index on, of which some single values that are written out stand
in cells instead, given the values that do. -/
inductive Exchanged (context : Context) (resolve : Resolver) (singles : List Nat) :
    (index : Nat) → (trees others : List Expr) → (held : List Value) → Prop
  | nil {index : Nat} : Exchanged context resolve singles index [] [] []
  | same {index : Nat} {trees others : List Expr} {held : List Value} (tree : Expr) :
      Exchanged context resolve singles (index + 1) trees others held →
      Exchanged context resolve singles index (tree :: trees) (tree :: others) held
  | cell {index : Nat} {tree other : Expr} {value : Value} {trees others : List Expr}
      {held : List Value} : index ∈ singles →
      Written context resolve tree value → Holds context other value →
      Exchanged context resolve singles (index + 1) trees others held →
      Exchanged context resolve singles index (tree :: trees) (other :: others) (value :: held)

/-- What ends a call while its operands are read. -/
def ended : Except FormulaError (Operands Operand) → Option Outcome
  | .error failure => some (.error failure)
  | .ok (.error fault) => some (.ok (.error fault))
  | .ok (.ok _) => none

/-- What an operand of a call is read as. -/
def readOne (context : Context) (resolve : Resolver) (tree : Expr) (seed : Seed) :
    Except FormulaError Operand :=
  match referenceOperand context tree with
  | some operand => .ok operand
  | none => (evaluateWith context resolve tree (seed.child 0)).map .value

/-- Operands with one more before them. -/
def prepend (operand : Operand) (rest : Except FormulaError (Operands Operand)) :
    Except FormulaError (Operands Operand) :=
  rest.map fun operands => operands.map (operand :: ·)

/-- If operands are read, there is an error value among the single values. -/
def Faulty (context : Context) (singles : List Nat) (index : Nat)
    (reading : Except FormulaError (Operands Operand)) : Prop :=
  ∀ operands, reading = .ok (.ok operands) →
    ∃ place fault, index + place ∈ singles ∧ valueAt context operands place = some (.error fault)

/-- Operands read in two forms: both are read and alike; or the same ends them both; or an error
value ends the one that is written out, and the other one has it among its single values. -/
inductive ReadAlike (context : Context) (singles : List Nat) (index : Nat) (held : List Value) :
    (written inCells : Except FormulaError (Operands Operand)) → Prop
  | both {operands others : List Operand} : SameValues context singles index operands others →
      ReadAlike context singles index held (.ok (.ok operands)) (.ok (.ok others))
  | ended {reading : Except FormulaError (Operands Operand)} : (ended reading).isSome →
      ReadAlike context singles index held reading reading
  | caught {written inCells : Except FormulaError (Operands Operand)} {value : Value} :
      value ∈ held → value.isError → (ended written).isSome →
      Faulty context singles index inCells →
      ReadAlike context singles index held written inCells

section Reading

variable {context : Context} {resolve : Resolver} {singles : List Nat} {index : Nat}
  {held : List Value} {tree : Expr} {value : Value} {rest : List Expr} {seed : Seed}
  {operand : Operand} {reading : Except FormulaError (Operands Operand)}

/-- The operands of a call are read from left to right, and the first failure or error value ends
the reading. -/
theorem read_cons (tree : Expr) (rest : List Expr) (seed : Seed) :
    operandReferences context resolve false (tree :: rest) seed =
      match readOne context resolve tree seed with
      | .error failure => .error failure
      | .ok operand =>
        match operand.value?.bind Value.error? with
        | some fault => .ok (.error fault)
        | none =>
          prepend operand (operandReferences context resolve false rest (seed.child 1)) := by
  have step (operand : Operand) :
      (match if false = true then none else operand.value?.bind Value.error? with
        | some fault => return .error fault
        | none => do
          let others ← operandReferences context resolve false rest (seed.child 1)
          return others.map (operand :: ·) : Except FormulaError (Operands Operand)) =
      (match operand.value?.bind Value.error? with
        | some fault => .ok (.error fault)
        | none => prepend operand
            (operandReferences context resolve false rest (seed.child 1))) := by
    rw [if_neg Bool.false_ne_true]
    cases operand.value?.bind Value.error? with
    | some fault => rfl
    | none => cases operandReferences context resolve false rest (seed.child 1) <;> rfl
  rw [operandReferences, readOne]
  cases referenceOperand context tree with
  | some operand => exact step operand
  | none =>
      cases evaluateWith context resolve tree (seed.child 0) with
      | error failure => rfl
      | ok value => exact step (.value value)

/-- An operand that is written out is read as its value, which ends the reading if it
is an error. -/
theorem read_written (h : Written context resolve tree value) :
    operandReferences context resolve false (tree :: rest) seed =
      match value.error? with
      | some fault => .ok (.error fault)
      | none => prepend (.value value)
          (operandReferences context resolve false rest (seed.child 1)) := by
  rw [read_cons, readOne, h.1, h.2]
  rfl

/-- An operand that is a reference is read as the range, whatever is in it. -/
theorem read_held {address : SheetRange}
    (h : referenceOperand context tree = some (.range address)) :
    operandReferences context resolve false (tree :: rest) seed =
      prepend (.range address) (operandReferences context resolve false rest (seed.child 1)) := by
  rw [read_cons, readOne, h]
  rfl

/-- The first operand ends the reading, or it comes before the others. -/
theorem read_same (tree : Expr) (seed : Seed) :
    (∃ reading, (ended reading).isSome ∧
      ∀ rest, operandReferences context resolve false (tree :: rest) seed = reading) ∨
    ∃ operand, ∀ rest, operandReferences context resolve false (tree :: rest) seed =
      prepend operand (operandReferences context resolve false rest (seed.child 1)) := by
  simp only [read_cons]
  cases readOne context resolve tree seed with
  | error failure => exact .inl ⟨.error failure, rfl, fun rest => rfl⟩
  | ok operand =>
      dsimp only
      cases operand.value?.bind Value.error? with
      | some fault => exact .inl ⟨.ok (.error fault), rfl, fun rest => rfl⟩
      | none => exact .inr ⟨operand, fun rest => rfl⟩

/-- Nothing comes before operands that are not read to their end. -/
theorem prepend_of_ended (h : (ended reading).isSome) (operand : Operand) :
    prepend operand reading = reading := by
  cases reading with
  | error failure => rfl
  | ok operands =>
      cases operands with
      | error fault => rfl
      | ok operands => cases h

/-- Operands with one more before them are read if the others are. -/
theorem eq_prepend {operands : List Operand} (h : prepend operand reading = .ok (.ok operands)) :
    ∃ others, reading = .ok (.ok others) ∧ operands = operand :: others := by
  cases reading with
  | error failure => cases h
  | ok read =>
      cases read with
      | error fault => cases h
      | ok others =>
          cases h
          exact ⟨others, rfl, rfl⟩

/-- Behind another operand an error value is one place further on. -/
theorem Faulty.prepend (h : Faulty context singles (index + 1) reading) (operand : Operand) :
    Faulty context singles index (prepend operand reading) := by
  intro operands read
  obtain ⟨rest, hrest, rfl⟩ := eq_prepend read
  obtain ⟨place, fault, among, value⟩ := h rest hrest
  refine ⟨place + 1, fault, ?_, value⟩
  rwa [Nat.add_assoc, Nat.add_comm 1] at among

/-- Behind operands with one value, readings are alike as they are without them. -/
theorem ReadAlike.prepend {written inCells : Except FormulaError (Operands Operand)}
    {more : List Value} {other : Operand}
    (h : ReadAlike context singles (index + 1) held written inCells) (hheld : held ⊆ more)
    (hcons : ∀ {operands others}, SameValues context singles (index + 1) operands others →
      SameValues context singles index (operand :: operands) (other :: others)) :
    ReadAlike context singles index more (prepend operand written) (prepend other inCells) := by
  cases h with
  | both alike => exact .both (hcons alike)
  | ended stops =>
      rw [prepend_of_ended stops, prepend_of_ended stops]
      exact .ended stops
  | caught among error stops faulty =>
      rw [prepend_of_ended stops]
      exact .caught (hheld among) error stops (faulty.prepend other)

/-- A value with an error is that error. -/
theorem eq_error_of_fault {fault : ErrorValue} (h : value.error? = some fault) :
    value = .error fault := by
  cases value <;> cases h
  rfl

/-- Operands of which some are exchanged are read alike. -/
theorem Exchanged.read_alike {trees others : List Expr}
    (h : Exchanged context resolve singles index trees others held) (seed : Seed) :
    ReadAlike context singles index held (operandReferences context resolve false trees seed)
      (operandReferences context resolve false others seed) := by
  induction h generalizing seed with
  | nil =>
      rw [operandReferences]
      exact .both .nil
  | same tree rest ih =>
      obtain ⟨reading, stops, eq⟩ | ⟨operand, eq⟩ := @read_same context resolve tree seed
      · rw [eq, eq]
        exact .ended stops
      · rw [eq, eq]
        exact (ih (seed.child 1)).prepend (List.Subset.refl _) (.same operand)
  | @cell index tree other value trees others held among written holds rest ih =>
      obtain ⟨address, reference, shown⟩ := holds
      rw [read_written written, read_held reference]
      cases error : value.error? with
      | some fault =>
          have equal := eq_error_of_fault error
          refine .caught List.mem_cons_self (by rw [equal]; rfl) rfl fun operands read => ?_
          obtain ⟨others, -, rfl⟩ := eq_prepend read
          exact ⟨0, fault, among, by rw [← equal, ← shown]; rfl⟩
      | none =>
          exact (ih (seed.child 1)).prepend (List.subset_cons_self _ _) (.single among shown)

/-- Exchanging operands leaves their number as it is. -/
theorem Exchanged.length_eq {trees others : List Expr}
    (h : Exchanged context resolve singles index trees others held) :
    others.length = trees.length := by
  induction h with
  | nil => rfl
  | same tree rest ih => exact congrArg (· + 1) ih
  | cell among written holds rest ih => exact congrArg (· + 1) ih

/-- Behind operands that are read, an error value that is written out ends the reading. -/
theorem read_error_behind {fault : ErrorValue} {before : List Expr} {operands : List Operand}
    (h : Written context resolve tree (.error fault))
    (hbefore : operandReferences context resolve false before seed = .ok (.ok operands))
    (rest : List Expr) :
    operandReferences context resolve false (before ++ tree :: rest) seed = .ok (.error fault) := by
  induction before generalizing seed operands with
  | nil => exact read_written h
  | cons first before ih =>
      rw [List.cons_append]
      obtain ⟨reading, stops, eq⟩ | ⟨operand, eq⟩ := @read_same context resolve first seed
      · rw [eq before] at hbefore
        rw [hbefore] at stops
        cases stops
      · rw [eq before] at hbefore
        obtain ⟨others, read, -⟩ := eq_prepend hbefore
        rw [eq, ih read]
        rfl

end Reading

/-! ## The law -/

/-- What ends a call before anything is looked up: a wrong number of operands, or else what comes up
as they are read from left to right, or else the first objection of the function. -/
def earlyEnd (finder : Finder) (context : Context) (resolve : Resolver) (trees : List Expr)
    (seed : Seed) : Option Outcome :=
  if (Builtin.find? finder.name).any fun function => function.accepts trees.length then
    match operandReferences context resolve false trees (seed.child 0) with
    | .error failure => some (.error failure)
    | .ok (.error fault) => some (.ok (.error fault))
    | .ok (.ok operands) =>
      (finder.refusal context operands).map fun failure => Lookup.settle (.error failure)
  else some (.ok (.error .value))

section Law

variable {context : Context} {resolve : Resolver} {finder : Finder} {trees others : List Expr}
  {held : List Value} {seed : Seed}

/-- A call of a lookup checks the number of its operands, reads them and then looks up. -/
theorem evaluate_call {name : String} {function : Builtin}
    {apply : Context → List Operand → Except Lookup.LookupError Value}
    (found : Builtin.find? name = some function) (body : function.body = .references apply)
    (intercepts : function.intercepts = false) (trees : List Expr) (seed : Seed) :
    evaluateWith context resolve (.call name trees) seed =
      if function.accepts trees.length then
        match operandReferences context resolve false trees (seed.child 0) with
        | .error failure => .error failure
        | .ok (.error fault) => .ok (.error fault)
        | .ok (.ok operands) => Lookup.settle (apply context operands)
      else .ok (.error .value) := by
  have references : function.takesReferences := by
    unfold Builtin.takesReferences
    rw [body]
  rw [evaluateWith, found]
  show (if !function.accepts trees.length then _ else if function.takesReferences then _ else _) = _
  by_cases accepted : function.accepts trees.length
  · rw [if_neg (by simp [accepted]), if_pos references, if_pos accepted, intercepts]
    cases operandReferences context resolve false trees (seed.child 0) with
    | error failure => rfl
    | ok read =>
        cases read with
        | error fault => rfl
        | ok operands =>
            show applyReferences function context seed (.ok operands) = _
            rw [applyReferences, body]
  · rw [if_pos (by simp [accepted]), if_neg accepted]

/-- A call that ends while its operands are read is worth what ended it. -/
theorem evaluate_of_early_end (h : finder ∈ finders) {outcome : Outcome}
    (hend : earlyEnd finder context resolve trees seed = some outcome) :
    evaluateWith context resolve (.call finder.name trees) seed = outcome := by
  obtain ⟨function, apply, found, body, intercepts, lawful⟩ := Builtin.finder_lawful h
  rw [evaluate_call found body intercepts]
  rw [earlyEnd, found, Option.any_some] at hend
  by_cases accepted : function.accepts trees.length
  · rw [if_pos accepted] at hend ⊢
    cases reading : operandReferences context resolve false trees (seed.child 0) with
    | error failure =>
        rw [reading] at hend
        exact Option.some.inj hend
    | ok read =>
        rw [reading] at hend
        cases read with
        | error fault => exact Option.some.inj hend
        | ok operands =>
            obtain ⟨failure, refused, rfl⟩ := Option.map_eq_some_iff.mp hend
            show Lookup.settle (apply context operands) = _
            rw [lawful.refuses refused]
  · rw [if_neg accepted] at hend ⊢
    exact Option.some.inj hend

/-- Two forms of a call have one outcome, or both of them end early. -/
theorem same_or_early_end (h : finder ∈ finders)
    (exchanged : Exchanged context resolve finder.singles 0 trees others held) (seed : Seed) :
    (evaluateWith context resolve (.call finder.name others) seed =
        evaluateWith context resolve (.call finder.name trees) seed ∧
      earlyEnd finder context resolve others seed = earlyEnd finder context resolve trees seed) ∨
    (∃ value ∈ held, value.isError) ∧ (earlyEnd finder context resolve trees seed).isSome ∧
      (earlyEnd finder context resolve others seed).isSome := by
  obtain ⟨function, apply, found, body, intercepts, lawful⟩ := Builtin.finder_lawful h
  rw [evaluate_call found body intercepts, evaluate_call found body intercepts]
  simp only [earlyEnd, found, Option.any_some, exchanged.length_eq]
  by_cases accepted : function.accepts trees.length
  · simp only [if_pos accepted]
    have alike := exchanged.read_alike (seed.child 0)
    revert alike
    generalize operandReferences context resolve false trees (seed.child 0) = written
    generalize operandReferences context resolve false others (seed.child 0) = inCells
    intro alike
    cases alike with
    | both alike =>
        obtain ⟨applied, refused⟩ := lawful.alike alike
        refine .inl ⟨?_, ?_⟩
        · show Lookup.settle _ = Lookup.settle _
          rw [applied]
        · show Option.map _ _ = Option.map _ _
          rw [refused]
    | ended stops => exact .inl ⟨rfl, rfl⟩
    | @caught _ _ value among error stops faulty =>
        refine .inr ⟨⟨value, among, error⟩, ?_, ?_⟩
        · match written with
          | .error failure => rfl
          | .ok (.error fault) => rfl
          | .ok (.ok operands) => cases stops
        · match inCells with
          | .error failure => rfl
          | .ok (.error fault) => rfl
          | .ok (.ok operands) =>
              obtain ⟨place, fault, single, shown⟩ := faulty operands rfl
              rw [Nat.zero_add] at single
              rw [Option.isSome_map]
              exact lawful.notices single shown
  · exact .inl ⟨by rw [if_neg accepted, if_neg accepted], by rw [if_neg accepted, if_neg accepted]⟩

/-- Whether an operand of a lookup is written out or stands in a cell. If no error value is moved
into a cell, it is all the same. Otherwise the outcome is what ends each form early, and they have
one outcome exactly if the same ends both. An error value that is written out ends a call where it
stands. -/
theorem evaluate_exchanged (h : finder ∈ finders)
    (exchanged : Exchanged context resolve finder.singles 0 trees others held) (seed : Seed) :
    ((∀ value ∈ held, value.isError = false) →
      evaluateWith context resolve (.call finder.name others) seed =
        evaluateWith context resolve (.call finder.name trees) seed) ∧
    (evaluateWith context resolve (.call finder.name others) seed =
        evaluateWith context resolve (.call finder.name trees) seed ↔
      earlyEnd finder context resolve others seed = earlyEnd finder context resolve trees seed) ∧
    (∀ form outcome, earlyEnd finder context resolve form seed = some outcome →
      evaluateWith context resolve (.call finder.name form) seed = outcome) ∧
    ∀ before tree rest fault, trees = before ++ tree :: rest →
      ((Builtin.find? finder.name).any fun function => function.accepts trees.length) →
      (∃ operands, operandReferences context resolve false before (seed.child 0) =
        .ok (.ok operands)) →
      Written context resolve tree (.error fault) →
      evaluateWith context resolve (.call finder.name trees) seed = .ok (.error fault) := by
  refine ⟨?_, ?_, fun form outcome => evaluate_of_early_end h, ?_⟩
  · intro clean
    obtain ⟨same, -⟩ | ⟨⟨value, among, error⟩, -, -⟩ := same_or_early_end h exchanged seed
    · exact same
    · rw [clean value among] at error
      cases error
  · obtain ⟨same, ends⟩ | ⟨-, written, inCells⟩ := same_or_early_end h exchanged seed
    · exact iff_of_true same ends
    · obtain ⟨first, hfirst⟩ := Option.isSome_iff_exists.mp written
      obtain ⟨second, hsecond⟩ := Option.isSome_iff_exists.mp inCells
      rw [evaluate_of_early_end h hfirst, evaluate_of_early_end h hsecond, hfirst, hsecond,
        Option.some.injEq]
  · rintro before tree rest fault rfl accepted ⟨operands, read⟩ written
    refine evaluate_of_early_end h ?_
    rw [earlyEnd, if_pos accepted, read_error_behind written read]

end Law

/-- A sheet with `#N/A` in `A1`, `#REF!` in `B1` and `x` in `C1`. -/
def threeCells : Context :=
  let sheet := (Worksheet.blank "Sheet1").insert ⟨0, 0⟩ (.error .notAvailable) ⟨by decide, rfl⟩
  let sheet := sheet.insert ⟨0, 1⟩ (.error .reference) ⟨by decide, rfl⟩
  let sheet := sheet.insert ⟨0, 2⟩ (.text "x") ⟨by decide, rfl⟩
  .ofCell { Workbook.new with sheets := [sheet] } 0 ⟨1, 0⟩ default

/-- A cell in the first row. -/
def inFirstRow (column : Nat) : Expr := .cell none ⟨0, column, false, false⟩

/-- The three cells of the first row show `#N/A`, `#REF!` and a text. -/
theorem holds_in_three_cells :
    Holds threeCells (inFirstRow 0) (.error .notAvailable) ∧
      Holds threeCells (inFirstRow 1) (.error .reference) ∧
      Holds threeCells (inFirstRow 2) (.text "x") :=
  ⟨⟨⟨0, .single ⟨0, 0, false, false⟩⟩, rfl, rfl⟩, ⟨⟨0, .single ⟨0, 1, false, false⟩⟩, rfl, rfl⟩,
    ⟨⟨0, .single ⟨0, 2, false, false⟩⟩, rfl, rfl⟩⟩

/-- `MATCH("x",{"x"},0)` and `MATCH(C1,{"x"},0)`. -/
theorem evaluate_exchanged_of_text :
    let finder : Finder := ⟨"MATCH", [0, 2], Builtin.positionObjections⟩
    let trees : List Expr := [.text "x", .array [[.text "x"]], .number 0.0]
    let others : List Expr := [inFirstRow 2, .array [[.text "x"]], .number 0.0]
    finder ∈ finders ∧
      Exchanged threeCells (resolveName threeCells 0 []) finder.singles 0 trees others
        [.text "x"] ∧
      evaluate threeCells (.call "MATCH" others) default =
        evaluate threeCells (.call "MATCH" trees) default := by
  intro finder trees others
  have among : finder ∈ finders := .tail _ (.tail _ (.head _))
  have exchanged : Exchanged threeCells (resolveName threeCells 0 []) finder.singles 0 trees others
      [.text "x"] :=
    .cell (by decide) ⟨rfl, fun _ => rfl⟩ holds_in_three_cells.2.2 (.same _ (.same _ .nil))
  refine ⟨among, exchanged, (evaluate_exchanged among exchanged default).1 fun value held => ?_⟩
  rw [List.mem_singleton.mp held]
  rfl

/-- An outcome with an error is that error. -/
theorem outcome_of_fault {outcome : Outcome} {fault : ErrorValue}
    (h : outcome.toOption.bind Value.error? = some fault) : outcome = .ok (.error fault) := by
  cases outcome with
  | error failure => cases h
  | ok value => rw [eq_error_of_fault h]

/-- `VLOOKUP(#N/A,{1,2},#REF!)` and `VLOOKUP(A1,{1,2},B1)`. The second form is ended by the number
of the result, which is checked before the value to look for. -/
theorem exchanged_errors_differ :
    let trees : List Expr :=
      [.error .notAvailable, .array [[.number 1.0, .number 2.0]], .error .reference]
    let others : List Expr := [inFirstRow 0, .array [[.number 1.0, .number 2.0]], inFirstRow 1]
    Exchanged threeCells (resolveName threeCells 0 []) [0, 2, 3] 0 trees others
        [.error .notAvailable, .error .reference] ∧
      evaluate threeCells (.call "VLOOKUP" trees) default = .ok (.error .notAvailable) ∧
      evaluate threeCells (.call "VLOOKUP" others) default = .ok (.error .reference) := by
  intro trees others
  refine ⟨.cell (by decide) ⟨rfl, fun _ => rfl⟩ holds_in_three_cells.1
    (.same _ (.cell (by decide) ⟨rfl, fun _ => rfl⟩ holds_in_three_cells.2.1 .nil)), ?_, ?_⟩
  · exact outcome_of_fault (by decide +kernel)
  · exact outcome_of_fault (by decide +kernel)

end Spreadsheet.Evaluation
