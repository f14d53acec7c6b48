import Spreadsheet.Builtin.Registry
import Spreadsheet.Evaluation.Definition
import Spreadsheet.Evaluation.Operators

/-!
# Evaluation

`evaluate` calculates the value of an expression in a context. Error values travel on as values;
what makes it fail is only a defined name that is needed for its own value, or a draw from
nothing. Every operand of a call is evaluated, from left to right, up to the first error value if
the function does not ask for those.

Expressions are finite, so evaluating one ends as soon as resolving its names does. A name is
resolved by evaluating its definition, with the definitions that are being evaluated already kept
in a list; none of them may come up again, so there are no more of them than the workbook has.
-/

namespace Spreadsheet.Evaluation

open Formula (Expr FormulaError Violation)

/-- The value of an expression, or why there is none. -/
abbrev Outcome := Except FormulaError Value

/-- Operands, or the error value that was found among them. -/
abbrev Operands (α : Type) := Except ErrorValue (List α)

/-- How defined names are resolved. -/
abbrev Resolver := (sheet : Option String) → (name : String) → Seed → Outcome

/-- The range that an expression names by itself. -/
def directRange (context : Context) : Expr → Option (Except ErrorValue SheetRange)
  | .cell sheet address => some (context.rangeAddress sheet (.single address))
  | .range sheet range => some (context.rangeAddress sheet range)
  | _ => none

/-- The range that a defined name stands for. -/
def namedRange (context : Context) (sheet : Option String) (name : String) : Option SheetRange := do
  let definition ← (← (context.definition sheet name).toOption)
  (← directRange context (← definition.parsed.toOption)).toOption

/-- The operand that an expression is without being evaluated: a range, or the error value that
stands for a reference to nothing. -/
def referenceOperand (context : Context) (tree : Expr) : Option Operand :=
  match tree with
  | .name sheet name => (namedRange context sheet name).map .range
  | _ =>
    (directRange context tree).map fun
      | .ok address => .range address
      | .error fault => .value (.error fault)

/-- Applies a function over values. -/
def applyValues (function : Builtin) (context : Context) (seed : Seed) :
    Operands Value → Outcome
  | .error fault => .ok (.error fault)
  | .ok values =>
    match function.body with
    | .values apply => .ok (settle (apply values))
    | .located apply => .ok (settle (apply context values))
    | .chance apply => apply seed values
    | .references apply => Lookup.settle (apply context (values.map .value))

/-- Applies a function over references. -/
def applyReferences (function : Builtin) (context : Context) (seed : Seed) :
    Operands Operand → Outcome
  | .error fault => .ok (.error fault)
  | .ok operands =>
    match function.body with
    | .references apply => Lookup.settle (apply context operands)
    | _ => applyValues function context seed (.ok (operands.map context.operandValue))

mutual

/-- The value of an expression, given how names are resolved. -/
def evaluateWith (context : Context) (resolve : Resolver) : Expr → Seed → Outcome
  | .number amount, _ => .ok (.number amount)
  | .text content, _ => .ok (.text content)
  | .logical truth, _ => .ok (.logical truth)
  | .error fault, _ => .ok (.error fault)
  | .cell sheet address, _ => .ok (context.cellValue sheet address.position)
  | .range sheet range, _ =>
    match context.rangeAddress sheet range with
    | .ok address => .ok (context.rangeValues address)
    | .error fault => .ok (.error fault)
  | .name sheet name, seed => resolve sheet name seed
  | .binary operator left right, seed => do
    let left ← evaluateWith context resolve left (seed.child 0)
    let right ← evaluateWith context resolve right (seed.child 1)
    return combine operator left.scalar right.scalar
  | .unary operator operand, seed => do
    return transform operator (← evaluateWith context resolve operand (seed.child 0))
  | .call name operands, seed =>
    match Builtin.find? name with
    | none => .ok (.error .name)
    | some function =>
      if !function.accepts operands.length then .ok (.error .value)
      else if function.takesReferences then do
        applyReferences function context seed
          (← operandReferences context resolve function.intercepts operands (seed.child 0))
      else do
        applyValues function context seed
          (← operandValues context resolve function.intercepts operands (seed.child 0))
  | .array rows, seed => do return .array (← evaluateRows context resolve rows seed)

/-- The values of the operands of a call. -/
def operandValues (context : Context) (resolve : Resolver) (intercepts : Bool) :
    List Expr → Seed → Except FormulaError (Operands Value)
  | [], _ => .ok (.ok [])
  | tree :: rest, seed => do
    let value ← evaluateWith context resolve tree (seed.child 0)
    match if intercepts then none else value.error? with
    | some fault => return .error fault
    | none =>
      let others ← operandValues context resolve intercepts rest (seed.child 1)
      return others.map (value :: ·)

/-- The operands of a call, with ranges as they are. -/
def operandReferences (context : Context) (resolve : Resolver) (intercepts : Bool) :
    List Expr → Seed → Except FormulaError (Operands Operand)
  | [], _ => .ok (.ok [])
  | tree :: rest, seed => do
    let operand ← match referenceOperand context tree with
      | some operand => .ok operand
      | none => (evaluateWith context resolve tree (seed.child 0)).map .value
    match if intercepts then none else operand.value?.bind Value.error? with
    | some fault => return .error fault
    | none =>
      let others ← operandReferences context resolve intercepts rest (seed.child 1)
      return others.map (operand :: ·)

/-- The values of the rows of an array constant. -/
def evaluateRows (context : Context) (resolve : Resolver) :
    List (List Expr) → Seed → Except FormulaError (List (List Value))
  | [], _ => .ok []
  | row :: rest, seed => do
    let values ← evaluateRow context resolve row (seed.child 0)
    return values :: (← evaluateRows context resolve rest (seed.child 1))

/-- The values of one row of an array constant. -/
def evaluateRow (context : Context) (resolve : Resolver) :
    List Expr → Seed → Except FormulaError (List Value)
  | [], _ => .ok []
  | tree :: rest, seed => do
    let value ← evaluateWith context resolve tree (seed.child 0)
    return value :: (← evaluateRow context resolve rest (seed.child 1))

end

/-- The value of a defined name while some definitions are in progress, given how to evaluate the
expression of another one. -/
def nameValue (context : Context) (inProgress : List NameKey)
    (evaluateDefinition : DefinedName → Expr → Seed → Outcome) : Resolver :=
  fun sheet name seed =>
    match context.definition sheet name with
    | .error fault => .ok (.error fault)
    | .ok none => .ok (.error .name)
    | .ok (some definition) =>
      match definition.constant with
      | some value => .ok value
      | none =>
        if inProgress.contains definition.key then .error (.circularName definition.name)
        else match definition.parsed with
          | .error _ => .ok (.error .name)
          | .ok tree => evaluateDefinition definition tree seed

/-- The value of a defined name. Each definition that is evaluated on the way takes one unit of
`room` and joins those in progress. -/
def resolveName (context : Context) : (room : Nat) → (inProgress : List NameKey) → Resolver
  -- nothing is left to evaluate: the definitions in progress would be more than there are
  | 0, inProgress =>
    nameValue context inProgress fun definition _ _ => .error (.circularName definition.name)
  | room + 1, inProgress =>
    nameValue context inProgress fun definition =>
      evaluateWith context (resolveName context room (definition.key :: inProgress))

/-- No more definitions can be in progress than the workbook has. -/
def roomForNames (context : Context) : Nat :=
  (context.workbook.map fun workbook => workbook.names.size).getD 0

/-- The value of an expression while some definitions are in progress. -/
def evaluateDuring (context : Context) (inProgress : List NameKey) (tree : Expr) (seed : Seed) :
    Outcome :=
  evaluateWith context (resolveName context (roomForNames context) inProgress) tree seed

/-- The value of an expression. -/
def evaluate (context : Context) (tree : Expr) (seed : Seed) : Outcome :=
  evaluateDuring context [] tree seed

end Spreadsheet.Evaluation
