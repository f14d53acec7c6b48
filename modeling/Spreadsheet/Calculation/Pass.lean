import Spreadsheet.Calculation.Options
import Spreadsheet.Dependency.Chain
import Spreadsheet.Evaluation.Evaluate

/-!
# A pass over the formulas

A pass works on a workbook and the chain of its formulas. It stores each result in the workbook as
soon as it has it, so that later formulas read it, and keeps what it has stored even if it fails
or is stopped. Formulas on a cycle get `#REF!`, or they are calculated over and over until their
numbers settle.
-/

namespace Spreadsheet.Calculation

open Dependency (Chain FormulaCell)
open Formula (FormulaError SyntaxError Token)

/-- What a pass works on. -/
structure State where
  workbook : Workbook
  chain : Chain
  statistics : Statistics
  /-- How many results have been stored. -/
  stored : Nat
  /-- How many formulas have been evaluated. -/
  evaluated : Nat

/-- A step of a pass. A failed step keeps the state it has reached. -/
abbrev Pass := ExceptT FormulaError (StateM State)

/-- Stores the result of a formula in a workbook. -/
def storeIn (book : Workbook) (sheet : Nat) (position : Position) (result : Cell) :
    Except FormulaError Workbook :=
  match book.sheet? sheet with
  | none => .error (.invalidReference (.sheetOutOfBounds sheet book.sheetCount))
  | some worksheet =>
    match worksheet.storeResult position result with
    | .ok written => .ok (book.setSheet sheet written)
    | .error refusal => .error (.contract (.refusedResult refusal))

namespace Pass

/-- Changes the statistics. -/
def count (change : Statistics → Statistics) : Pass Unit :=
  modify fun state => { state with statistics := change state.statistics }

/-- Stores a result, unless it is refused. -/
def store (setting : Setting) (sheet : Nat) (position : Position) (result : Cell) : Pass Unit := do
  let state ← get
  if setting.supervision.refuses state.stored then throw (.contract .refusedStore)
  let workbook ← storeIn state.workbook sheet position result
  set { state with workbook, stored := state.stored + 1 }

/-- Whether the pass is to stop. -/
def isStopped (setting : Setting) : Pass Bool := do
  return setting.supervision.stops (← get).stored

/-- Notes an error. -/
def countError : Pass Unit :=
  count fun statistics => { statistics with errors := statistics.errors + 1 }

/-- The error value of a formula whose evaluation fails. What breaks the rules of the engine, or
breaks evaluation off, is no error of the formula and ends the pass. -/
def failureValue : FormulaError → Option ErrorValue
  | .invalid _ => some .name
  | .invalidReference _ => some .reference
  | .circularName _ => some .reference
  | .contract _ => none
  | .indexNotNumber => none
  | .emptyDraw => none

/-- The value of a formula of a workbook. -/
def evaluateIn (setting : Setting) (workbook : Workbook) (draw : Nat) (cell : FormulaCell) :
    Evaluation.Outcome := do
  let tree ← (Formula.parseTokens cell.tokens).mapError .invalid
  Evaluation.evaluate (.ofCell workbook cell.id.sheet cell.id.position setting.moment) tree
    (setting.seed.child draw)

/-- Evaluates a formula and gives the cell that shows its value. -/
def evaluate (setting : Setting) (cell : FormulaCell) : Pass Cell := do
  let state ← get
  set { state with evaluated := state.evaluated + 1 }
  match evaluateIn setting state.workbook state.evaluated cell with
  | .ok value => return value.toCell
  | .error failure =>
    match failureValue failure with
    | some fault =>
      countError
      return .error fault
    | none => throw failure

/-- Evaluates a formula and stores its value. -/
def runCell (setting : Setting) (cell : FormulaCell) : Pass Cell := do
  let result ← evaluate setting cell
  store setting cell.id.sheet cell.id.position result
  return result

/-- Notes a calculated formula. -/
def countCalculated : Pass Unit :=
  count fun statistics => { statistics with calculated := statistics.calculated + 1 }

/-- Notes that the pass was stopped. -/
def countStopped : Pass Unit := count fun statistics => { statistics with completed := false }

/-- Calculates formulas once each, in order. It is false if the pass was stopped. -/
def runAll (setting : Setting) : List FormulaCell → Pass Bool
  | [] => return true
  | cell :: rest => do
    if ← isStopped setting then
      countStopped
      return false
    discard <| runCell setting cell
    countCalculated
    runAll setting rest

/-- Gives formulas on a cycle their error value. -/
def refuseCircular (setting : Setting) : List FormulaCell → Pass Unit
  | [] => return
  | cell :: rest => do
    store setting cell.id.sheet cell.id.position (.error .reference)
    countError
    refuseCircular setting rest

/-- The number that a stored result counts as when changes are measured. -/
def measured : Cell → Option Float
  | .number amount => some amount
  | .empty => some 0.0
  | _ => none

/-- The change from one result to the next, as far as both are numbers. -/
def change (before after : Cell) : Option Float :=
  match measured before, after with
  | some old, .number new => some (new - old).abs
  | _, _ => none

/-- Calculates formulas on a cycle once each and gives the largest change. There is none if the
pass was stopped. `first` tells the first iteration, which alone counts calculated formulas. -/
def sweep (setting : Setting) (first : Bool) :
    List FormulaCell → (largest : Float) → Pass (Option Float)
  | [], largest => return some largest
  | cell :: rest, largest => do
    if ← isStopped setting then
      countStopped
      return none
    let before := (← get).workbook.shown cell.id.sheet cell.id.position
    let after ← runCell setting cell
    if first then countCalculated
    sweep setting first rest (((change before after).map (Number.larger largest)).getD largest)

/-- Calculates formulas on a cycle until they settle, for at most `remaining` iterations after those
done. It is false if the pass was stopped. -/
def iterate (setting : Setting) (cells : List FormulaCell) : (remaining done : Nat) → Pass Bool
  | 0, _ => return true
  | remaining + 1, done => do
    count fun statistics => { statistics with iterations := done + 1 }
    match ← sweep setting (done == 0) cells 0.0 with
    | none => return false
    | some largest =>
      if largest ≤ setting.options.maxChange then
        count fun statistics => { statistics with converged := true }
        return true
      iterate setting cells remaining (done + 1)

/-- The cells at places of the chain. -/
def cellsAt (places : List Nat) : Pass (List FormulaCell) := do
  return places.filterMap (← get).chain.cell?

/-- Notes that one iteration was enough. -/
def countSingle : Pass Unit := count fun statistics => { statistics with iterations := 1 }

/-- Calculates the formulas at places of the chain, formulas on a cycle by iteration: the others
first, then those on a cycle, then again the others that depend on them. -/
def runIterative (setting : Setting) (circular ordered : List Nat) : Pass Unit := do
  if !(← runAll setting (← cellsAt ordered)) || circular.isEmpty then countSingle
  else
    count fun statistics => { statistics with converged := false }
    if ← iterate setting (← cellsAt circular) setting.options.maxIterations 0 then
      let calculated := (← get).statistics.calculated
      let again := (← get).chain.downstream circular ordered
      discard <| runAll setting (← cellsAt again)
      -- these cells were counted before the iteration
      count fun statistics => { statistics with calculated }

/-- Calculates the formulas at places of the chain, given in its order. -/
def runPlaces (setting : Setting) (places : List Nat) : Pass Unit := do
  let chain := (← get).chain
  let circular := places.filter chain.isCircular
  let ordered := places.filter fun place => !chain.isCircular place
  if setting.options.iterative then runIterative setting circular ordered
  else
    refuseCircular setting (← cellsAt circular)
    countSingle
    discard <| runAll setting (← cellsAt ordered)

/-- The tokens of a formula that can be read as an expression. -/
def tokensOfExpr (formula : String) : Except SyntaxError (List Token) := do
  let tokens ← Formula.tokens formula
  discard <| Formula.parseTokens tokens
  return tokens

/-- Registers a formula in the chain. A formula that cannot be read gets `#NAME?` instead. -/
def register (setting : Setting) (sheet : Nat) (position : Position) (formula : String) :
    Pass Unit := do
  match tokensOfExpr formula with
  | .error _ =>
    countError
    store setting sheet position (.error .name)
  | .ok tokens =>
    let cell ← FormulaCell.of sheet position tokens
    let (_, chain) ← (← get).chain.add cell
    modify fun state => { state with chain }

/-- Registers the formulas of a sheet. -/
def registerAll (setting : Setting) (sheet : Nat) : List (Position × String) → Pass Unit
  | [] => return
  | (position, formula) :: rest => do
    register setting sheet position formula
    registerAll setting sheet rest

/-- Registers the formulas of sheets. -/
def registerSheets (setting : Setting) : (sheets : List Nat) → Pass Unit
  | [] => return
  | sheet :: rest => do
    registerAll setting sheet ((← get).workbook.formulas sheet)
    registerSheets setting rest

/-- Notes what the chain holds. -/
def countChain : Pass Unit := do
  let chain := (← get).chain
  count fun statistics => { statistics with
    formulas := chain.size
    circular := chain.circularPlaces.length
    volatile := chain.volatilePlaces.length }

/-- Registers every formula of the workbook anew, puts the chain in order and calculates all of
it. -/
def calculateAll (setting : Setting) : Pass Unit := do
  modify fun state => { state with chain := .empty }
  registerSheets setting (List.range (← get).workbook.sheetCount)
  modify fun state => { state with chain := state.chain.build state.workbook }
  countChain
  runPlaces setting (← get).chain.places

/-- Calculates the formulas that depend on changed cells. Without a chain everything is
calculated. -/
def calculateChanged (setting : Setting) (changed : List CellId) : Pass Unit := do
  let chain := (← get).chain
  if chain.size = 0 then calculateAll setting
  else
    countChain
    runPlaces setting (chain.recalculationOrder changed setting.options.recalculateVolatile)

end Pass

end Spreadsheet.Calculation
