import Spreadsheet.Address.CellId
import Spreadsheet.Dependency.Cycles
import Spreadsheet.Dependency.RangeIndex
import Spreadsheet.Dependency.References

/-!
# The dependency chain

The chain holds formula cells. `Chain.build` derives from their references who reads whom and puts
the cells in calculation order: a cell comes after the cells it reads, except that cells on a
cycle come last, in the order in which they were registered. Cells registered after that stand at
the end and read nothing until the chain is built again.
-/

namespace Spreadsheet.Dependency

open Formula (Token FormulaError)

/-- A cell with the tokens of its formula. -/
structure FormulaCell where
  id : CellId
  tokens : List Token
  deriving Inhabited

/-- The cell of the grid at a place, with tokens. -/
def FormulaCell.of (sheet : Nat) (position : Position) (tokens : List Token) :
    Except FormulaError FormulaCell :=
  match CellId.pack sheet position with
  | .ok id => .ok ⟨id, tokens⟩
  | .error refusal => .error (.invalidReference (.document refusal))

/-- The cell of the grid at a place, with the tokens of a formula. -/
def FormulaCell.ofFormula (sheet : Nat) (position : Position) (formula : String) :
    Except FormulaError FormulaCell := do
  FormulaCell.of sheet position (← (Formula.tokens formula).mapError .invalid)

/-- What a cell of a workbook reads. -/
def FormulaCell.references (book : Workbook) (cell : FormulaCell) : References :=
  .ofTokens book cell.id.sheet cell.tokens

/-- The numbers listed for a number in a table; beyond its end there are none. -/
def listed (table : Array (List Nat)) (number : Nat) : List Nat := (table[number]?).getD []

/-- What building has found out about the cells it has put in order, each table by place in that
order unless it says otherwise. -/
structure Layout where
  /-- Which registered cell stands at each place. -/
  order : Array Nat
  /-- The place of each registered cell, by its number in the order of registration. -/
  placeOf : Array Nat
  references : Array References
  /-- The places that each cell reads, in ascending order. -/
  precedents : Array (List Nat)
  /-- The places that read each cell, in ascending order. -/
  dependents : Array (List Nat)
  circular : Array Bool
  deriving Inhabited

/-- The layout of no cells. -/
def Layout.empty : Layout := ⟨#[], #[], #[], #[], #[], #[]⟩

/-- Formula cells and the layout of those among them that have been put in order. -/
structure Chain where
  /-- The cells in the order of their registration. -/
  registered : Array FormulaCell
  layout : Layout
  deriving Inhabited

namespace Chain

/-- The chain without cells. -/
def empty : Chain := ⟨#[], .empty⟩

/-- Number of cells. -/
def size (chain : Chain) : Nat := chain.registered.size

/-- Which registered cell stands at a place: cells that have not been put in order stand where they
were registered. -/
def registration (chain : Chain) (place : Nat) : Nat := (chain.layout.order[place]?).getD place

/-- The place that a registered cell keeps for its own, by its number in the order of
registration. -/
def indexOfNumber (chain : Chain) (number : Nat) : Nat :=
  (chain.layout.placeOf[number]?).getD number

/-- The cell at a place. -/
def cell? (chain : Chain) (place : Nat) : Option FormulaCell :=
  chain.registered[chain.registration place]?

/-- The cells of the chain in its order. -/
def cells (chain : Chain) : List FormulaCell := (List.range chain.size).filterMap chain.cell?

/-- The place of a cell. -/
def place? (chain : Chain) (id : CellId) : Option Nat :=
  chain.cells.findIdx? fun cell => cell.id == id

/-- The places that a cell reads. -/
def precedentsOf (chain : Chain) (place : Nat) : List Nat := listed chain.layout.precedents place

/-- The places that read a cell. -/
def dependentsOf (chain : Chain) (place : Nat) : List Nat := listed chain.layout.dependents place

/-- Whether a cell reads itself, directly or by way of others. -/
def isCircular (chain : Chain) (place : Nat) : Bool := (chain.layout.circular[place]?).getD false

/-- Whether a cell calls a function whose result may change although no cell does. -/
def isVolatile (chain : Chain) (place : Nat) : Bool :=
  (chain.layout.references[place]?).any References.isVolatile

/-- The places of all cells. -/
def places (chain : Chain) : List Nat := List.range chain.size

/-- The places of cells on a cycle. -/
def circularPlaces (chain : Chain) : List Nat := chain.places.filter chain.isCircular

/-- The places of volatile cells. -/
def volatilePlaces (chain : Chain) : List Nat := chain.places.filter chain.isVolatile

/-- Registers a cell and gives its place. A cell that is in the chain already is refused. -/
def add (chain : Chain) (cell : FormulaCell) : Except FormulaError (Nat × Chain) :=
  if chain.registered.any fun other => other.id == cell.id then
    .error (.contract (.alreadyChained cell.id.render))
  else .ok (chain.size, { chain with registered := chain.registered.push cell })

/-- Distinct numbers in ascending order. -/
def ascending (numbers : List Nat) : List Nat := (Std.TreeSet.ofList numbers).toList

/-- The index of cells by their numbers in the order of registration. -/
def indexOf (cells : List FormulaCell) : RangeIndex :=
  cells.zipIdx.foldl
    (fun index (cell, number) => index.insert cell.id.sheet cell.id.position number)
    .empty

/-- The numbers of the cells that references read. -/
def targets (index : RangeIndex) (references : References) : List Nat :=
  ascending (
    references.cells.filterMap (fun (sheet, position) => index.get? sheet position) ++
      references.ranges.flatMap fun (sheet, range) => index.inRange sheet range)

/-- The order of calculation over registration numbers, given in which order a walk has finished
them: first the cells without cycles, as they were finished, then the others. -/
def calculationOrder (postorder : List Nat) (circular : Nat → Bool) (count : Nat) : List Nat :=
  postorder.filter (fun number => !circular number) ++ (List.range count).filter circular

/-- The converse of a relation between places, given for each place by the places it is related
to. -/
def converse (related : Array (List Nat)) : Array (List Nat) :=
  (List.range related.size).foldr
    (fun place table =>
      (listed related place).foldl (fun table other => table.modify other (place :: ·)) table)
    (Array.replicate related.size [])

/-- The place of each number in an order of the numbers below a count. -/
def inverse (order : List Nat) (count : Nat) : Array Nat :=
  order.zipIdx.foldl (fun table (number, place) => table.setIfInBounds number place)
    (Array.replicate count 0)

/-- The layout of registered cells. It depends on nothing but these cells, their order and what
each of them reads. -/
def layoutBy (scan : FormulaCell → References) (cells : Array FormulaCell) : Layout :=
  -- up to the order of calculation, cells go by their number in the order of registration
  let references := cells.map scan
  let reads := references.map (targets (indexOf cells.toList))
  let found := Search.run (listed reads) cells.size
  let order := (calculationOrder found.postorder found.isCircular cells.size).toArray
  let placeOf := inverse order.toList cells.size
  -- from here on they go by their place in the order of calculation
  let precedents := order.map fun number =>
    ascending ((listed reads number).filterMap fun target => placeOf[target]?)
  { order
    placeOf
    references := order.map fun number => (references[number]?).getD default
    precedents
    dependents := converse precedents
    circular := order.map found.isCircular }

/-- Puts all cells in calculation order, given what each of them reads. -/
def buildBy (chain : Chain) (scan : FormulaCell → References) : Chain :=
  { chain with layout := layoutBy scan chain.registered }

/-- Puts all cells in calculation order. Of the workbook only names and sheets matter. -/
def build (chain : Chain) (book : Workbook) : Chain := chain.buildBy (FormulaCell.references book)

/-- Whether a cell reads one of the changed cells. -/
def readsAny (chain : Chain) (changed : List CellId) (place : Nat) : Bool :=
  (chain.layout.references[place]?).any fun references =>
    changed.any fun id => references.reads id.sheet id.position

/-- The cells from which a change spreads: those that read a changed cell, changed cells of the
chain themselves, and volatile cells if they take part. -/
def seeds (chain : Chain) (changed : List CellId) (withVolatile : Bool) : List Nat :=
  (chain.places.filter fun place =>
    (withVolatile && chain.isVolatile place) || chain.readsAny changed place) ++
  changed.filterMap chain.place?

/-- The places to calculate again after some cells have changed, in calculation order. -/
def recalculationOrder (chain : Chain) (changed : List CellId) (withVolatile : Bool) : List Nat :=
  let reached := reachable compare chain.dependentsOf chain.size (chain.seeds changed withVolatile)
  chain.places.filter reached.contains

/-- The places among some that read a cell of others, directly or by way of other cells. -/
def downstream (chain : Chain) (sources candidates : List Nat) : List Nat :=
  let reached :=
    reachable compare chain.dependentsOf chain.size (sources.flatMap chain.dependentsOf)
  candidates.filter reached.contains

end Chain

end Spreadsheet.Dependency
