import Spreadsheet.Evaluation.Context

/-!
# Walking over keys

A lookup walks over keys one by one, and each key has a result some steps away from it. The keys
come from data or from a range; a navigator is the walk over either, standing at one of the keys.
-/

namespace Spreadsheet.Lookup

open Formula (SourceKind Violation FormulaError)

/-- The way along which keys lie. -/
inductive Direction where
  /-- Keys lie below each other, results to their right. -/
  | vertical
  /-- Keys lie beside each other, results below them. -/
  | horizontal
  deriving DecidableEq, Repr

/-- Where keys come from. -/
inductive Source where
  /-- Data, one element for each key; an element may be a row of values. -/
  | array (elements : List Value)
  | range (address : SheetRange)
  deriving Inhabited

/-- Why a lookup gives no result. -/
inductive LookupError where
  /-- The error value that is the result of the lookup. -/
  | cell (fault : ErrorValue)
  /-- A walk over the wrong kind of source. -/
  | wrongSource (kind : SourceKind)
  /-- The number of the result is not a number. -/
  | indexNotNumber
  deriving DecidableEq, Repr

/-- The words for a lookup without a result. -/
def LookupError.message : LookupError → String
  | cell fault => fault.literal
  | wrongSource kind => s!"lookup contract violation: {kind.need}"
  | indexNotNumber => FormulaError.indexNotNumber.message

/-- The result of a function that looks something up: an error value is a result, too. -/
def settle : Except LookupError Value → Except FormulaError Value
  | .ok value => .ok value
  | .error (.cell fault) => .ok (.error fault)
  | .error (.wrongSource kind) => .error (.contract (.wrongSource kind))
  | .error .indexNotNumber => .error .indexNotNumber

/-- What is looked up, and where. -/
structure Request where
  /-- The value to look for. -/
  value : Value
  /-- How many steps the result lies away from its key. -/
  index : Nat
  source : Source
  /-- Whether the nearest key will do. -/
  approximate : Bool
  deriving Inhabited

/-- A request for a single value; error values and arrays cannot be looked for. -/
def Request.of (value : Value) (index : Nat) (source : Source) (approximate : Bool) :
    Except LookupError Request :=
  match value with
  | .error fault => .error (.cell fault)
  | .array _ => .error (.cell .value)
  | value => .ok ⟨value, index, source, approximate⟩

/-- A walk over keys, counted from zero, standing at one of them. -/
structure Navigator where
  length : Nat
  keyAt : Nat → Value
  resultAt : Nat → Value
  position : Nat

namespace Navigator

/-- The key where the walk stands. -/
def key (navigator : Navigator) : Value := navigator.keyAt navigator.position

/-- The result of the key where the walk stands. -/
def result (navigator : Navigator) : Value := navigator.resultAt navigator.position

/-- The walk one key further, unless it stands at the last one. -/
def move (navigator : Navigator) : Option Navigator :=
  if navigator.position + 1 < navigator.length then
    some { navigator with position := navigator.position + 1 }
  else none

end Navigator

/-- How many results each key has: as many as the first element has columns, or else as many as
there are elements. -/
def extent : List Value → Nat
  | .array rows :: _ => (rows.headD []).length
  | elements => elements.length

/-- A value of an element, which is the element itself if that is no row. -/
def itemOf (element : Value) (index : Nat) : Value :=
  match element with
  | .array rows => ((rows.headD [])[index]?).getD (.error .reference)
  | single => single

/-- The walk over data. Single values that lie beside each other are one key with several
results. -/
def overArray (direction : Direction) (request : Request) : Except LookupError Navigator :=
  match request.source with
  | .range _ => .error (.wrongSource .array)
  | .array elements =>
    if extent elements ≤ request.index then .error (.cell .reference)
    else
      let data := elements.toArray
      .ok {
        length := if direction = .horizontal then 1 else data.size
        keyAt := fun position => ((data[position]?).map fun element => itemOf element 0).getD .empty
        resultAt := fun position =>
          match data[position]?, direction with
          | none, _ => .empty
          | some (.array rows), _ => itemOf (.array rows) request.index
          | some _, .horizontal => (data[request.index]?).getD .empty
          | some single, .vertical => single
        position := 0 }

/-- The walk over a range of the workbook. -/
def overRange (direction : Direction) (request : Request) (context : Context) :
    Except LookupError Navigator :=
  match request.source with
  | .array _ => .error (.wrongSource .range)
  | .range address =>
    let range := address.range
    let (length, width) := match direction with
      | .vertical => (range.rowCount, range.columnCount)
      | .horizontal => (range.columnCount, range.rowCount)
    if !context.hasSheet address.sheet then .error (.cell .reference)
    else if width ≤ request.index then .error (.cell .reference)
    else
      let read (position offset : Nat) : Value :=
        let (row, column) := match direction with
          | .vertical => (position, offset)
          | .horizontal => (offset, position)
        let cell : Position := ⟨range.first.row + row, range.first.column + column⟩
        if range.contains cell then context.shown address.sheet cell else .empty
      .ok {
        length
        keyAt := fun position => read position 0
        resultAt := fun position => read position request.index
        position := 0 }

/-- The walk over the source of a request. -/
def navigate (direction : Direction) (request : Request) (context : Context) :
    Except LookupError Navigator :=
  match request.source with
  | .array _ => overArray direction request
  | .range _ => overRange direction request context

end Spreadsheet.Lookup
