import Spreadsheet.Evaluation.Seed
import Spreadsheet.Evaluation.Context

/-!
# Settings and outcome of a calculation

How formulas on a cycle are treated, when a calculation stops early, and what is counted while it
runs.
-/

namespace Spreadsheet.Calculation

/-- The settings of a calculation. -/
structure Options where
  /-- Whether formulas on a cycle are calculated over and over instead of being errors. -/
  iterative : Bool
  /-- How often they are calculated at most. -/
  maxIterations : Nat
  /-- They have settled when no number changes by more than this. -/
  maxChange : Float
  /-- Whether volatile formulas take part when only changes are calculated. -/
  recalculateVolatile : Bool
  deriving DecidableEq

/-- The settings that hold unless others are given. -/
def Options.usual : Options := ⟨false, 100, 0.001, true⟩

instance : Inhabited Options := ⟨.usual⟩

/-- What is counted during a calculation. -/
structure Statistics where
  /-- Formulas in the chain. -/
  formulas : Nat
  /-- Formulas that were calculated, each counted once. -/
  calculated : Nat
  iterations : Nat
  /-- Formulas on a cycle. -/
  circular : Nat
  /-- Volatile formulas. -/
  volatile : Nat
  errors : Nat
  /-- Whether formulas on a cycle have settled. -/
  converged : Bool
  /-- Whether the calculation ran to its end. -/
  completed : Bool
  deriving DecidableEq, Repr, Inhabited

/-- The statistics of a calculation before it begins. -/
def Statistics.initial : Statistics := ⟨0, 0, 0, 0, 0, 0, true, true⟩

/-- Who watches over a calculation: it is stopped, or its results are refused, once a number of
results have been stored. -/
structure Supervision where
  /-- The number of results after which the calculation is to stop. -/
  stopAfter : Option Nat
  /-- The number of results after which the next one is refused. -/
  refuseAfter : Option Nat
  deriving DecidableEq, Repr, Inhabited

namespace Supervision

/-- Nobody watches. -/
def none : Supervision := ⟨.none, .none⟩

/-- The calculation is stopped before it begins. -/
def stopped : Supervision := ⟨some 0, .none⟩

/-- Whether a calculation is to stop when some results have been stored. -/
def stops (supervision : Supervision) (stored : Nat) : Bool :=
  supervision.stopAfter.any fun count => count ≤ stored

/-- Whether the next result is refused when some have been stored. -/
def refuses (supervision : Supervision) (stored : Nat) : Bool :=
  supervision.refuseAfter == some stored

end Supervision

/-- What surrounds a calculation: its settings, who watches it, its moment and its chances. -/
structure Setting where
  options : Options
  supervision : Supervision
  moment : Moment
  seed : Seed

end Spreadsheet.Calculation
