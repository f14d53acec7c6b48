import Spreadsheet.Calculation.Pass

/-!
# Calculating a workbook

`calculate` runs a full pass, and `recalculate` one over the formulas that depend on changed
cells. Both take the chain that earlier passes have left and give the statistics of the pass, or
why it failed, together with the state it has reached.
-/

namespace Spreadsheet.Calculation

open Dependency (Chain)
open Formula (FormulaError)

/-- The state before a pass. -/
def State.initial (workbook : Workbook) (chain : Chain) : State := ⟨workbook, chain, .initial, 0, 0⟩

/-- Runs a pass on a workbook and a chain. -/
def perform (pass : Pass Unit) (workbook : Workbook) (chain : Chain) :
    Except FormulaError Statistics × State :=
  let (result, state) := pass.run.run (.initial workbook chain)
  (result.map fun _ => state.statistics, state)

/-- Calculates all formulas. -/
def calculate (setting : Setting) (workbook : Workbook) (chain : Chain) :
    Except FormulaError Statistics × State :=
  perform (Pass.calculateAll setting) workbook chain

/-- Calculates the formulas that depend on changed cells. -/
def recalculate (setting : Setting) (workbook : Workbook) (chain : Chain) (changed : List CellId) :
    Except FormulaError Statistics × State :=
  perform (Pass.calculateChanged setting changed) workbook chain

end Spreadsheet.Calculation
