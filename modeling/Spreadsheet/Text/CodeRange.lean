/-!
# Ranges of code points

Character properties and case mappings beyond ASCII are tables of ranges. `CodeRange.enclose` asks a
table of intervals, `CaseRun.image` a table of runs that map code points to code points.
-/

namespace Spreadsheet.Text

/-- A closed interval of code points. -/
abbrev CodeRange := Nat × Nat

/-- A code point has a property when one interval of its table encloses it. -/
def CodeRange.enclose (table : List CodeRange) (code : Nat) : Bool :=
  table.any fun interval => interval.1 ≤ code && code ≤ interval.2

/-- Every `stride`-th code point from `first` to `last` maps to the code point as far from `target`
as it is from `first`. -/
structure CaseRun where
  first : Nat
  last : Nat
  stride : Nat
  target : Nat

/-- A run covers the code points it maps. -/
def CaseRun.covers (run : CaseRun) (code : Nat) : Bool :=
  run.first ≤ code && code ≤ run.last && (code - run.first) % run.stride == 0

/-- The image of a code point, itself when no run covers it. -/
def CaseRun.image (table : List CaseRun) (code : Nat) : Nat :=
  match table.find? (·.covers code) with
  | some run => run.target + (code - run.first)
  | none => code

/-- The code points that a table maps to a code point, in the order of its runs. -/
def CaseRun.sources (table : List CaseRun) (code : Nat) : List Nat :=
  table.filterMap fun run =>
    let source := run.first + (code - run.target)
    if run.target ≤ code && run.covers source then some source else none

end Spreadsheet.Text
