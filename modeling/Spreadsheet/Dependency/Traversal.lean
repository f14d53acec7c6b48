import Std.Data.TreeSet

/-!
# Walking a graph in depth

A graph is given by the neighbours of each node. A walk enters every node it can reach once and
goes on to the neighbours in their order. The nodes a walk has entered are those that can be
reached.
-/

namespace Spreadsheet.Dependency

variable {α : Type} {order : α → α → Ordering}

namespace Traversal

/-- Walks on from a node unless it has been entered before. Every entered node on the way down
takes one unit of `depth`. -/
def visit (next : α → List α) : (depth : Nat) → Std.TreeSet α order → α → Std.TreeSet α order
  | 0, entered, _ => entered
  | depth + 1, entered, node =>
    if entered.contains node then entered
    else (next node).foldl (visit next depth) (entered.insert node)

end Traversal

/-- The nodes that can be reached from some nodes, those among them, in a graph of `size` nodes. -/
def reachable (order : α → α → Ordering) (next : α → List α) (size : Nat) (roots : List α) :
    Std.TreeSet α order :=
  roots.foldl (Traversal.visit next size) ∅

end Spreadsheet.Dependency
