/-!
# Finding cycles

A graph over the numbers below a size is given by the neighbours of each node. One walk in depth
finishes every node after the nodes it leads to, those excepted that lead back, and splits the
nodes into the groups whose members lead to each other. A node is on a cycle exactly if its group
has another member or it is a neighbour of itself.

The walk numbers the nodes as it enters them and keeps them on a stack until their group is
complete. Every node on the way keeps the least number on the stack to which it is known to lead,
its lowlink. A node that is finished while this is still its own number is the first of its group,
which then lies on top of the stack.
-/

namespace Spreadsheet.Dependency

/-- How far a walk has come with a node. -/
inductive NodeState where
  | unvisited
  | inProgress
  | done
  deriving DecidableEq

/-- What a walk keeps about a node. -/
structure Node where
  state : NodeState := .unvisited
  /-- How many nodes had been entered before it. -/
  discovery : Nat := 0
  lowlink : Nat := 0
  onStack : Bool := false
  circular : Bool := false

/-- A node on the way, with the neighbours that have not been looked at yet. -/
structure Frame where
  node : Nat
  rest : List Nat

/-- A walk at one moment, over a graph of `size` nodes. -/
structure Search (size : Nat) where
  nodes : Vector Node size
  /-- The nodes whose group is not complete, the latest first. -/
  stack : List Nat
  /-- Number of nodes entered so far. -/
  counter : Nat
  /-- The nodes finished so far, the latest first. -/
  finished : List Nat

namespace Search

variable {size : Nat}

/-- The walk before its first node. -/
def start (size : Nat) : Search size := ⟨Vector.replicate size {}, [], 0, []⟩

/-- What is kept about a node. -/
def node (search : Search size) (number : Nat) : Node := (search.nodes[number]?).getD {}

/-- Changes what is kept about a node. -/
def modify (search : Search size) (number : Nat) (change : Node → Node) : Search size :=
  { search with nodes := search.nodes.setIfInBounds number (change (search.node number)) }

/-- Changes what is kept about some nodes. -/
def modifyAll (search : Search size) (numbers : List Nat) (change : Node → Node) : Search size :=
  numbers.foldl (fun search number => search.modify number change) search

/-- Enters a node. -/
def enter (search : Search size) (number : Nat) : Search size :=
  { search with counter := search.counter + 1, stack := number :: search.stack }.modify number
    fun node =>
      { node with
        state := .inProgress
        discovery := search.counter
        lowlink := search.counter
        onStack := true }

/-- Notes that a node leads to the node of a number on the stack. -/
def lower (search : Search size) (number bound : Nat) : Search size :=
  search.modify number fun node => { node with lowlink := min node.lowlink bound }

/-- Finishes a node. -/
def finish (search : Search size) (number : Nat) : Search size :=
  { search with finished := number :: search.finished }.modify number ({ · with state := .done })

/-- A stack as far as a node, that node included, and what lies below. -/
def unstack (root : Nat) : List Nat → List Nat × List Nat
  | [] => ([], [])
  | member :: stack =>
    if member = root then ([member], stack)
    else
      let (members, below) := unstack root stack
      (member :: members, below)

/-- Whether a group that starts with a node is on a cycle: it has several members, or the only one
is a neighbour of itself. -/
def isCyclic (reads : Nat → List Nat) (root : Nat) (members : List Nat) : Bool :=
  members.length > 1 || (reads root).contains root

/-- Takes the group that starts with a node from the stack and marks it if it is on a cycle. -/
def closeGroup (reads : Nat → List Nat) (search : Search size) (root : Nat) : Search size :=
  let (members, below) := unstack root search.stack
  let cyclic := isCyclic reads root members
  { search with stack := below }.modifyAll members fun node =>
    { node with onStack := false, circular := node.circular || cyclic }

/-- Hands the lowlink of a finished node on to the node from which it was entered. -/
def handOn (search : Search size) (number : Nat) : List Frame → Search size
  | [] => search
  | parent :: _ => search.lower parent.node (search.node number).lowlink

/-- Looks at one neighbour of the last node on the way, or finishes that node if there is none
left. -/
def step (reads : Nat → List Nat) : List Frame → Search size → List Frame × Search size
  | [], search => ([], search)
  | ⟨number, next :: rest⟩ :: frames, search =>
    let frames := ⟨number, rest⟩ :: frames
    match (search.node next).state with
    | .unvisited => (⟨next, reads next⟩ :: frames, search.enter next)
    | .inProgress | .done =>
      if (search.node next).onStack then
        (frames, search.lower number (search.node next).discovery)
      else (frames, search)
  | ⟨number, []⟩ :: frames, search =>
    let search := (search.finish number).handOn number frames
    if (search.node number).lowlink = (search.node number).discovery then
      (frames, search.closeGroup reads number)
    else (frames, search)

/-- Walks on until no node is on the way any more. Every neighbour that is looked at and every node
that is finished takes one unit of `fuel`. -/
def walk (reads : Nat → List Nat) : (fuel : Nat) → List Frame → Search size → Search size
  | 0, _, search => search
  | _ + 1, [], search => search
  | fuel + 1, frame :: frames, search =>
    let (frames, search) := step reads (frame :: frames) search
    walk reads fuel frames search

/-- Walks through everything that a node leads to, unless it has been entered before. -/
def visitRoot (reads : Nat → List Nat) (fuel : Nat) (search : Search size) (root : Nat) :
    Search size :=
  if (search.node root).state = .unvisited then
    walk reads fuel [⟨root, reads root⟩] (search.enter root)
  else search

/-- The steps that a walk takes for some nodes: one for each neighbour, and one to finish each of
them. -/
def stepsFor (reads : Nat → List Nat) (numbers : List Nat) : Nat :=
  numbers.foldr (fun number steps => (reads number).length + 1 + steps) 0

/-- The walk through a whole graph. -/
def run (reads : Nat → List Nat) (size : Nat) : Search size :=
  (List.range size).foldl (visitRoot reads (stepsFor reads (List.range size))) (start size)

/-- The nodes in the order in which they were finished. -/
def postorder (search : Search size) : List Nat := search.finished.reverse

/-- Whether a node has been found to be on a cycle. -/
def isCircular (search : Search size) (number : Nat) : Bool := (search.node number).circular

end Search

end Spreadsheet.Dependency
