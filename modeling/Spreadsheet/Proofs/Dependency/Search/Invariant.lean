import Spreadsheet.Dependency.Cycles
import Spreadsheet.Proofs.Dependency.Walk

/-!
# What holds of a walk at every moment

The invariant of the walk that finds cycles, `Search.Sound`. Its parts say how the stack lies
(`Stacked`), what the nodes on it lead to (`Linked`), what is known about the groups that are
complete (`Grouped`) and in which order nodes are finished (`Ordered`). It holds before the first
node (`sound_start`). The lemmas before it say what each change to a walk does to what is kept about
a node.
-/

namespace Spreadsheet.Dependency

/-- The order in which nodes are finished, the latest first: each neighbour of a node was finished
before it, unless it leads back to that node. -/
def Settled (reads : Nat → List Nat) : List Nat → Prop
  | [] => True
  | node :: earlier =>
      (∀ target ∈ reads node, target ∈ earlier ∨ Reaches reads target node) ∧
      Settled reads earlier

/-- Whether a node leads back to itself. -/
def LeadsBack (reads : Nat → List Nat) (node : Nat) : Prop :=
  Relation.TransGen (fun left right => right ∈ reads left) node node

/-- The nodes on the way, the latest first. -/
def path (frames : List Frame) : List Nat := frames.map Frame.node

/-- Whether a node on the way is still to look at a neighbour. -/
def Pending (frames : List Frame) (node target : Nat) : Prop :=
  ∃ frame ∈ frames, frame.node = node ∧ target ∈ frame.rest

/-- A node that is not on the way is waiting for none of its neighbours. -/
theorem not_pending_of_not_mem {frames : List Frame} {node target : Nat}
    (h : node ∉ path frames) : ¬ Pending frames node target := by
  rintro ⟨frame, hframe, rfl, -⟩
  exact h (List.mem_map_of_mem hframe)

/-- A node that has looked at all its neighbours is waiting for none. -/
theorem pending_cons_nil_iff {frames : List Frame} {number node target : Nat} :
    Pending (⟨number, []⟩ :: frames) node target ↔ Pending frames node target := by
  simp [Pending]

/-- Looking at one neighbour leaves everything else to be looked at. -/
theorem Pending.advance {above below : List Frame} {rest : List Nat}
    {number next node target : Nat}
    (h : Pending (above ++ ⟨number, next :: rest⟩ :: below) node target) :
    Pending (above ++ ⟨number, rest⟩ :: below) node target ∨ (node = number ∧ target = next) := by
  obtain ⟨frame, hframe, rfl, htarget⟩ := h
  rcases List.mem_append.mp hframe with habove | hlast
  · exact Or.inl ⟨frame, by simp [habove], rfl, htarget⟩
  · rcases List.mem_cons.mp hlast with rfl | hbelow
    · rcases List.mem_cons.mp htarget with rfl | hrest
      · exact Or.inr ⟨rfl, rfl⟩
      · exact Or.inl ⟨⟨number, rest⟩, by simp, rfl, hrest⟩
    · exact Or.inl ⟨frame, by simp [hbelow], rfl, htarget⟩

namespace Search

variable {size : Nat} {search : Search size} {number other bound : Nat} {frames : List Frame}
  {reads : Nat → List Nat}

section Changes

/-- Changing what is kept about one node changes nothing about another one. -/
theorem node_modify (h : number < size) (change : Node → Node) :
    (search.modify number change).node other =
      if other = number then change (search.node other) else search.node other := by
  unfold modify
  rw [node, Vector.getElem?_setIfInBounds]
  by_cases hother : other = number
  · subst hother
    simp [h]
  · simp [hother, Ne.symm hother, node]

/-- Changing what is kept about some nodes, in a way that does nothing the second time, changes each
of them once. -/
theorem node_modify_all {numbers : List Nat} (hnumbers : ∀ number ∈ numbers, number < size)
    {change : Node → Node} (hchange : ∀ found, change (change found) = change found) :
    (search.modifyAll numbers change).node other =
      if other ∈ numbers then change (search.node other) else search.node other := by
  induction numbers generalizing search with
  | nil => simp [modifyAll]
  | cons first rest ih =>
      have hstep : search.modifyAll (first :: rest) change =
          (search.modify first change).modifyAll rest change := rfl
      rw [hstep, ih fun number hnumber => hnumbers number (by simp [hnumber]),
        node_modify (hnumbers first (by simp))]
      by_cases hfirst : other = first <;> by_cases hrest : other ∈ rest <;>
        simp [hfirst, hrest, hchange]

/-- Changing what is kept about nodes leaves the stack, the counter and the finished nodes alone. -/
theorem modify_all_fields (numbers : List Nat) (change : Node → Node) :
    (search.modifyAll numbers change).stack = search.stack ∧
      (search.modifyAll numbers change).counter = search.counter ∧
      (search.modifyAll numbers change).finished = search.finished := by
  induction numbers generalizing search with
  | nil => exact ⟨rfl, rfl, rfl⟩
  | cons first rest ih => exact ih

/-- Entering a node numbers it, puts it in progress and on the stack. -/
theorem node_enter (h : number < size) :
    (search.enter number).node other =
      if other = number then
        { search.node other with
          state := .inProgress
          discovery := search.counter
          lowlink := search.counter
          onStack := true }
      else search.node other := by
  rw [enter, node_modify h]
  rfl

/-- Lowering a node changes its lowlink only. -/
theorem node_lower (h : number < size) :
    (search.lower number bound).node other =
      { search.node other with
        lowlink :=
          if other = number then min (search.node other).lowlink bound
          else (search.node other).lowlink } := by
  rw [lower, node_modify h]
  split <;> rfl

/-- Finishing a node changes its state only. -/
theorem node_finish (h : number < size) :
    (search.finish number).node other =
      { search.node other with
        state := if other = number then .done else (search.node other).state } := by
  rw [finish, node_modify h]
  split <;> rfl

/-- Entering a node puts it on top of the stack. -/
@[simp] theorem stack_enter : (search.enter number).stack = number :: search.stack := rfl

/-- Entering a node uses up one number. -/
@[simp] theorem counter_enter : (search.enter number).counter = search.counter + 1 := rfl

/-- Lowering a node leaves the stack alone. -/
@[simp] theorem stack_lower : (search.lower number bound).stack = search.stack := rfl

/-- Lowering a node uses up no number. -/
@[simp] theorem counter_lower : (search.lower number bound).counter = search.counter := rfl

/-- Lowering a node finishes none. -/
@[simp] theorem finished_lower : (search.lower number bound).finished = search.finished := rfl

/-- Finishing a node leaves it on the stack. -/
@[simp] theorem stack_finish : (search.finish number).stack = search.stack := rfl

/-- Finishing a node uses up no number. -/
@[simp] theorem counter_finish : (search.finish number).counter = search.counter := rfl

/-- Finishing a node puts it before those finished earlier. -/
@[simp] theorem finished_finish :
    (search.finish number).finished = number :: search.finished := rfl

/-- Whether a walk has entered a node. -/
def Visited (search : Search size) (number : Nat) : Prop :=
  (search.node number).state ≠ .unvisited

/-- Only nodes of the graph are ever entered. -/
theorem Visited.lt (h : search.Visited number) : number < size := by
  by_contra hge
  rw [Visited, node, Vector.getElem?_eq_none (Nat.le_of_not_lt hge)] at h
  exact h rfl

/-- Entering a node makes that node only count as entered. -/
theorem visited_enter_iff (h : number < size) :
    (search.enter number).Visited other ↔ other = number ∨ search.Visited other := by
  unfold Visited
  rw [node_enter h]
  split <;> simp [*]

/-- Lowering a node leaves alone which nodes have been entered. -/
theorem visited_lower_iff (h : number < size) :
    (search.lower number bound).Visited other ↔ search.Visited other := by
  unfold Visited
  rw [node_lower h]

/-- Finishing a node leaves alone which nodes have been entered. -/
theorem visited_finish_iff (h : search.Visited number) :
    (search.finish number).Visited other ↔ search.Visited other := by
  unfold Visited
  rw [node_finish h.lt]
  by_cases hother : other = number
  · subst hother
    simp only [if_true, ne_eq, reduceCtorEq, not_false_eq_true, true_iff]
    exact h
  · simp [hother]

end Changes

/-- How the stack of a walk lies: it holds nodes in the order in which they were entered, the nodes
on the way among them. -/
structure Stacked (frames : List Frame) (search : Search size) : Prop where
  on_stack_iff : ∀ number, (search.node number).onStack = true ↔ number ∈ search.stack
  visited : ∀ number ∈ search.stack, search.Visited number
  counted : ∀ number ∈ search.stack, (search.node number).discovery < search.counter
  falling : search.stack.Pairwise fun later earlier =>
    (search.node earlier).discovery < (search.node later).discovery
  path_mem : ∀ number ∈ path frames, number ∈ search.stack
  path_falling : (path frames).Pairwise fun later earlier =>
    (search.node earlier).discovery < (search.node later).discovery

/-- The nodes on the way have been entered. -/
theorem Stacked.visited_of_path (h : Stacked frames search) (hnumber : number ∈ path frames) :
    search.Visited number :=
  h.visited number (h.path_mem number hnumber)

/-- What the nodes on the stack lead to. An ancestor is a node on the way. -/
structure Linked (reads : Nat → List Nat) (frames : List Frame) (search : Search size) : Prop where
  rest_mem : ∀ frame ∈ frames, ∀ target ∈ frame.rest, target ∈ reads frame.node
  /-- Whatever has been looked at has been entered. -/
  followed : ∀ number, search.Visited number → ∀ target ∈ reads number,
    Pending frames number target ∨ search.Visited target
  /-- An ancestor leads to everything above it. -/
  leads : ∀ ancestor ∈ path frames, ∀ number ∈ search.stack,
    (search.node ancestor).discovery ≤ (search.node number).discovery →
    Reaches reads ancestor number
  /-- Everything on the stack leads to an ancestor that is not above it. -/
  returns : ∀ number ∈ search.stack, ∃ ancestor ∈ path frames,
    (search.node ancestor).discovery ≤ (search.node number).discovery ∧
    Reaches reads number ancestor
  lowlink_le : ∀ ancestor ∈ path frames,
    (search.node ancestor).lowlink ≤ (search.node ancestor).discovery
  /-- The lowlink of an ancestor is the number of a node on the stack to which it leads. -/
  lowlink_reached : ∀ ancestor ∈ path frames, ∃ number ∈ search.stack,
    (search.node number).discovery = (search.node ancestor).lowlink ∧
    Reaches reads ancestor number
  /-- From above an ancestor no step that has been looked at goes farther down than the lowlinks of
  the ancestors in between tell. -/
  bounded : ∀ number ∈ search.stack, ∀ target ∈ reads number, target ∈ search.stack →
    Pending frames number target ∨
    ∀ lowest ∈ path frames, (search.node lowest).discovery ≤ (search.node number).discovery →
      ∃ ancestor ∈ path frames,
        (search.node lowest).discovery ≤ (search.node ancestor).discovery ∧
        (search.node ancestor).discovery ≤ (search.node number).discovery ∧
        (search.node ancestor).lowlink ≤ (search.node target).discovery

/-- What is known about nodes whose group is complete: they lead to such nodes only, and of them
those on a cycle have been marked. -/
structure Grouped (reads : Nat → List Nat) (search : Search size) : Prop where
  closed : ∀ number, search.Visited number → number ∉ search.stack →
    ∀ target ∈ reads number, search.Visited target ∧ target ∉ search.stack
  circular_iff : ∀ number, (search.node number).circular = true ↔
    search.Visited number ∧ number ∉ search.stack ∧ LeadsBack reads number

/-- A node whose group is complete leads to such nodes only, by any number of steps. -/
theorem Grouped.closed_of_reaches (h : Grouped reads search) {target : Nat}
    (hvisited : search.Visited number) (hcomplete : number ∉ search.stack)
    (hreach : Reaches reads number target) : search.Visited target ∧ target ∉ search.stack :=
  have hnext : ∀ node ∈ {node | search.Visited node ∧ node ∉ search.stack}, ∀ target ∈ reads node,
      target ∈ {node | search.Visited node ∧ node ∉ search.stack} :=
    fun node hnode => h.closed node hnode.1 hnode.2
  Reaches.mem hnext hreach ⟨hvisited, hcomplete⟩

/-- In which order nodes have been finished. -/
structure Ordered (reads : Nat → List Nat) (frames : List Frame) (search : Search size) :
    Prop where
  mem_finished_iff : ∀ number, number ∈ search.finished ↔
    search.Visited number ∧ number ∉ path frames
  nodup : search.finished.Nodup
  settled : Settled reads search.finished

/-- What holds of a walk at every moment. -/
structure Sound (reads : Nat → List Nat) (frames : List Frame) (search : Search size) : Prop where
  stacked : Stacked frames search
  linked : Linked reads frames search
  grouped : Grouped reads search
  ordered : Ordered reads frames search

section Start

/-- Before the walk starts no node has been entered. -/
theorem not_visited_start (number : Nat) : ¬ (start size).Visited number := by
  unfold Visited node start
  by_cases h : number < size <;> simp [h]

/-- A walk is sound before its first node. -/
theorem sound_start : Sound reads [] (start size) where
  stacked := {
    on_stack_iff := by
      intro number
      unfold node start
      by_cases h : number < size <;> simp [h]
    visited := by simp [start]
    counted := by simp [start]
    falling := List.Pairwise.nil
    path_mem := by simp [path]
    path_falling := List.Pairwise.nil }
  linked := {
    rest_mem := by simp
    followed := fun number h => absurd h (not_visited_start number)
    leads := by simp [path]
    returns := by simp [start]
    lowlink_le := by simp [path]
    lowlink_reached := by simp [path]
    bounded := by simp [start] }
  grouped := {
    closed := fun number h => absurd h (not_visited_start number)
    circular_iff := by
      intro number
      simp only [not_visited_start, false_and, iff_false]
      unfold node start
      by_cases h : number < size <;> simp [h] }
  ordered := {
    mem_finished_iff := by
      intro number
      simp only [not_visited_start, false_and, iff_false]
      exact List.not_mem_nil
    nodup := List.nodup_nil
    settled := trivial }

end Start

end Search

end Spreadsheet.Dependency
