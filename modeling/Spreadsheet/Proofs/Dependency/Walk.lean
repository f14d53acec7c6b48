import Mathlib.Data.Finset.Card
import Mathlib.Logic.Relation
import Spreadsheet.Dependency.Traversal

/-!
# What a walk in depth visits

The theory of `Traversal.visit`. A walk never forgets a node, and what it adds are nodes that can
be reached from where it was sent. The main theorem is `mem_reachable_iff`, which says that a walk
enters exactly the nodes that can be reached.
-/

namespace Spreadsheet.Dependency

variable {α : Type} {order : α → α → Ordering}

/-- Whether a node can be reached from another one, by any number of steps. -/
def Reaches (next : α → List α) : α → α → Prop :=
  Relation.ReflTransGen fun left right => right ∈ next left

/-- What a closed set of nodes leads to belongs to it. -/
theorem Reaches.mem {next : α → List α} {nodes : Set α}
    (hnext : ∀ node ∈ nodes, ∀ target ∈ next node, target ∈ nodes) {node target : α}
    (hreach : Reaches next node target) (hnode : node ∈ nodes) : target ∈ nodes := by
  induction hreach with
  | refl => exact hnode
  | tail _ htarget ih => exact hnext _ ih _ htarget

namespace Traversal

variable {next : α → List α}

/-- What a walk has become after it was sent to some nodes. -/
structure Extends (next : α → List α) (roots : List α) (before after : Std.TreeSet α order) :
    Prop where
  entered : ∀ node ∈ before, node ∈ after
  /-- Whatever is entered on the way can be reached, and so are its neighbours entered. -/
  added : ∀ node ∈ after, node ∈ before ∨
    ((∃ root ∈ roots, Reaches next root node) ∧ ∀ target ∈ next node, target ∈ after)
  roots_entered : ∀ root ∈ roots, root ∈ after

/-- A walk that is sent nowhere, or only to nodes it has entered, stays as it is. -/
theorem Extends.refl {roots : List α} {entered : Std.TreeSet α order}
    (h : ∀ root ∈ roots, root ∈ entered) : Extends next roots entered entered where
  entered _ hnode := hnode
  added _ hnode := Or.inl hnode
  roots_entered := h

/-- A walk can be sent to one node after the other. -/
theorem Extends.trans {first : α} {rest : List α} {before middle after : Std.TreeSet α order}
    (hfirst : Extends next [first] before middle) (hrest : Extends next rest middle after) :
    Extends next (first :: rest) before after where
  entered node hnode := hrest.entered node (hfirst.entered node hnode)
  added node hnode := by
    rcases hrest.added node hnode with hmiddle | ⟨⟨root, hroot, hreach⟩, htargets⟩
    · rcases hfirst.added node hmiddle with hbefore | ⟨⟨root, hroot, hreach⟩, htargets⟩
      · exact Or.inl hbefore
      · obtain rfl : root = first := by simpa using hroot
        exact Or.inr ⟨⟨root, by simp, hreach⟩,
          fun target htarget => hrest.entered target (htargets target htarget)⟩
    · exact Or.inr ⟨⟨root, by simp [hroot], hreach⟩, htargets⟩
  roots_entered root hroot := by
    rcases List.mem_cons.mp hroot with rfl | hroot
    · exact hrest.entered _ (hfirst.roots_entered _ (by simp))
    · exact hrest.roots_entered root hroot

/-- The nodes of a finite graph that a walk has not entered. -/
def unentered (nodes : Finset α) (entered : Std.TreeSet α order) : Finset α :=
  nodes.filter fun node => node ∉ entered

/-- A longer walk leaves no more nodes. -/
theorem Extends.unentered_card_le {roots : List α} {before after : Std.TreeSet α order}
    (nodes : Finset α) (h : Extends next roots before after) :
    (unentered nodes after).card ≤ (unentered nodes before).card := by
  apply Finset.card_le_card
  intro node hnode
  simp only [unentered, Finset.mem_filter] at hnode ⊢
  exact ⟨hnode.1, fun hbefore => hnode.2 (h.entered node hbefore)⟩

/-- Visiting nodes one after the other, given what visiting one of them does. -/
theorem foldl_spec {visitOne : Std.TreeSet α order → α → Std.TreeSet α order} {nodes : Finset α}
    {depth : Nat}
    (hvisit : ∀ entered : Std.TreeSet α order, ∀ node ∈ nodes,
      (unentered nodes entered).card ≤ depth →
      Extends next [node] entered (visitOne entered node))
    (targets : List α) (htargets : ∀ target ∈ targets, target ∈ nodes)
    (entered : Std.TreeSet α order) (hdepth : (unentered nodes entered).card ≤ depth) :
    Extends next targets entered (targets.foldl visitOne entered) := by
  induction targets generalizing entered with
  | nil => exact .refl (by simp)
  | cons first rest ih =>
      have hfirst := hvisit entered first (htargets first (by simp)) hdepth
      exact hfirst.trans (ih (fun target htarget => htargets target (by simp [htarget])) _
        ((hfirst.unentered_card_le nodes).trans hdepth))

variable [Std.TransCmp order] [Std.LawfulEqCmp order]

/-- Entering a node adds that node only to the nodes entered. -/
theorem mem_enter {entered : Std.TreeSet α order} {node other : α} :
    other ∈ entered.insert node ↔ other = node ∨ other ∈ entered := by
  simp only [Std.TreeSet.mem_insert, Std.LawfulEqCmp.compare_eq_iff_eq]
  exact or_congr_left eq_comm

/-- Entering a new node leaves fewer nodes. -/
theorem unentered_enter_card_lt {nodes : Finset α} {entered : Std.TreeSet α order} {node : α}
    (hnode : node ∈ nodes) (hnew : node ∉ entered) :
    (unentered nodes (entered.insert node)).card < (unentered nodes entered).card := by
  apply Finset.card_lt_card
  refine ⟨fun other hother => ?_, fun hsubset => ?_⟩
  · simp only [unentered, Finset.mem_filter, mem_enter, not_or] at hother ⊢
    exact ⟨hother.1, hother.2.2⟩
  · have hmem : node ∈ unentered nodes entered := by simp [unentered, hnode, hnew]
    have hgone := hsubset hmem
    simp [unentered] at hgone

/-- Visiting a new node is entering it and visiting its neighbours. -/
theorem Extends.enter {entered after : Std.TreeSet α order} {node : α}
    (hbelow : Extends next (next node) (entered.insert node) after) :
    Extends next [node] entered after where
  entered other hother := hbelow.entered other (mem_enter.mpr (Or.inr hother))
  added other hother := by
    rcases hbelow.added other hother with hinserted | ⟨⟨root, hroot, hreach⟩, htargets⟩
    · rcases mem_enter.mp hinserted with rfl | hbefore
      · exact Or.inr ⟨⟨other, by simp, Relation.ReflTransGen.refl⟩, hbelow.roots_entered⟩
      · exact Or.inl hbefore
    · exact Or.inr ⟨⟨node, by simp, hreach.head hroot⟩, htargets⟩
  roots_entered root hroot := by
    obtain rfl : root = node := by simpa using hroot
    exact hbelow.entered _ (mem_enter.mpr (Or.inl rfl))

/-- Visiting a node extends a walk by what the node leads to. The nodes still to be entered bound
the depth. -/
theorem visit_spec {nodes : Finset α} (hnext : ∀ node ∈ nodes, ∀ target ∈ next node, target ∈ nodes)
    (depth : Nat) (entered : Std.TreeSet α order) (node : α) (hnode : node ∈ nodes)
    (hdepth : (unentered nodes entered).card ≤ depth) :
    Extends next [node] entered (visit next depth entered node) := by
  induction depth generalizing entered node with
  | zero =>
      -- without room nothing is left to enter, so the node has been entered before
      have hentered : node ∈ entered := by
        by_contra hnew
        have hmem : node ∈ unentered nodes entered := by simp [unentered, hnode, hnew]
        simp [Finset.card_eq_zero.mp (Nat.le_zero.mp hdepth)] at hmem
      exact .refl (by simpa using hentered)
  | succ depth ih =>
      by_cases hentered : node ∈ entered
      · have hsame : visit next (depth + 1) entered node = entered := by
          simp [visit, Std.TreeSet.contains_iff_mem.mpr hentered]
        rw [hsame]
        exact .refl (by simpa using hentered)
      · -- entering the node leaves fewer nodes, so the room below is enough
        have hless := unentered_enter_card_lt hnode hentered
        have hbelow := foldl_spec ih (next node) (hnext node hnode) (entered.insert node) (by omega)
        have hvisit : visit next (depth + 1) entered node =
            (next node).foldl (visit next depth) (entered.insert node) := by
          simp [visit, hentered]
        rw [hvisit]
        exact hbelow.enter

end Traversal

/-- A walk enters exactly the nodes that some root leads to. -/
theorem mem_reachable_iff [Std.TransCmp order] [Std.LawfulEqCmp order] {next : α → List α}
    (nodes : Finset α)
    (hnext : ∀ node ∈ nodes, ∀ target ∈ next node, target ∈ nodes) {size : Nat}
    (hsize : nodes.card ≤ size) {roots : List α} (hroots : ∀ root ∈ roots, root ∈ nodes)
    {node : α} :
    node ∈ reachable order next size roots ↔ ∃ root ∈ roots, Reaches next root node := by
  have hextends : Traversal.Extends next roots ∅ (reachable order next size roots) :=
    Traversal.foldl_spec (Traversal.visit_spec hnext size) roots hroots ∅
      ((Finset.card_filter_le _ _).trans hsize)
  have hadded : ∀ other ∈ reachable order next size roots,
      (∃ root ∈ roots, Reaches next root other) ∧
        ∀ target ∈ next other, target ∈ reachable order next size roots := by
    intro other hother
    exact (hextends.added other hother).resolve_left (by simp)
  constructor
  · exact fun hnode => (hadded node hnode).1
  · rintro ⟨root, hroot, hreach⟩
    induction hreach with
    | refl => exact hextends.roots_entered root hroot
    | tail _ htarget ih => exact (hadded _ ih).2 _ htarget

end Spreadsheet.Dependency
