import Mathlib.Data.List.Perm.Basic
import Spreadsheet.Proofs.Dependency.Search.Groups

/-!
# Finding cycles is exact

Every step of a walk preserves its invariant and brings it nearer to its end by one (`Sound.step`),
so the walk through a whole graph comes to an end. The main theorems are `is_circular_run_iff`,
which says that it finds exactly the nodes that lead back to themselves, and `postorder_run_perm`
and `postorder_run_settled`, which say that it finishes every node once and neighbours first.
-/

namespace Spreadsheet.Dependency

/-- In the order in which nodes are finished, every neighbour of a node stands before the node,
unless it leads back to it. -/
theorem Settled.mem_left {reads : Nat → List Nat} {earlier later : List Nat} {node target : Nat}
    (h : Settled reads (earlier ++ node :: later).reverse) (htarget : target ∈ reads node) :
    target ∈ earlier ∨ Reaches reads target node := by
  have hsuffix : ∀ block rest : List Nat, Settled reads (block ++ rest) → Settled reads rest := by
    intro block rest hblock
    induction block with
    | nil => exact hblock
    | cons first block ih => exact ih hblock.2
  have hnode : Settled reads (node :: earlier.reverse) := by
    apply hsuffix later.reverse
    simpa using h
  exact (hnode.1 target htarget).imp_left List.mem_reverse.mp

namespace Search

variable {size : Nat} {search : Search size} {number other bound : Nat} {frames : List Frame}
  {reads : Nat → List Nat}

section Steps

instance (search : Search size) : DecidablePred search.Visited :=
  fun _ => inferInstanceAs (Decidable (_ ≠ _))

/-- The steps that a walk is to take for the nodes it has not entered. -/
def unvisitedSteps (reads : Nat → List Nat) (search : Search size) : Nat :=
  stepsFor reads ((List.range size).filter fun number => ¬ search.Visited number)

/-- The steps that a walk is to take for the nodes on the way. -/
def pathSteps : List Frame → Nat
  | [] => 0
  | frame :: frames => frame.rest.length + 1 + pathSteps frames

/-- The steps that a walk is still to take. -/
def remaining (reads : Nat → List Nat) (frames : List Frame) (search : Search size) : Nat :=
  unvisitedSteps reads search + pathSteps frames

/-- A node takes one step for each neighbour and one more. -/
theorem steps_for_cons (numbers : List Nat) :
    stepsFor reads (number :: numbers) = (reads number).length + 1 + stepsFor reads numbers := rfl

/-- The order of some nodes does not matter to the steps they take. -/
theorem steps_for_perm {left right : List Nat} (h : left.Perm right) :
    stepsFor reads left = stepsFor reads right := by
  induction h with
  | nil => rfl
  | cons first _ ih => rw [steps_for_cons, steps_for_cons, ih]
  | swap first second rest =>
      simp only [steps_for_cons]
      omega
  | trans _ _ ihLeft ihRight => exact ihLeft.trans ihRight

/-- Fewer nodes take no more steps. -/
theorem steps_for_filter_le (numbers : List Nat) (keep : Nat → Bool) :
    stepsFor reads (numbers.filter keep) ≤ stepsFor reads numbers := by
  induction numbers with
  | nil => exact le_rfl
  | cons first rest ih =>
      rw [List.filter_cons]
      split <;> simp only [steps_for_cons] <;> omega

/-- The steps for nodes not entered depend only on which nodes these are. -/
theorem unvisited_steps_congr {after : Search size}
    (h : ∀ number, after.Visited number ↔ search.Visited number) :
    unvisitedSteps reads after = unvisitedSteps reads search := by
  simp only [unvisitedSteps, h]

/-- The steps for a node that is entered are from then on to be taken for a node on the way. -/
theorem unvisited_steps_enter (hlt : number < size) (hnew : ¬ search.Visited number) :
    unvisitedSteps reads (search.enter number) + ((reads number).length + 1) =
      unvisitedSteps reads search := by
  have hperm : ((List.range size).filter fun other => ¬ search.Visited other).Perm
      (number :: (List.range size).filter fun other => ¬ (search.enter number).Visited other) := by
    refine (List.perm_ext_iff_of_nodup (List.nodup_range.filter _)
      (List.nodup_cons.mpr ⟨?_, List.nodup_range.filter _⟩)).mpr fun other => ?_
    · simp [visited_enter_iff hlt]
    · by_cases heq : other = number
      · simp [heq, hlt, hnew]
      · simp [heq, visited_enter_iff hlt]
  rw [unvisitedSteps, unvisitedSteps, steps_for_perm hperm, steps_for_cons]
  exact Nat.add_comm _ _

/-- A neighbour that has been entered is passed, and lowers the lowlink if it is on the stack. -/
theorem step_of_visited {next : Nat} {rest : List Nat} (h : search.Visited next) :
    step reads (⟨number, next :: rest⟩ :: frames) search =
      (⟨number, rest⟩ :: frames,
        if (search.node next).onStack then search.lower number (search.node next).discovery
        else search) := by
  cases hstate : (search.node next).state with
  | unvisited => exact absurd hstate h
  | inProgress =>
      simp only [step, hstate]
      split <;> rfl
  | done =>
      simp only [step, hstate]
      split <;> rfl

/-- A neighbour that has not been entered is entered, and becomes the last node on the way. -/
theorem step_of_not_visited {next : Nat} {rest : List Nat} (h : ¬ search.Visited next) :
    step reads (⟨number, next :: rest⟩ :: frames) search =
      (⟨next, reads next⟩ :: ⟨number, rest⟩ :: frames, search.enter next) := by
  have hstate : (search.node next).state = .unvisited := not_not.mp h
  simp [step, hstate]

/-- What one step does: the walk stays sound, has one step less to take and forgets no node. -/
structure Advances (reads : Nat → List Nat) (frames : List Frame) (search : Search size)
    (after : List Frame × Search size) : Prop where
  sound : Sound reads after.1 after.2
  nearer : remaining reads after.1 after.2 + 1 = remaining reads frames search
  visited : ∀ number, search.Visited number → after.2.Visited number

/-- Looking at a neighbour that has not been entered yet is entering it. -/
theorem Sound.step_into {next : Nat} {rest : List Nat}
    (h : Sound reads (⟨number, next :: rest⟩ :: frames) search) (hlt : next < size)
    (hnew : ¬ search.Visited next) :
    Advances reads (⟨number, next :: rest⟩ :: frames) search
      (⟨next, reads next⟩ :: ⟨number, rest⟩ :: frames, search.enter next) := by
  have hnumber : number ∈ search.stack := h.stacked.path_mem number List.mem_cons_self
  have hnext : next ∈ reads number := h.linked.rest_mem _ List.mem_cons_self next List.mem_cons_self
  have hreached : ∀ ancestor ∈ path (⟨number, next :: rest⟩ :: frames),
      Reaches reads ancestor next :=
    fun ancestor hancestor => (h.leads_last ancestor hancestor).tail hnext
  refine ⟨?_, ?_, fun other hother => (visited_enter_iff hlt).mpr (Or.inr hother)⟩
  · have hentered : Sound reads ([⟨next, reads next⟩] ++ ⟨number, next :: rest⟩ :: frames)
        (search.enter next) := h.enter hlt hnew hreached
    refine hentered.advance ((visited_enter_iff hlt).mpr (Or.inl rfl)) fun _ => ?_
    have hne : number ≠ next := fun heq => hnew (heq ▸ h.stacked.visited number hnumber)
    rw [node_enter_of_ne hlt hne, discovery_enter hlt]
    exact (h.linked.lowlink_le number List.mem_cons_self).trans
      (h.stacked.counted number hnumber).le
  · have hsteps : unvisitedSteps reads (search.enter next) + ((reads next).length + 1) =
        unvisitedSteps reads search := unvisited_steps_enter hlt hnew
    simp only [remaining, pathSteps, List.length_cons]
    omega

/-- Looking at a neighbour that has been entered may lower the lowlink. -/
theorem Sound.step_over {next : Nat} {rest : List Nat}
    (h : Sound reads (⟨number, next :: rest⟩ :: frames) search) (hvisited : search.Visited next) :
    Advances reads (⟨number, next :: rest⟩ :: frames) search
      (⟨number, rest⟩ :: frames,
        if (search.node next).onStack then search.lower number (search.node next).discovery
        else search) := by
  have hnumber : number ∈ path (⟨number, next :: rest⟩ :: frames) := List.mem_cons_self
  have hlt : number < size := (h.stacked.visited_of_path hnumber).lt
  have hnext : next ∈ reads number := h.linked.rest_mem _ List.mem_cons_self next List.mem_cons_self
  split
  · have hstacked : next ∈ search.stack := (h.stacked.on_stack_iff next).mp ‹_›
    refine ⟨?_, ?_, fun other hother => (visited_lower_iff hlt).mpr hother⟩
    · have hlowered : Sound reads ([] ++ ⟨number, next :: rest⟩ :: frames)
          (search.lower number (search.node next).discovery) :=
        h.lower hnumber hstacked (Relation.ReflTransGen.single hnext)
      refine hlowered.advance ((visited_lower_iff hlt).mpr hvisited) fun _ => ?_
      simp [node_lower hlt]
    · rw [remaining, unvisited_steps_congr fun other => visited_lower_iff hlt]
      simp only [remaining, pathSteps, List.length_cons]
      omega
  · refine ⟨?_, ?_, fun other hother => hother⟩
    · have hsame : Sound reads ([] ++ ⟨number, next :: rest⟩ :: frames) search := h
      refine hsame.advance hvisited fun hstacked => ?_
      exact absurd ((h.stacked.on_stack_iff next).mpr hstacked) ‹_›
    · simp only [remaining, pathSteps, List.length_cons]
      omega

/-- Handing a lowlink on to the node before leaves alone which nodes have been entered. -/
theorem visited_hand_on_iff (hparents : ∀ parent ∈ frames, parent.node < size) :
    (search.handOn number frames).Visited other ↔ search.Visited other := by
  cases frames with
  | nil => rfl
  | cons parent frames => exact visited_lower_iff (hparents parent List.mem_cons_self)

/-- With no neighbour left to look at, a node is finished. -/
theorem Sound.step_out (h : Sound reads (⟨number, []⟩ :: frames) search) :
    Advances reads (⟨number, []⟩ :: frames) search
      (Search.step reads (⟨number, []⟩ :: frames) search) := by
  have hentered : search.Visited number := h.stacked.visited_of_path List.mem_cons_self
  have hparents : ∀ parent ∈ frames, parent.node < size := by
    intro parent hparent
    have hpassed : parent.node ∈ path frames := List.mem_map_of_mem hparent
    exact (h.stacked.tail.visited_of_path hpassed).lt
  obtain ⟨hfinished, hhanded⟩ := h.finish.hand_on
  have hvisited : ∀ other, ((search.finish number).handOn number frames).Visited other ↔
      search.Visited other :=
    fun other => (visited_hand_on_iff hparents).trans (visited_finish_iff hentered)
  have hsteps : ∀ after : Search size, (∀ other, after.Visited other ↔ search.Visited other) →
      remaining reads frames after + 1 = remaining reads (⟨number, []⟩ :: frames) search := by
    intro after hafter
    rw [remaining, unvisited_steps_congr hafter]
    simp only [remaining, pathSteps, List.length_nil]
    omega
  simp only [Search.step]
  split
  · have hclosed : ∀ other, (((search.finish number).handOn number frames).closeGroup reads
        number).Visited other ↔ search.Visited other :=
      fun other => (hfinished.visited_close_group_iff other).trans (hvisited other)
    exact ⟨hfinished.close ‹_›, hsteps _ hclosed, fun other => (hclosed other).mpr⟩
  · exact ⟨hfinished.leave hhanded ‹_›, hsteps _ hvisited, fun other => (hvisited other).mpr⟩

/-- Every step of a sound walk brings it nearer to its end. -/
theorem Sound.step (hreads : ∀ number < size, ∀ target ∈ reads number, target < size)
    {frame : Frame} (h : Sound reads (frame :: frames) search) :
    Advances reads (frame :: frames) search (Search.step reads (frame :: frames) search) := by
  obtain ⟨number, rest⟩ := frame
  cases rest with
  | nil => exact h.step_out
  | cons next rest =>
      have hlt : number < size := (h.stacked.visited_of_path List.mem_cons_self).lt
      have hnext : next ∈ reads number :=
        h.linked.rest_mem _ List.mem_cons_self next List.mem_cons_self
      by_cases hentered : search.Visited next
      · rw [step_of_visited hentered]
        exact h.step_over hentered
      · rw [step_of_not_visited hentered]
        exact h.step_into (hreads number hlt next hnext) hentered

end Steps

section Runs

variable (hreads : ∀ number < size, ∀ target ∈ reads number, target < size)

include hreads

/-- With fuel for the steps that are left, a sound walk comes to an end. -/
theorem Sound.walk (fuel : Nat) (h : Sound reads frames search)
    (hfuel : remaining reads frames search ≤ fuel) :
    Sound reads [] (Search.walk reads fuel frames search) ∧
      ∀ number, search.Visited number → (Search.walk reads fuel frames search).Visited number := by
  induction fuel generalizing frames search with
  | zero =>
      -- every node on the way takes a step, so there is none
      cases frames with
      | nil => exact ⟨h, fun _ hnumber => hnumber⟩
      | cons frame frames =>
          simp only [remaining, pathSteps] at hfuel
          omega
  | succ fuel ih =>
      cases frames with
      | nil => exact ⟨h, fun _ hnumber => hnumber⟩
      | cons frame frames =>
          obtain ⟨hsound, hnearer, hvisited⟩ := h.step hreads
          obtain ⟨hend, hkept⟩ := ih hsound (by omega)
          exact ⟨hend, fun number hnumber => hkept number (hvisited number hnumber)⟩

/-- Visiting a root of a graph enters it. -/
theorem Sound.visit_root {root : Nat} (fuel : Nat) (h : Sound reads [] search) (hlt : root < size)
    (hfuel : unvisitedSteps reads search ≤ fuel) :
    Sound reads [] (visitRoot reads fuel search root) ∧
      (visitRoot reads fuel search root).Visited root ∧
      ∀ number, search.Visited number → (visitRoot reads fuel search root).Visited number := by
  unfold visitRoot
  split
  · have hnew : ¬ search.Visited root := not_not.mpr ‹_›
    have hsteps : unvisitedSteps reads (search.enter root) + ((reads root).length + 1) =
        unvisitedSteps reads search := unvisited_steps_enter hlt hnew
    have hentered : Sound reads [⟨root, reads root⟩] (search.enter root) :=
      h.enter hlt hnew (by simp [path])
    obtain ⟨hend, hkept⟩ := hentered.walk hreads fuel (by
      simp only [remaining, pathSteps]
      omega)
    refine ⟨hend, hkept root ((visited_enter_iff hlt).mpr (Or.inl rfl)), fun number hnumber => ?_⟩
    exact hkept number ((visited_enter_iff hlt).mpr (Or.inr hnumber))
  · exact ⟨h, ‹_›, fun _ hnumber => hnumber⟩

/-- Visiting all nodes one after the other enters them all. -/
theorem sound_run :
    Sound reads [] (run reads size) ∧ ∀ number < size, (run reads size).Visited number := by
  -- by induction on how many roots have been visited
  have hroots : ∀ count ≤ size,
      let visited := (List.range count).foldl (visitRoot reads (stepsFor reads (List.range size)))
        (start size)
      Sound reads [] visited ∧ ∀ number < count, visited.Visited number := by
    intro count
    induction count with
    | zero => exact fun _ => ⟨sound_start, by simp⟩
    | succ count ih =>
        intro hcount
        obtain ⟨hsound, hvisited⟩ := ih (Nat.le_of_succ_le hcount)
        obtain ⟨hend, hroot, hkept⟩ := hsound.visit_root hreads _ (Nat.lt_of_succ_le hcount)
          (steps_for_filter_le _ _)
        rw [List.range_succ, List.foldl_append]
        refine ⟨hend, fun number hnumber => ?_⟩
        rcases Nat.lt_succ_iff_lt_or_eq.mp hnumber with hless | rfl
        · exact hkept number (hvisited number hless)
        · exact hroot
  exact hroots size le_rfl

/-- A walk through a whole graph finds exactly the nodes that lead back to themselves. -/
theorem is_circular_run_iff (hnumber : number < size) :
    (run reads size).isCircular number = true ↔ LeadsBack reads number := by
  obtain ⟨hsound, hvisited⟩ := sound_run hreads
  have hempty : number ∉ (run reads size).stack := by
    intro hstacked
    obtain ⟨ancestor, hancestor, -⟩ := hsound.linked.returns number hstacked
    cases hancestor
  rw [isCircular, hsound.grouped.circular_iff]
  simp [hvisited number hnumber, hempty]

/-- Neither a node that leads to a cycle nor one to which a cycle leads is on it. -/
example :
    let reads : Nat → List Nat := fun number => [[1], [2], [1, 3], []].getD number []
    (List.range 4).filter (run reads 4).isCircular = [1, 2] := by
  decide +kernel

/-- A walk through a whole graph finishes every node once. -/
theorem postorder_run_perm : (run reads size).postorder.Perm (List.range size) := by
  obtain ⟨hsound, hvisited⟩ := sound_run hreads
  rw [postorder]
  refine (List.perm_ext_iff_of_nodup (List.nodup_reverse.mpr hsound.ordered.nodup)
    List.nodup_range).mpr fun number => ?_
  rw [List.mem_reverse, hsound.ordered.mem_finished_iff, List.mem_range]
  exact ⟨fun h => h.1.lt, fun h => ⟨hvisited number h, List.not_mem_nil⟩⟩

/-- A walk through a whole graph finishes neighbours first, unless they lead back. -/
theorem postorder_run_settled : Settled reads (run reads size).postorder.reverse := by
  rw [postorder, List.reverse_reverse]
  exact (sound_run hreads).1.ordered.settled

end Runs

end Search

end Spreadsheet.Dependency
