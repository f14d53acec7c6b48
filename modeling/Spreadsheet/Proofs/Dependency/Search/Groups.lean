import Spreadsheet.Proofs.Dependency.Search.Steps

/-!
# Taking a group from the stack

When a node is finished and its lowlink is its own number, the nodes from it upwards on the stack
are its group: they lead to each other and, beyond themselves, only to groups that are complete
(`Finished.group_connected`, `Finished.group_reaches`). So one of them leads back to itself exactly
if the group has several members or its only one is a neighbour of itself
(`Finished.leads_back_iff`), and taking them from the stack preserves the invariant of the walk
(`Finished.close`).
-/

namespace Spreadsheet.Dependency

namespace Search

variable {size : Nat} {search : Search size} {number other bound : Nat} {frames : List Frame}
  {reads : Nat → List Nat}

section Close

variable {root : Nat}

/-- What lies on the stack from a node upwards. -/
def InGroup (search : Search size) (root number : Nat) : Prop :=
  number ∈ search.stack ∧ (search.node root).discovery ≤ (search.node number).discovery

/-- Taking a group from the stack divides it at the first node of the group. -/
theorem exists_unstack_eq {stack : List Nat} (hroot : root ∈ stack) :
    ∃ above below, root ∉ above ∧ stack = above ++ root :: below ∧
      unstack root stack = (above ++ [root], below) := by
  induction stack with
  | nil => cases hroot
  | cons member stack ih =>
      by_cases hmember : member = root
      · subst hmember
        exact ⟨[], stack, List.not_mem_nil, rfl, by simp [unstack]⟩
      · have hrest : root ∈ stack := (List.mem_cons.mp hroot).resolve_left (Ne.symm hmember)
        obtain ⟨above, below, hnot, rfl, hunstack⟩ := ih hrest
        refine ⟨member :: above, below, ?_, rfl, by simp [unstack, hmember, hunstack]⟩
        simp [hnot, Ne.symm hmember]

/-- The nodes above the first node of a group were entered after it, those below before it. -/
theorem Stacked.exists_unstack_eq (h : Stacked frames search) (hroot : root ∈ search.stack) :
    ∃ above below, search.stack = above ++ root :: below ∧
      unstack root search.stack = (above ++ [root], below) ∧ root ∉ above ∧
      (∀ number ∈ above, (search.node root).discovery < (search.node number).discovery) ∧
      ∀ number ∈ below, (search.node number).discovery < (search.node root).discovery := by
  obtain ⟨above, below, hnot, hstack, hunstack⟩ := Search.exists_unstack_eq hroot
  have hfalling := h.falling
  rw [hstack, List.pairwise_append, List.pairwise_cons] at hfalling
  obtain ⟨-, ⟨hbelow, -⟩, habove⟩ := hfalling
  exact ⟨above, below, hstack, hunstack, hnot,
    fun number hnumber => habove number hnumber root List.mem_cons_self, hbelow⟩

/-- What is taken from the stack is the group. -/
theorem Stacked.mem_unstack_iff (h : Stacked frames search) (hroot : root ∈ search.stack) :
    number ∈ (unstack root search.stack).1 ↔ search.InGroup root number := by
  obtain ⟨above, below, hstack, hunstack, -, habove, hbelow⟩ := h.exists_unstack_eq hroot
  rw [hunstack, InGroup, hstack]
  simp only [List.mem_append, List.mem_cons, List.not_mem_nil, or_false]
  constructor
  · rintro (hnumber | rfl)
    · exact ⟨Or.inl hnumber, (habove number hnumber).le⟩
    · exact ⟨Or.inr (Or.inl rfl), le_rfl⟩
  · rintro ⟨hnumber | rfl | hnumber, hle⟩
    · exact Or.inl hnumber
    · exact Or.inr rfl
    · exact absurd hle (Nat.not_le.mpr (hbelow number hnumber))

/-- What is left on the stack was entered before the group. -/
theorem Stacked.mem_below_iff (h : Stacked frames search) (hroot : root ∈ search.stack) :
    number ∈ (unstack root search.stack).2 ↔
      number ∈ search.stack ∧ (search.node number).discovery < (search.node root).discovery := by
  obtain ⟨above, below, hstack, hunstack, -, habove, hbelow⟩ := h.exists_unstack_eq hroot
  rw [hunstack, hstack]
  simp only [List.mem_append, List.mem_cons]
  constructor
  · exact fun hnumber => ⟨Or.inr (Or.inr hnumber), hbelow number hnumber⟩
  · rintro ⟨hnumber | rfl | hnumber, hless⟩
    · exact absurd (habove number hnumber) (Nat.lt_asymm hless)
    · exact absurd hless (Nat.lt_irrefl _)
    · exact hnumber

/-- What is left on the stack below a group lies as it did. -/
theorem Stacked.below_sublist (h : Stacked frames search) (hroot : root ∈ search.stack) :
    (unstack root search.stack).2.Sublist search.stack := by
  obtain ⟨above, below, hstack, hunstack, -⟩ := h.exists_unstack_eq hroot
  rw [hunstack, hstack]
  exact (List.sublist_cons_self root below).trans (List.sublist_append_right above _)

/-- A group has several members exactly if one of them is not the first. -/
theorem Stacked.one_lt_length_iff (h : Stacked frames search) (hroot : root ∈ search.stack) :
    1 < (unstack root search.stack).1.length ↔
      ∃ number, search.InGroup root number ∧ number ≠ root := by
  simp only [← h.mem_unstack_iff hroot]
  obtain ⟨above, below, -, hunstack, hnot, -⟩ := h.exists_unstack_eq hroot
  rw [hunstack]
  cases above with
  | nil => simp
  | cons first above =>
      simp only [List.length_append, List.length_cons, List.length_nil]
      refine ⟨fun _ => ⟨first, by simp, ?_⟩, fun _ => by omega⟩
      exact fun heq => hnot (by simp [heq])

/-- Closing a group leaves on the stack what lies below it. -/
@[simp] theorem stack_close_group :
    (search.closeGroup reads root).stack = (unstack root search.stack).2 :=
  (modify_all_fields _ _).1

/-- Closing a group enters no node. -/
@[simp] theorem counter_close_group : (search.closeGroup reads root).counter = search.counter :=
  (modify_all_fields _ _).2.1

/-- Closing a group finishes no node. -/
@[simp] theorem finished_close_group : (search.closeGroup reads root).finished = search.finished :=
  (modify_all_fields _ _).2.2

/-- The members of a group that is taken from the stack are off the stack, and marked if they are on
a cycle. -/
theorem node_close_group (hlt : ∀ number ∈ (unstack root search.stack).1, number < size) :
    (search.closeGroup reads root).node other =
      if other ∈ (unstack root search.stack).1 then
        { search.node other with
          onStack := false
          circular := (search.node other).circular ||
            isCyclic reads root (unstack root search.stack).1 }
      else search.node other := by
  rw [closeGroup, node_modify_all hlt fun found => by simp]
  rfl

namespace Finished

variable (h : Finished reads root frames search)

include h

/-- The node whose group is complete is on the stack. -/
theorem root_mem : root ∈ search.stack := h.stacked.path_mem root List.mem_cons_self

/-- Of the nodes on the way only the last one belongs to its group. -/
theorem eq_root {ancestor : Nat} (hancestor : ancestor ∈ path (⟨root, []⟩ :: frames))
    (hle : (search.node root).discovery ≤ (search.node ancestor).discovery) : ancestor = root := by
  rcases List.mem_cons.mp hancestor with heq | hbelow
  · exact heq
  · exact absurd hle (Nat.not_le.mpr (h.stacked.discovery_lt hbelow))

/-- All members of a group are nodes of the graph. -/
theorem lt_of_mem_unstack {number : Nat} (hnumber : number ∈ (unstack root search.stack).1) :
    number < size :=
  (h.stacked.visited number ((h.stacked.mem_unstack_iff h.root_mem).mp hnumber).1).lt

/-- Closing a group leaves alone when a node was entered. -/
theorem discovery_close_group (number : Nat) :
    ((search.closeGroup reads root).node number).discovery = (search.node number).discovery := by
  rw [node_close_group fun _ => h.lt_of_mem_unstack]
  split <;> rfl

/-- Closing a group leaves the lowlinks alone. -/
theorem lowlink_close_group (number : Nat) :
    ((search.closeGroup reads root).node number).lowlink = (search.node number).lowlink := by
  rw [node_close_group fun _ => h.lt_of_mem_unstack]
  split <;> rfl

/-- Closing a group leaves alone which nodes have been entered. -/
theorem visited_close_group_iff (number : Nat) :
    (search.closeGroup reads root).Visited number ↔ search.Visited number := by
  unfold Visited
  rw [node_close_group fun _ => h.lt_of_mem_unstack]
  split <;> rfl

/-- What stays on the stack was entered before the first node of the group. -/
theorem mem_stack_close_group_iff (number : Nat) :
    number ∈ (search.closeGroup reads root).stack ↔
      number ∈ search.stack ∧ (search.node number).discovery < (search.node root).discovery := by
  rw [stack_close_group]
  exact h.stacked.mem_below_iff h.root_mem

/-- Closing a group leaves a stack that lies as it should. -/
theorem stacked_close_group : Stacked frames (search.closeGroup reads root) := by
  refine ⟨fun number => ?_, fun number hnumber => ?_, fun number hnumber => ?_, ?_,
    fun number hnumber => ?_, ?_⟩
  · rw [node_close_group fun _ => h.lt_of_mem_unstack, h.mem_stack_close_group_iff]
    by_cases hgroup : search.InGroup root number
    · simp [h.stacked.mem_unstack_iff h.root_mem, hgroup, hgroup.2]
    · have hlower : number ∈ search.stack →
          (search.node number).discovery < (search.node root).discovery :=
        fun hmem => Nat.not_le.mp fun hle => hgroup ⟨hmem, hle⟩
      simpa [h.stacked.mem_unstack_iff h.root_mem, hgroup, h.stacked.on_stack_iff] using hlower
  · rw [h.visited_close_group_iff]
    exact h.stacked.visited number ((h.mem_stack_close_group_iff number).mp hnumber).1
  · rw [h.discovery_close_group, counter_close_group]
    exact h.stacked.counted number ((h.mem_stack_close_group_iff number).mp hnumber).1
  · simp only [h.discovery_close_group, stack_close_group]
    exact h.stacked.falling.sublist (h.stacked.below_sublist h.root_mem)
  · exact (h.mem_stack_close_group_iff number).mpr
      ⟨h.stacked.tail.path_mem number hnumber, h.stacked.discovery_lt hnumber⟩
  · simpa only [h.discovery_close_group] using h.stacked.tail.path_falling

/-- Closing a group leaves on the stack nodes that lead to what they should. -/
theorem linked_close_group : Linked reads frames (search.closeGroup reads root) := by
  have hpassed : ∀ ancestor ∈ path frames, ancestor ∈ path (⟨root, []⟩ :: frames) :=
    fun ancestor hancestor => List.mem_cons_of_mem _ hancestor
  have hearlier : ∀ ancestor ∈ path (⟨root, []⟩ :: frames),
      (search.node ancestor).discovery < (search.node root).discovery → ancestor ∈ path frames := by
    intro ancestor hancestor hless
    refine (List.mem_cons.mp hancestor).resolve_left fun heq => ?_
    exact Nat.lt_irrefl _ (heq ▸ hless)
  refine ⟨?_, ?_, ?_, ?_, ?_, ?_, ?_⟩
  · exact fun frame hframe => h.linked.rest_mem frame (List.mem_cons_of_mem _ hframe)
  · intro number hnumber target htarget
    rw [h.visited_close_group_iff] at hnumber ⊢
    exact (h.linked.followed number hnumber target htarget).imp_left pending_cons_nil_iff.mp
  · intro ancestor hancestor number hnumber hle
    simp only [h.discovery_close_group] at hle
    exact h.linked.leads ancestor (hpassed ancestor hancestor) number
      ((h.mem_stack_close_group_iff number).mp hnumber).1 hle
  · intro number hnumber
    obtain ⟨hmem, hless⟩ := (h.mem_stack_close_group_iff number).mp hnumber
    obtain ⟨ancestor, hancestor, hle, hreach⟩ := h.linked.returns number hmem
    simp only [h.discovery_close_group]
    exact ⟨ancestor, hearlier ancestor hancestor (hle.trans_lt hless), hle, hreach⟩
  · intro ancestor hancestor
    rw [h.lowlink_close_group, h.discovery_close_group]
    exact h.linked.lowlink_le ancestor (hpassed ancestor hancestor)
  · intro ancestor hancestor
    obtain ⟨number, hnumber, hdiscovery, hreach⟩ :=
      h.linked.lowlink_reached ancestor (hpassed ancestor hancestor)
    have hless : (search.node number).discovery < (search.node root).discovery := by
      rw [hdiscovery]
      exact (h.linked.lowlink_le ancestor (hpassed ancestor hancestor)).trans_lt
        (h.stacked.discovery_lt hancestor)
    simp only [h.lowlink_close_group, h.discovery_close_group]
    exact ⟨number, (h.mem_stack_close_group_iff number).mpr ⟨hnumber, hless⟩, hdiscovery, hreach⟩
  · intro number hnumber target htarget hstacked
    obtain ⟨hmem, hless⟩ := (h.mem_stack_close_group_iff number).mp hnumber
    obtain ⟨htargetMem, -⟩ := (h.mem_stack_close_group_iff target).mp hstacked
    refine (h.linked.bounded number hmem target htarget htargetMem).imp pending_cons_nil_iff.mp
      fun hbound => ?_
    intro lowest hlowest hle
    simp only [h.discovery_close_group, h.lowlink_close_group] at hle ⊢
    obtain ⟨ancestor, hancestor, hlowestLe, hnumberLe, htargetLe⟩ :=
      hbound lowest (hpassed lowest hlowest) hle
    exact ⟨ancestor, hearlier ancestor hancestor (hnumberLe.trans_lt hless), hlowestLe, hnumberLe,
      htargetLe⟩

variable (hclosed : (search.node root).lowlink = (search.node root).discovery)

include hclosed

/-- A step from a member of the group leads to a member or to a complete group. -/
theorem group_step {number target : Nat} (hnumber : search.InGroup root number)
    (htarget : target ∈ reads number) :
    search.InGroup root target ∨ (search.Visited target ∧ target ∉ search.stack) := by
  have hvisited : search.Visited number := h.stacked.visited number hnumber.1
  have hlooked : ¬ Pending (⟨root, []⟩ :: frames) number target := by
    rw [pending_cons_nil_iff]
    refine not_pending_of_not_mem fun hpassed => ?_
    exact absurd hnumber.2 (Nat.not_le.mpr (h.stacked.discovery_lt hpassed))
  have htargetVisited := (h.linked.followed number hvisited target htarget).resolve_left hlooked
  by_cases hstacked : target ∈ search.stack
  · obtain ⟨ancestor, hancestor, hrootLe, -, htargetLe⟩ :=
      (h.linked.bounded number hnumber.1 target htarget hstacked).resolve_left hlooked root
        List.mem_cons_self hnumber.2
    obtain rfl := h.eq_root hancestor hrootLe
    exact Or.inl ⟨hstacked, hclosed ▸ htargetLe⟩
  · exact Or.inr ⟨htargetVisited, hstacked⟩

/-- So does any way from a member of the group. -/
theorem group_reaches {number target : Nat} (hnumber : search.InGroup root number)
    (hreach : Reaches reads number target) :
    search.InGroup root target ∨ (search.Visited target ∧ target ∉ search.stack) := by
  have hnext : ∀ node ∈ {node | search.InGroup root node ∨
      (search.Visited node ∧ node ∉ search.stack)}, ∀ target ∈ reads node,
      target ∈ {node | search.InGroup root node ∨ (search.Visited node ∧ node ∉ search.stack)} := by
    rintro node (hgroup | ⟨hvisited, hcomplete⟩) target htarget
    · exact h.group_step hclosed hgroup htarget
    · exact Or.inr (h.grouped.closed node hvisited hcomplete target htarget)
  exact Reaches.mem hnext hreach (Or.inl hnumber)

/-- The members of the group and its first node lead to each other. -/
theorem group_connected {number : Nat} (hnumber : search.InGroup root number) :
    Reaches reads root number ∧ Reaches reads number root := by
  refine ⟨h.linked.leads root List.mem_cons_self number hnumber.1 hnumber.2, ?_⟩
  obtain ⟨ancestor, hancestor, -, hreach⟩ := h.linked.returns number hnumber.1
  rcases h.group_reaches hclosed hnumber hreach with hgroup | ⟨-, hcomplete⟩
  · obtain rfl := h.eq_root hancestor hgroup.2
    exact hreach
  · exact absurd (h.stacked.path_mem ancestor hancestor) hcomplete

/-- A member of the group leads back to itself exactly if the group is found to be on a cycle. -/
theorem leads_back_iff {number : Nat} (hnumber : search.InGroup root number) :
    LeadsBack reads number ↔ isCyclic reads root (unstack root search.stack).1 = true := by
  obtain ⟨hdown, hup⟩ := h.group_connected hclosed hnumber
  simp only [isCyclic, gt_iff_lt, Bool.or_eq_true, decide_eq_true_eq, List.contains_iff_mem,
    h.stacked.one_lt_length_iff h.root_mem]
  constructor
  · intro hback
    by_cases hmore : ∃ other, search.InGroup root other ∧ other ≠ root
    · exact Or.inl hmore
    · -- a group of one node leads back only by a step to that node itself
      refine Or.inr ?_
      have hsingle : ∀ other, search.InGroup root other → other = root := by
        intro other hother
        by_contra hne
        exact hmore ⟨other, hother, hne⟩
      obtain rfl := hsingle number hnumber
      obtain ⟨target, htarget, hreturn⟩ := Relation.TransGen.head'_iff.mp hback
      rcases h.group_step hclosed hnumber htarget with hgroup | ⟨hvisited, hcomplete⟩
      · rwa [hsingle target hgroup] at htarget
      · exact absurd hnumber.1 (h.grouped.closed_of_reaches hvisited hcomplete hreturn).2
  · rintro (⟨other, hother, hne⟩ | hself)
    · -- by way of another member
      obtain ⟨hotherDown, hotherUp⟩ := h.group_connected hclosed hother
      obtain ⟨between, hstep, hrest⟩ :=
        (Relation.ReflTransGen.cases_head hotherDown).resolve_left (Ne.symm hne)
      exact Relation.TransGen.trans_right hup
        ((Relation.TransGen.head' hstep hrest).trans_left (hotherUp.trans hdown))
    · exact Relation.TransGen.trans_right hup (Relation.TransGen.head' hself hdown)

/-- Closing a group makes its members known as complete, and marks exactly those on a cycle. -/
theorem grouped_close_group : Grouped reads (search.closeGroup reads root) := by
  refine ⟨fun number hnumber hcomplete target htarget => ?_, fun number => ?_⟩
  · rw [h.visited_close_group_iff] at hnumber
    rw [h.mem_stack_close_group_iff, not_and, Nat.not_lt] at hcomplete
    rw [h.visited_close_group_iff, h.mem_stack_close_group_iff, not_and, Nat.not_lt]
    by_cases hstacked : number ∈ search.stack
    · rcases h.group_step hclosed ⟨hstacked, hcomplete hstacked⟩ htarget with
        hgroup | ⟨hvisited, hout⟩
      · exact ⟨h.stacked.visited target hgroup.1, fun _ => hgroup.2⟩
      · exact ⟨hvisited, fun hmem => absurd hmem hout⟩
    · obtain ⟨hvisited, hout⟩ := h.grouped.closed number hnumber hstacked target htarget
      exact ⟨hvisited, fun hmem => absurd hmem hout⟩
  · rw [node_close_group fun _ => h.lt_of_mem_unstack, h.visited_close_group_iff,
      h.mem_stack_close_group_iff, not_and, Nat.not_lt]
    by_cases hgroup : search.InGroup root number
    · have hunmarked : (search.node number).circular = false := by
        rw [← Bool.not_eq_true, h.grouped.circular_iff]
        exact fun hmarked => hmarked.2.1 hgroup.1
      simp [h.stacked.mem_unstack_iff h.root_mem, hgroup, hunmarked,
        h.leads_back_iff hclosed hgroup, h.stacked.visited number hgroup.1, hgroup.2]
    · -- a node outside the group is on the stack below it or was not on the stack before
      have hcomplete : (number ∈ search.stack →
          (search.node root).discovery ≤ (search.node number).discovery) ↔
          number ∉ search.stack :=
        ⟨fun hle hmem => hgroup ⟨hmem, hle hmem⟩, fun hout hmem => absurd hmem hout⟩
      simp [h.stacked.mem_unstack_iff h.root_mem, hgroup, h.grouped.circular_iff, hcomplete]

/-- A node that was the first of its group is taken from the stack with the others. -/
theorem close : Sound reads frames (search.closeGroup reads root) where
  stacked := h.stacked_close_group
  linked := h.linked_close_group
  grouped := h.grouped_close_group hclosed
  ordered := {
    mem_finished_iff := by
      simpa [h.visited_close_group_iff] using h.ordered.mem_finished_iff
    nodup := by simpa using h.ordered.nodup
    settled := by simpa using h.ordered.settled }

end Finished

end Close

end Search

end Spreadsheet.Dependency
