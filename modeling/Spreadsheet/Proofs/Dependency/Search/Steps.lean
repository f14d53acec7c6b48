import Spreadsheet.Proofs.Dependency.Search.Invariant

/-!
# Entering and finishing nodes

The steps of a walk that take no group from the stack preserve its invariant: entering a node
(`Sound.enter`), looking at a neighbour (`Sound.advance`, `Sound.lower`) and finishing a node whose
group is not complete (`Sound.finish`, `Finished.hand_on`, `Finished.leave`).
-/

namespace Spreadsheet.Dependency

namespace Search

variable {size : Nat} {search : Search size} {number other bound : Nat} {frames : List Frame}
  {reads : Nat → List Nat}

section Enter

/-- Entering a node changes nothing about the others. -/
theorem node_enter_of_ne (hlt : number < size) (hother : other ≠ number) :
    (search.enter number).node other = search.node other := by
  rw [node_enter hlt, if_neg hother]

/-- A node is numbered with the counter when it is entered. -/
theorem discovery_enter (hlt : number < size) :
    ((search.enter number).node number).discovery = search.counter := by
  rw [node_enter hlt, if_pos rfl]

/-- A node that has not been entered is not on the stack. -/
theorem Stacked.not_mem (h : Stacked frames search) (hnew : ¬ search.Visited number) :
    number ∉ search.stack :=
  fun hmem => hnew (h.visited number hmem)

/-- Entering a new node leaves a stack that lies as it should. -/
theorem Stacked.enter (h : Stacked frames search) (hlt : number < size)
    (hnew : ¬ search.Visited number) :
    Stacked (⟨number, reads number⟩ :: frames) (search.enter number) := by
  have hfresh := h.not_mem hnew
  have hsame : ∀ other ∈ search.stack, (search.enter number).node other = search.node other :=
    fun other hother => node_enter_of_ne hlt fun heq => hfresh (heq ▸ hother)
  refine ⟨fun other => ?_, fun other hother => ?_, fun other hother => ?_, ?_, ?_, ?_⟩
  · by_cases heq : other = number
    · subst heq
      simp [node_enter hlt]
    · simp [node_enter_of_ne hlt heq, h.on_stack_iff, heq]
  · exact (visited_enter_iff hlt).mpr ((List.mem_cons.mp hother).imp_right (h.visited other))
  · rcases List.mem_cons.mp hother with rfl | hother
    · rw [discovery_enter hlt]
      exact Nat.lt_succ_self _
    · rw [hsame other hother]
      exact Nat.lt_succ_of_lt (h.counted other hother)
  · refine List.pairwise_cons.mpr ⟨fun other hother => ?_, ?_⟩
    · rw [hsame other hother, discovery_enter hlt]
      exact h.counted other hother
    · refine h.falling.imp_of_mem fun {later earlier} hlater hearlier hless => ?_
      rwa [hsame later hlater, hsame earlier hearlier]
  · intro other hother
    exact List.mem_cons.mpr ((List.mem_cons.mp hother).imp_right (h.path_mem other))
  · refine List.pairwise_cons.mpr ⟨fun other hother => ?_, ?_⟩
    · rw [hsame other (h.path_mem other hother), discovery_enter hlt]
      exact h.counted other (h.path_mem other hother)
    · refine h.path_falling.imp_of_mem fun {later earlier} hlater hearlier hless => ?_
      rwa [hsame later (h.path_mem later hlater), hsame earlier (h.path_mem earlier hearlier)]

/-- Entering a node to which all ancestors lead keeps what is known about the stack. -/
theorem Linked.enter (h : Linked reads frames search) (hstack : Stacked frames search)
    (hlt : number < size) (hnew : ¬ search.Visited number)
    (hreached : ∀ ancestor ∈ path frames, Reaches reads ancestor number) :
    Linked reads (⟨number, reads number⟩ :: frames) (search.enter number) := by
  have hfresh := hstack.not_mem hnew
  have hsame : ∀ other ∈ search.stack, (search.enter number).node other = search.node other :=
    fun other hother => node_enter_of_ne hlt fun heq => hfresh (heq ▸ hother)
  have hsamePath : ∀ other ∈ path frames, (search.enter number).node other = search.node other :=
    fun other hother => hsame other (hstack.path_mem other hother)
  have hpending : ∀ {node target : Nat}, Pending frames node target →
      Pending (⟨number, reads number⟩ :: frames) node target := by
    rintro node target ⟨frame, hframe, hnode, htarget⟩
    exact ⟨frame, List.mem_cons_of_mem _ hframe, hnode, htarget⟩
  have hown : ∀ target ∈ reads number, Pending (⟨number, reads number⟩ :: frames) number target :=
    fun target htarget => ⟨_, List.mem_cons_self, rfl, htarget⟩
  refine ⟨?_, ?_, ?_, ?_, ?_, ?_, ?_⟩
  · intro frame hframe
    rcases List.mem_cons.mp hframe with rfl | hframe
    · exact fun target htarget => htarget
    · exact h.rest_mem frame hframe
  · intro node hnode target htarget
    rcases (visited_enter_iff hlt).mp hnode with rfl | hnode
    · exact Or.inl (hown target htarget)
    · exact (h.followed node hnode target htarget).imp hpending
        fun hvisited => (visited_enter_iff hlt).mpr (Or.inr hvisited)
  · intro ancestor hpassed node hmem hle
    rcases List.mem_cons.mp hpassed with rfl | hancestor
    · rcases List.mem_cons.mp hmem with rfl | hnode
      · exact Relation.ReflTransGen.refl
      · have hcounted := hstack.counted node hnode
        rw [discovery_enter hlt, hsame node hnode] at hle
        omega
    · rcases List.mem_cons.mp hmem with rfl | hnode
      · exact hreached ancestor hancestor
      · rw [hsamePath ancestor hancestor, hsame node hnode] at hle
        exact h.leads ancestor hancestor node hnode hle
  · intro node hnode
    rcases List.mem_cons.mp hnode with rfl | hnode
    · exact ⟨node, List.mem_cons_self, le_rfl, Relation.ReflTransGen.refl⟩
    · obtain ⟨ancestor, hancestor, hle, hreach⟩ := h.returns node hnode
      refine ⟨ancestor, List.mem_cons_of_mem _ hancestor, ?_, hreach⟩
      rwa [hsamePath ancestor hancestor, hsame node hnode]
  · intro ancestor hancestor
    rcases List.mem_cons.mp hancestor with rfl | hancestor
    · simp [node_enter hlt]
    · rw [hsamePath ancestor hancestor]
      exact h.lowlink_le ancestor hancestor
  · intro ancestor hancestor
    rcases List.mem_cons.mp hancestor with rfl | hancestor
    · exact ⟨_, List.mem_cons_self, by simp [node_enter hlt], Relation.ReflTransGen.refl⟩
    · obtain ⟨node, hnode, hdiscovery, hreach⟩ := h.lowlink_reached ancestor hancestor
      refine ⟨node, List.mem_cons_of_mem _ hnode, ?_, hreach⟩
      rwa [hsame node hnode, hsamePath ancestor hancestor]
  · intro node hmem target htarget htargetMem
    rcases List.mem_cons.mp hmem with rfl | hnode
    · exact Or.inl (hown target htarget)
    rcases List.mem_cons.mp htargetMem with rfl | hstacked
    · -- what is entered only now has not been looked at before
      have hfollowed := h.followed node (hstack.visited node hnode) target htarget
      exact Or.inl (hpending (hfollowed.resolve_right hnew))
    refine (h.bounded node hnode target htarget hstacked).imp hpending fun hbound => ?_
    intro lowest hpassed hle
    rw [hsame node hnode] at hle ⊢
    rw [hsame target hstacked]
    rcases List.mem_cons.mp hpassed with rfl | hlowest
    · have hcounted := hstack.counted node hnode
      rw [discovery_enter hlt] at hle
      omega
    rw [hsamePath lowest hlowest] at hle ⊢
    obtain ⟨ancestor, hancestor, hbounds⟩ := hbound lowest hlowest hle
    refine ⟨ancestor, List.mem_cons_of_mem _ hancestor, ?_⟩
    rwa [hsamePath ancestor hancestor]

/-- Entering a new node leaves alone what is known about complete groups. -/
theorem Grouped.enter (h : Grouped reads search) (hlt : number < size)
    (hnew : ¬ search.Visited number) : Grouped reads (search.enter number) := by
  refine ⟨fun other hvisited hother target htarget => ?_, fun other => ?_⟩
  · rw [stack_enter, List.mem_cons, not_or] at hother ⊢
    obtain ⟨hne, hstacked⟩ := hother
    have hbefore := ((visited_enter_iff hlt).mp hvisited).resolve_left hne
    obtain ⟨htargetVisited, htargetStacked⟩ := h.closed other hbefore hstacked target htarget
    exact ⟨(visited_enter_iff hlt).mpr (Or.inr htargetVisited),
      fun heq => hnew (heq ▸ htargetVisited), htargetStacked⟩
  · have hcircular :
        ((search.enter number).node other).circular = (search.node other).circular := by
      rw [node_enter hlt]
      split <;> rfl
    rw [hcircular, h.circular_iff, visited_enter_iff hlt, stack_enter, List.mem_cons]
    by_cases heq : other = number
    · subst heq
      simp [hnew]
    · simp [heq]

/-- Entering a new node leaves the order of the finished nodes alone. -/
theorem Ordered.enter (h : Ordered reads frames search) (hlt : number < size)
    (hnew : ¬ search.Visited number) :
    Ordered reads (⟨number, reads number⟩ :: frames) (search.enter number) := by
  refine ⟨fun other => ?_, h.nodup, h.settled⟩
  show other ∈ search.finished ↔ (search.enter number).Visited other ∧ other ∉ number :: path frames
  rw [h.mem_finished_iff, visited_enter_iff hlt, List.mem_cons]
  by_cases heq : other = number
  · subst heq
    simp [hnew]
  · simp [heq]

/-- Entering a node to which all ancestors lead keeps a walk sound. -/
theorem Sound.enter (h : Sound reads frames search) (hlt : number < size)
    (hnew : ¬ search.Visited number)
    (hreached : ∀ ancestor ∈ path frames, Reaches reads ancestor number) :
    Sound reads (⟨number, reads number⟩ :: frames) (search.enter number) where
  stacked := h.stacked.enter hlt hnew
  linked := h.linked.enter h.stacked hlt hnew hreached
  grouped := h.grouped.enter hlt hnew
  ordered := h.ordered.enter hlt hnew

end Enter

section Look

variable {above below : List Frame} {rest : List Nat} {next : Nat}

/-- Looking at a neighbour that has been entered keeps a walk sound, if the lowlink takes note of
it. -/
theorem Sound.advance (h : Sound reads (above ++ ⟨number, next :: rest⟩ :: below) search)
    (hvisited : search.Visited next)
    (hlow : next ∈ search.stack →
      (search.node number).lowlink ≤ (search.node next).discovery) :
    Sound reads (above ++ ⟨number, rest⟩ :: below) search := by
  have hpath : path (above ++ ⟨number, rest⟩ :: below) =
      path (above ++ ⟨number, next :: rest⟩ :: below) := by
    simp [path]
  have hnumber : number ∈ path (above ++ ⟨number, next :: rest⟩ :: below) := by simp [path]
  obtain ⟨hstack, hlinked, hgrouped, hordered⟩ := h
  refine ⟨?_, ⟨?_, ?_, ?_, ?_, ?_, ?_, ?_⟩, hgrouped, ?_⟩
  · exact ⟨hstack.on_stack_iff, hstack.visited, hstack.counted, hstack.falling,
      hpath ▸ hstack.path_mem, hpath ▸ hstack.path_falling⟩
  · intro frame hframe target htarget
    rcases List.mem_append.mp hframe with habove | hlast
    · exact hlinked.rest_mem frame (by simp [habove]) target htarget
    · rcases List.mem_cons.mp hlast with rfl | hbelow
      · exact hlinked.rest_mem ⟨number, next :: rest⟩ (by simp) target (by simp [htarget])
      · exact hlinked.rest_mem frame (by simp [hbelow]) target htarget
  · intro node hnode target htarget
    rcases hlinked.followed node hnode target htarget with hpending | htargetVisited
    · rcases hpending.advance with hpending | ⟨-, rfl⟩
      · exact Or.inl hpending
      · exact Or.inr hvisited
    · exact Or.inr htargetVisited
  · rw [hpath]
    exact hlinked.leads
  · rw [hpath]
    exact hlinked.returns
  · rw [hpath]
    exact hlinked.lowlink_le
  · rw [hpath]
    exact hlinked.lowlink_reached
  · intro node hnode target htarget hstacked
    rw [hpath]
    rcases hlinked.bounded node hnode target htarget hstacked with hpending | hbound
    · rcases hpending.advance with hpending | ⟨rfl, rfl⟩
      · exact Or.inl hpending
      · exact Or.inr fun lowest _ hle => ⟨node, hnumber, hle, le_rfl, hlow hstacked⟩
    · exact Or.inr hbound
  · exact ⟨hpath ▸ hordered.mem_finished_iff, hordered.nodup, hordered.settled⟩

end Look

section Lower

/-- Lowering a node on the way leaves a stack that lies as it should. -/
theorem Stacked.lower (h : Stacked frames search) (hnumber : number ∈ path frames) (bound : Nat) :
    Stacked frames (search.lower number bound) := by
  have hlt : number < size := (h.visited_of_path hnumber).lt
  refine ⟨?_, ?_, ?_, ?_, h.path_mem, ?_⟩
  · simpa [node_lower hlt] using h.on_stack_iff
  · simpa [visited_lower_iff hlt] using h.visited
  · simpa [node_lower hlt] using h.counted
  · simpa [node_lower hlt] using h.falling
  · simpa [node_lower hlt] using h.path_falling

/-- Noting that an ancestor leads to a node on the stack keeps what is known about the stack. -/
theorem Linked.lower (h : Linked reads frames search) (hlt : number < size)
    (hother : other ∈ search.stack) (hdiscovery : (search.node other).discovery = bound)
    (hreach : Reaches reads number other) :
    Linked reads frames (search.lower number bound) := by
  have hlower : ∀ ancestor, ((search.lower number bound).node ancestor).lowlink ≤
      (search.node ancestor).lowlink := by
    intro ancestor
    rw [node_lower hlt]
    dsimp only
    split
    · exact Nat.min_le_left _ _
    · exact le_rfl
  refine ⟨h.rest_mem, ?_, ?_, ?_, ?_, ?_, ?_⟩
  · simpa only [visited_lower_iff hlt] using h.followed
  · simpa [node_lower hlt] using h.leads
  · simpa [node_lower hlt] using h.returns
  · intro ancestor hancestor
    refine (hlower ancestor).trans ?_
    simpa only [node_lower hlt] using h.lowlink_le ancestor hancestor
  · intro ancestor hancestor
    obtain ⟨node, hnode, hnodeDiscovery, hreachNode⟩ := h.lowlink_reached ancestor hancestor
    simp only [node_lower hlt]
    by_cases heq : ancestor = number
    · subst heq
      rcases Nat.le_total (search.node ancestor).lowlink bound with hle | hle
      · exact ⟨node, hnode, by simp [hnodeDiscovery, hle], hreachNode⟩
      · exact ⟨other, hother, by simp [hdiscovery, hle], hreach⟩
    · exact ⟨node, hnode, by simp [heq, hnodeDiscovery], hreachNode⟩
  · intro node hnode target htarget hstacked
    refine (h.bounded node hnode target htarget hstacked).imp_right fun hbound => ?_
    intro lowest hlowest hle
    simp only [node_lower hlt] at hle
    obtain ⟨ancestor, hancestor, hlowestLe, hnodeLe, htargetLe⟩ := hbound lowest hlowest hle
    refine ⟨ancestor, hancestor, ?_, ?_, (hlower ancestor).trans ?_⟩ <;>
      simpa only [node_lower hlt]

/-- Lowering a node leaves alone what is known about complete groups. -/
theorem Grouped.lower (h : Grouped reads search) (hlt : number < size) (bound : Nat) :
    Grouped reads (search.lower number bound) := by
  refine ⟨?_, ?_⟩
  · simpa [visited_lower_iff hlt] using h.closed
  · simpa [visited_lower_iff hlt, node_lower hlt] using h.circular_iff

/-- Lowering a node leaves the order of the finished nodes alone. -/
theorem Ordered.lower (h : Ordered reads frames search) (hlt : number < size) (bound : Nat) :
    Ordered reads frames (search.lower number bound) := by
  refine ⟨?_, h.nodup, h.settled⟩
  simpa [visited_lower_iff hlt] using h.mem_finished_iff

/-- Noting that an ancestor leads to a node on the stack keeps a walk sound. -/
theorem Sound.lower (h : Sound reads frames search) (hnumber : number ∈ path frames)
    (hother : other ∈ search.stack) (hreach : Reaches reads number other) :
    Sound reads frames (search.lower number (search.node other).discovery) := by
  have hlt : number < size := (h.stacked.visited_of_path hnumber).lt
  exact ⟨h.stacked.lower hnumber _, h.linked.lower hlt hother rfl hreach, h.grouped.lower hlt _,
    h.ordered.lower hlt _⟩

end Lower

section Finish

/-- The last node on the way was entered after all others. -/
theorem Stacked.discovery_lt {frame : Frame} (h : Stacked (frame :: frames) search)
    (hother : other ∈ path frames) :
    (search.node other).discovery < (search.node frame.node).discovery :=
  (List.pairwise_cons.mp h.path_falling).1 other hother

/-- Without the last node on the way the stack still lies as it should. -/
theorem Stacked.tail {frame : Frame} (h : Stacked (frame :: frames) search) :
    Stacked frames search where
  on_stack_iff := h.on_stack_iff
  visited := h.visited
  counted := h.counted
  falling := h.falling
  path_mem number hnumber := h.path_mem number (List.mem_cons_of_mem _ hnumber)
  path_falling := (List.pairwise_cons.mp h.path_falling).2

/-- No node is on the way twice. -/
theorem Stacked.not_mem_path {frame : Frame} (h : Stacked (frame :: frames) search) :
    frame.node ∉ path frames :=
  fun hmem => Nat.lt_irrefl _ (h.discovery_lt hmem)

/-- All nodes on the way lead to the last of them. -/
theorem Sound.leads_last {frame : Frame} (h : Sound reads (frame :: frames) search) (ancestor : Nat)
    (hancestor : ancestor ∈ path (frame :: frames)) : Reaches reads ancestor frame.node := by
  refine h.linked.leads ancestor hancestor frame.node
    (h.stacked.path_mem _ List.mem_cons_self) ?_
  rcases List.mem_cons.mp hancestor with rfl | hbelow
  · exact le_rfl
  · exact (h.stacked.discovery_lt hbelow).le

/-- What holds once the last node on the way has been finished, before it is known whether its
group is complete. -/
structure Finished (reads : Nat → List Nat) (number : Nat) (frames : List Frame)
    (search : Search size) : Prop where
  stacked : Stacked (⟨number, []⟩ :: frames) search
  linked : Linked reads (⟨number, []⟩ :: frames) search
  grouped : Grouped reads search
  ordered : Ordered reads frames search

/-- Finishing a node leaves a stack that lies as it should. -/
theorem Stacked.finish (h : Stacked frames search) (hvisited : search.Visited number) :
    Stacked frames (search.finish number) := by
  refine ⟨?_, ?_, ?_, ?_, h.path_mem, ?_⟩
  · simpa [node_finish hvisited.lt] using h.on_stack_iff
  · simpa [visited_finish_iff hvisited] using h.visited
  · simpa [node_finish hvisited.lt] using h.counted
  · simpa [node_finish hvisited.lt] using h.falling
  · simpa [node_finish hvisited.lt] using h.path_falling

/-- Finishing a node leaves alone what the nodes on the stack lead to. -/
theorem Linked.finish (h : Linked reads frames search) (hvisited : search.Visited number) :
    Linked reads frames (search.finish number) := by
  refine ⟨h.rest_mem, ?_, ?_, ?_, ?_, ?_, ?_⟩
  · simpa only [visited_finish_iff hvisited] using h.followed
  · simpa only [node_finish hvisited.lt, stack_finish] using h.leads
  · simpa only [node_finish hvisited.lt, stack_finish] using h.returns
  · simpa only [node_finish hvisited.lt] using h.lowlink_le
  · simpa only [node_finish hvisited.lt, stack_finish] using h.lowlink_reached
  · simpa only [node_finish hvisited.lt, stack_finish] using h.bounded

/-- Finishing a node leaves alone what is known about complete groups. -/
theorem Grouped.finish (h : Grouped reads search) (hvisited : search.Visited number) :
    Grouped reads (search.finish number) := by
  refine ⟨?_, ?_⟩
  · simpa [visited_finish_iff hvisited] using h.closed
  · simpa [visited_finish_iff hvisited, node_finish hvisited.lt] using h.circular_iff

/-- A node that has looked at all its neighbours is finished after those that do not lead back. -/
theorem Sound.ordered_finish (h : Sound reads (⟨number, []⟩ :: frames) search) :
    Ordered reads frames (search.finish number) := by
  have hentered : search.Visited number := h.stacked.visited_of_path List.mem_cons_self
  refine ⟨fun other => ?_, ?_, ?_, h.ordered.settled⟩
  · rw [finished_finish, List.mem_cons, h.ordered.mem_finished_iff, visited_finish_iff hentered]
    by_cases heq : other = number
    · subst heq
      simpa [hentered] using h.stacked.not_mem_path
    · simp [path, heq]
  · refine List.nodup_cons.mpr ⟨fun hfinished => ?_, h.ordered.nodup⟩
    exact ((h.ordered.mem_finished_iff number).mp hfinished).2 List.mem_cons_self
  · intro target htarget
    -- nothing is left to look at, so the neighbour has been finished or is an ancestor
    have htargetEntered : search.Visited target := by
      refine (h.linked.followed number hentered target htarget).resolve_left fun hpending => ?_
      exact not_pending_of_not_mem h.stacked.not_mem_path (pending_cons_nil_iff.mp hpending)
    by_cases hpassed : target ∈ path (⟨number, []⟩ :: frames)
    · exact Or.inr (h.leads_last target hpassed)
    · exact Or.inl ((h.ordered.mem_finished_iff target).mpr ⟨htargetEntered, hpassed⟩)

/-- Finishing a node whose neighbours have all been looked at. -/
theorem Sound.finish (h : Sound reads (⟨number, []⟩ :: frames) search) :
    Finished reads number frames (search.finish number) := by
  have hentered : search.Visited number := h.stacked.visited_of_path List.mem_cons_self
  exact ⟨h.stacked.finish hentered, h.linked.finish hentered, h.grouped.finish hentered,
    h.ordered_finish⟩

/-- A finished node hands its lowlink on: what it leads to, the node before it leads to as well. -/
theorem Finished.hand_on (h : Finished reads number frames search) :
    Finished reads number frames (search.handOn number frames) ∧
      ∀ parent ∈ frames.head?,
        ((search.handOn number frames).node parent.node).lowlink ≤
          ((search.handOn number frames).node number).lowlink := by
  obtain ⟨hstack, hlinked, hgrouped, hordered⟩ := h
  cases frames with
  | nil => exact ⟨⟨hstack, hlinked, hgrouped, hordered⟩, by simp⟩
  | cons parent frames =>
      have hparent : parent.node ∈ path (parent :: frames) := List.mem_cons_self
      have hpassed : parent.node ∈ path (⟨number, []⟩ :: parent :: frames) :=
        List.mem_cons_of_mem _ hparent
      have hbelow := hstack.discovery_lt hparent
      have hlt : parent.node < size := (hstack.visited_of_path hpassed).lt
      have hnumber : number ∈ search.stack := hstack.path_mem number List.mem_cons_self
      obtain ⟨other, hother, hdiscovery, hreach⟩ :=
        hlinked.lowlink_reached number List.mem_cons_self
      have hreachParent : Reaches reads parent.node other :=
        (hlinked.leads parent.node hpassed number hnumber hbelow.le).trans hreach
      refine ⟨⟨hstack.lower hpassed _, hlinked.lower hlt hother hdiscovery hreachParent,
        hgrouped.lower hlt _, hordered.lower hlt _⟩, ?_⟩
      intro first hfirst
      obtain rfl : parent = first := by simpa using hfirst
      have hne : number ≠ parent.node := fun heq => hstack.not_mem_path (heq ▸ hparent)
      simp only [handOn, node_lower hlt, if_true, if_neg hne]
      exact Nat.min_le_right _ _

/-- A finished node whose lowlink is not its own number leads to a node that is still on the way. -/
theorem Finished.escapes (h : Finished reads number frames search)
    (hopen : (search.node number).lowlink ≠ (search.node number).discovery) :
    ∃ ancestor ∈ path frames,
      (search.node ancestor).discovery < (search.node number).discovery ∧
      Reaches reads number ancestor := by
  have hle := h.linked.lowlink_le number List.mem_cons_self
  obtain ⟨other, hother, hdiscovery, hreach⟩ :=
    h.linked.lowlink_reached number List.mem_cons_self
  obtain ⟨ancestor, hpassed, hbelow, hreturn⟩ := h.linked.returns other hother
  rcases List.mem_cons.mp hpassed with rfl | hancestor
  · rw [hdiscovery] at hbelow
    exact absurd (hle.antisymm hbelow) hopen
  · exact ⟨ancestor, hancestor, h.stacked.discovery_lt hancestor, hreach.trans hreturn⟩

/-- A node whose group is not complete is left on the stack. -/
theorem Finished.leave (h : Finished reads number frames search)
    (hhanded : ∀ parent ∈ frames.head?,
      (search.node parent.node).lowlink ≤ (search.node number).lowlink)
    (hopen : (search.node number).lowlink ≠ (search.node number).discovery) :
    Sound reads frames search := by
  obtain ⟨escape, hescape, hescapeLt, hescapeReach⟩ := h.escapes hopen
  obtain ⟨hstack, hlinked, hgrouped, hordered⟩ := h
  have hpassed : ∀ ancestor ∈ path frames, ancestor ∈ path (⟨number, []⟩ :: frames) :=
    fun ancestor hancestor => List.mem_cons_of_mem _ hancestor
  refine ⟨hstack.tail, ⟨?_, ?_, ?_, ?_, ?_, ?_, ?_⟩, hgrouped, hordered⟩
  · exact fun frame hframe => hlinked.rest_mem frame (List.mem_cons_of_mem _ hframe)
  · intro node hnode target htarget
    exact (hlinked.followed node hnode target htarget).imp_left pending_cons_nil_iff.mp
  · exact fun ancestor hancestor => hlinked.leads ancestor (hpassed ancestor hancestor)
  · intro node hnode
    obtain ⟨ancestor, hfound, hle, hreach⟩ := hlinked.returns node hnode
    rcases List.mem_cons.mp hfound with rfl | hancestor
    · exact ⟨escape, hescape, hescapeLt.le.trans hle, hreach.trans hescapeReach⟩
    · exact ⟨ancestor, hancestor, hle, hreach⟩
  · exact fun ancestor hancestor => hlinked.lowlink_le ancestor (hpassed ancestor hancestor)
  · exact fun ancestor hancestor => hlinked.lowlink_reached ancestor (hpassed ancestor hancestor)
  · intro node hnode target htarget hstacked
    refine (hlinked.bounded node hnode target htarget hstacked).imp pending_cons_nil_iff.mp
      fun hbound => ?_
    intro lowest hlowest hle
    obtain ⟨ancestor, hfound, hlowestLe, hnodeLe, htargetLe⟩ :=
      hbound lowest (hpassed lowest hlowest) hle
    rcases List.mem_cons.mp hfound with rfl | hancestor
    · -- the node before the finished one has taken over its lowlink
      cases frames with
      | nil => cases hescape
      | cons parent frames =>
          have hparent : parent.node ∈ path (parent :: frames) := List.mem_cons_self
          refine ⟨parent.node, hparent, ?_, ?_, (hhanded parent rfl).trans htargetLe⟩
          · rcases List.mem_cons.mp hlowest with rfl | hlower
            · exact le_rfl
            · exact (hstack.tail.discovery_lt hlower).le
          · exact (hstack.discovery_lt hparent).le.trans hnodeLe
    · exact ⟨ancestor, hancestor, hlowestLe, hnodeLe, htargetLe⟩

end Finish

end Search

end Spreadsheet.Dependency
