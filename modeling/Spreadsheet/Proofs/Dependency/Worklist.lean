import Spreadsheet.Proofs.Dependency.Walk

/-!
# Worklists

A worklist holds the nodes that wait for their neighbours to be looked at. A node is put there when
it is noticed for the first time, which is known by its key, and it is taken off once. In which
order nodes wait is left open: in a queue new nodes stand last, on a stack they come first. The main
theorem, `drain_spec`, says that nothing waits any more after as many rounds as there are nodes, and
that the nodes that have been taken, each once, are those that can be reached.
-/

namespace Spreadsheet.Dependency

/-- Where a new node stands among those that wait. -/
inductive Discipline where
  | queue
  | stack
  deriving DecidableEq, Repr

/-- Puts a node among those that wait. -/
def Discipline.put {α : Type} (discipline : Discipline) (node : α) (waiting : List α) : List α :=
  match discipline with
  | queue => waiting ++ [node]
  | stack => node :: waiting

/-- Wherever a node is put, it joins those that wait. -/
theorem Discipline.put_perm {α : Type} (discipline : Discipline) (node : α) (waiting : List α) :
    (discipline.put node waiting).Perm (node :: waiting) := by
  cases discipline with
  | queue => exact List.perm_append_singleton node waiting
  | stack => exact .refl _

/-- The nodes that wait, those that have been taken, in their order, and the keys of all of them. -/
structure Worklist (α : Type) {κ : Type} (order : κ → κ → Ordering) where
  seen : Std.TreeSet κ order
  waiting : List α
  taken : List α

namespace Worklist

variable {α κ : Type} {order : κ → κ → Ordering}

/-- The worklist without nodes. -/
def empty : Worklist α order := ⟨∅, [], []⟩

/-- All nodes that have been noticed. -/
def noticed (list : Worklist α order) : List α := list.taken ++ list.waiting

/-- The first node that waits, and the worklist from which it has been taken. -/
def pop (list : Worklist α order) : Option (α × Worklist α order) :=
  match list.waiting with
  | [] => none
  | node :: rest => some (node, { list with waiting := rest, taken := list.taken ++ [node] })

section Rounds

variable (discipline : Discipline) (key : α → κ) (next : α → List α)

/-- Puts a node on the worklist unless its key has been seen. -/
def notice (list : Worklist α order) (node : α) : Worklist α order :=
  if list.seen.contains (key node) then list
  else { list with
    seen := list.seen.insert (key node)
    waiting := discipline.put node list.waiting }

/-- Puts nodes on the worklist, one after the other. -/
def noticeAll (list : Worklist α order) (nodes : List α) : Worklist α order :=
  nodes.foldl (notice discipline key) list

/-- Takes the first node off, if one waits, and notices its neighbours. -/
def round (list : Worklist α order) : Worklist α order :=
  match list.pop with
  | none => list
  | some (node, rest) => noticeAll discipline key rest (next node)

/-- Goes through a number of rounds. -/
def drain : (rounds : Nat) → Worklist α order → Worklist α order
  | 0, list => list
  | rounds + 1, list => drain rounds (round discipline key next list)

end Rounds

variable {discipline : Discipline} {key : α → κ} {next : α → List α} {nodes : Finset α}
  {list : Worklist α order}

/-- A graph of finitely many nodes that their keys tell apart. -/
structure Keyed (key : α → κ) (next : α → List α) (nodes : Finset α) : Prop where
  closed : ∀ node ∈ nodes, ∀ target ∈ next node, target ∈ nodes
  injective : ∀ left ∈ nodes, ∀ right ∈ nodes, key left = key right → left = right

/-- What is known of a worklist at any time: its nodes are nodes of the graph, none of them is there
twice, and what has been seen are their keys. -/
structure Sound (key : α → κ) (nodes : Finset α) (list : Worklist α order) : Prop where
  mem : ∀ node ∈ list.noticed, node ∈ nodes
  nodup : list.noticed.Nodup
  seen : ∀ found, found ∈ list.seen ↔ ∃ node ∈ list.noticed, key node = found

/-- The empty list is sound. -/
theorem sound_empty : Sound key nodes (empty : Worklist α order) where
  mem := by simp [noticed, empty]
  nodup := List.nodup_nil
  seen := by simp [noticed, empty]

/-- Nothing can be taken from a list exactly if nothing waits on it. -/
theorem pop_eq_none_iff : list.pop = none ↔ list.waiting = [] := by
  unfold pop
  split <;> simp_all

/-- Taking a node off leaves what has been noticed. -/
theorem pop_eq_some {node : α} {rest : Worklist α order} (h : list.pop = some (node, rest)) :
    node ∈ list.waiting ∧ rest.taken = list.taken ++ [node] ∧ rest.seen = list.seen ∧
      rest.noticed = list.noticed := by
  unfold pop at h
  split at h
  · cases h
  · rename_i first others hwaiting
    cases h
    simp [noticed, hwaiting]

/-- Noticing a node takes none. -/
theorem taken_notice (node : α) : (notice discipline key list node).taken = list.taken := by
  unfold notice
  split <;> rfl

/-- Noticing several nodes takes none. -/
theorem taken_notice_all (found : List α) :
    (noticeAll discipline key list found).taken = list.taken := by
  induction found generalizing list with
  | nil => rfl
  | cons node rest ih => exact ih.trans (taken_notice node)

/-- Nothing happens where nothing waits. -/
theorem drain_of_done (rounds : Nat) (h : list.waiting = []) :
    drain discipline key next rounds list = list := by
  induction rounds with
  | zero => rfl
  | succ rounds ih =>
      rw [drain, round, pop_eq_none_iff.mpr h]
      exact ih

/-- A key that has been seen is that of a noticed node. -/
theorem Sound.seen_iff (h : Sound key nodes list) (hgraph : Keyed key next nodes) {node : α}
    (hnode : node ∈ nodes) : key node ∈ list.seen ↔ node ∈ list.noticed := by
  rw [h.seen]
  constructor
  · rintro ⟨other, hother, hkey⟩
    rwa [← hgraph.injective _ (h.mem other hother) node hnode hkey]
  · exact fun hnoticed => ⟨node, hnoticed, rfl⟩

variable [Std.TransCmp order] [Std.LawfulEqCmp order]

/-- A node of the graph is noticed, and nothing else is. -/
theorem Sound.notice (h : Sound key nodes list) (discipline : Discipline)
    (hgraph : Keyed key next nodes) {node : α} (hnode : node ∈ nodes) :
    Sound key nodes (Worklist.notice discipline key list node) ∧
      ∀ other, other ∈ (Worklist.notice discipline key list node).noticed ↔
        other = node ∨ other ∈ list.noticed := by
  have hseen := h.seen_iff hgraph hnode
  unfold Worklist.notice
  split
  · rename_i hcontains
    have hnoticed := hseen.mp (Std.TreeSet.contains_iff_mem.mp hcontains)
    exact ⟨h, fun other => ⟨.inr, fun hother => hother.elim (· ▸ hnoticed) id⟩⟩
  · rename_i hcontains
    have hnew : node ∉ list.noticed := fun hnoticed =>
      hcontains (Std.TreeSet.contains_iff_mem.mpr (hseen.mpr hnoticed))
    have hperm : (list.taken ++ discipline.put node list.waiting).Perm (node :: list.noticed) :=
      ((discipline.put_perm node list.waiting).append_left list.taken).trans List.perm_middle
    refine ⟨⟨fun other hother => ?_, ?_, fun found => ?_⟩, fun other => ?_⟩
    · rcases List.mem_cons.mp (hperm.mem_iff.mp hother) with rfl | hbefore
      · exact hnode
      · exact h.mem other hbefore
    · exact hperm.nodup_iff.mpr (List.nodup_cons.mpr ⟨hnew, h.nodup⟩)
    · rw [Traversal.mem_enter, h.seen]
      simp only [noticed, hperm.mem_iff, List.mem_cons, exists_eq_or_imp, eq_comm (a := found)]
    · exact hperm.mem_iff.trans List.mem_cons

/-- Noticing nodes of the graph leaves a list sound, with those nodes noticed besides the others. -/
theorem Sound.notice_all (h : Sound key nodes list) (discipline : Discipline)
    (hgraph : Keyed key next nodes) {found : List α} (hfound : ∀ node ∈ found, node ∈ nodes) :
    Sound key nodes (noticeAll discipline key list found) ∧
      ∀ other, other ∈ (noticeAll discipline key list found).noticed ↔
        other ∈ found ∨ other ∈ list.noticed := by
  induction found generalizing list with
  | nil => exact ⟨h, by simp [noticeAll]⟩
  | cons node rest ih =>
      obtain ⟨hnode, hrest⟩ := List.forall_mem_cons.mp hfound
      obtain ⟨hsound, hnoticed⟩ := h.notice discipline hgraph hnode
      obtain ⟨hall, hmem⟩ := ih hsound hrest
      refine ⟨hall, fun other => (hmem other).trans ?_⟩
      rw [hnoticed, List.mem_cons]
      tauto

/-- What is known of a worklist that was sent to some nodes: all that it has noticed can be reached
from them, and the neighbours of a node that was taken have been noticed. -/
structure Spreads (next : α → List α) (roots : List α) (list : Worklist α order) : Prop where
  entered : ∀ root ∈ roots, root ∈ list.noticed
  reached : ∀ node ∈ list.noticed, ∃ root ∈ roots, Reaches next root node
  followed : ∀ node ∈ list.taken, ∀ target ∈ next node, target ∈ list.noticed

variable {roots : List α}

/-- A round keeps what is known, and takes a node if one waits. -/
theorem Sound.round (h : Sound key nodes list) (discipline : Discipline)
    (hspreads : Spreads next roots list) (hgraph : Keyed key next nodes) :
    let after := Worklist.round discipline key next list
    Sound key nodes after ∧ Spreads next roots after ∧
      (list.waiting ≠ [] → after.taken.length = list.taken.length + 1) := by
  intro after
  cases hpop : list.pop with
  | none =>
      have hsame : after = list := by simp only [after, Worklist.round, hpop]
      rw [hsame]
      exact ⟨h, hspreads, fun hsome => absurd (pop_eq_none_iff.mp hpop) hsome⟩
  | some popped =>
      obtain ⟨node, rest⟩ := popped
      have hafter : after = noticeAll discipline key rest (next node) := by
        simp only [after, Worklist.round, hpop]
      obtain ⟨hwaiting, htaken, hseen, hrest⟩ := pop_eq_some hpop
      have hnode : node ∈ list.noticed := List.mem_append_right _ hwaiting
      have hsound : Sound key nodes rest :=
        ⟨hrest ▸ h.mem, hrest ▸ h.nodup, hseen ▸ hrest ▸ h.seen⟩
      obtain ⟨hall, hmem⟩ := hsound.notice_all discipline hgraph
        (hgraph.closed node (h.mem node hnode))
      rw [← hafter] at hall hmem
      rw [hrest] at hmem
      have hmore : after.taken = list.taken ++ [node] := by
        rw [hafter, taken_notice_all, htaken]
      refine ⟨hall, ⟨fun root hroot => ?_, fun other hother => ?_, fun other hother => ?_⟩, ?_⟩
      · exact (hmem root).mpr (.inr (hspreads.entered root hroot))
      · rcases (hmem other).mp hother with htarget | hold
        · obtain ⟨root, hroot, hreach⟩ := hspreads.reached node hnode
          exact ⟨root, hroot, hreach.tail htarget⟩
        · exact hspreads.reached other hold
      · rw [hmore, List.mem_append, List.mem_singleton] at hother
        rcases hother with hold | rfl
        · exact fun target htarget =>
            (hmem target).mpr (.inr (hspreads.followed other hold target htarget))
        · exact fun target htarget => (hmem target).mpr (.inl htarget)
      · intro _
        rw [hmore, List.length_append, List.length_singleton]

/-- Each round takes another node, so there are no more rounds than nodes. -/
theorem Sound.drain (h : Sound key nodes list) (discipline : Discipline)
    (hspreads : Spreads next roots list) (hgraph : Keyed key next nodes) {rounds : Nat}
    (hrounds : nodes.card ≤ list.taken.length + rounds) :
    let done := Worklist.drain discipline key next rounds list
    Sound key nodes done ∧ Spreads next roots done ∧ done.waiting = [] := by
  have hlength : ∀ {list : Worklist α order}, Sound key nodes list →
      list.noticed.length ≤ nodes.card := by
    intro list hsound
    classical
    rw [← List.toFinset_card_of_nodup hsound.nodup]
    exact Finset.card_le_card fun node hnode => hsound.mem node (List.mem_toFinset.mp hnode)
  induction rounds generalizing list with
  | zero =>
      have hle := hlength h
      rw [noticed, List.length_append] at hle
      have hnone : list.waiting = [] := List.eq_nil_of_length_eq_zero (by omega)
      exact ⟨h, hspreads, hnone⟩
  | succ rounds ih =>
      cases hwaiting : list.waiting with
      | nil =>
          intro done
          have hsame : done = list := drain_of_done _ hwaiting
          rw [hsame]
          exact ⟨h, hspreads, hwaiting⟩
      | cons node rest =>
          obtain ⟨hsound, hnext, htaken⟩ := h.round discipline hspreads hgraph
          have hone := htaken (by simp [hwaiting])
          exact ih hsound hnext (by omega)

variable (order) in
/-- After as many rounds as there are nodes nothing waits any more. The nodes that have been taken,
each of them once, are those that can be reached from where the worklist was sent. -/
theorem drain_spec (discipline : Discipline) (hgraph : Keyed key next nodes)
    (hroots : ∀ root ∈ roots, root ∈ nodes) {rounds : Nat} (hrounds : nodes.card ≤ rounds) :
    let done : Worklist α order :=
      drain discipline key next rounds (noticeAll discipline key empty roots)
    done.waiting = [] ∧ done.taken.Nodup ∧
      (∀ node, node ∈ done.taken ↔ ∃ root ∈ roots, Reaches next root node) ∧
      ∀ found, found ∈ done.seen ↔ ∃ node ∈ done.taken, key node = found := by
  intro done
  have hnone : Sound key nodes (empty : Worklist α order) := sound_empty
  obtain ⟨hsound, hmem⟩ := hnone.notice_all discipline hgraph hroots
  have hnoticed : ∀ node, node ∈ (noticeAll discipline key empty roots : Worklist α order).noticed ↔
      node ∈ roots := fun node => (hmem node).trans (by simp [noticed, empty])
  have hstart : Spreads next roots (noticeAll discipline key empty roots : Worklist α order) := by
    refine ⟨fun root hroot => (hnoticed root).mpr hroot, fun node hnode => ?_, fun node hnode => ?_⟩
    · exact ⟨node, (hnoticed node).mp hnode, .refl⟩
    · rw [taken_notice_all] at hnode
      cases hnode
  obtain ⟨hdone, hspreads, hempty⟩ : Sound key nodes done ∧ Spreads next roots done ∧
      done.waiting = [] := hsound.drain discipline hstart hgraph (by omega)
  have htaken : done.noticed = done.taken := by rw [noticed, hempty, List.append_nil]
  refine ⟨hempty, htaken ▸ hdone.nodup, fun node => ⟨fun hnode => ?_, ?_⟩, htaken ▸ hdone.seen⟩
  · exact hspreads.reached node (by rwa [htaken])
  · rintro ⟨root, hroot, hreach⟩
    have hclosed : ∀ other ∈ {node | node ∈ done.taken}, ∀ target ∈ next other,
        target ∈ {node | node ∈ done.taken} := by
      intro other hother target htarget
      have hfollowed := hspreads.followed other hother target htarget
      rwa [htaken] at hfollowed
    have hentered := hspreads.entered root hroot
    rw [htaken] at hentered
    exact hreach.mem hclosed hentered

end Worklist

end Spreadsheet.Dependency
