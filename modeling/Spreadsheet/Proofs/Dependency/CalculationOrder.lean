import Mathlib.Data.List.Basic
import Mathlib.Data.List.Perm.Basic
import Spreadsheet.Proofs.Dependency.RangeIndex
import Spreadsheet.Proofs.Dependency.Search.Run

/-!
# The order of calculation

The order that `calculationOrder` puts numbers in, for any order in which a walk through their
neighbours finishes them. It holds every number once. Numbers on a cycle come last, as they are
ordered themselves, and every other number comes after its neighbours that are on no cycle.
-/

namespace Spreadsheet.Dependency.Chain

variable {reads : Nat → List Nat} {postorder : List Nat} {circular : Nat → Bool} {count : Nat}

/-- The order of calculation is an order of all numbers. -/
theorem calculation_order_perm (hperm : postorder.Perm (List.range count)) :
    (calculationOrder postorder circular count).Perm (List.range count) := by
  calc
    postorder.filter (fun number => !circular number) ++ (List.range count).filter circular
      |>.Perm ((List.range count).filter (fun number => !circular number) ++
        (List.range count).filter circular) := (hperm.filter _).append_right _
    _ |>.Perm ((List.range count).filter circular ++
        (List.range count).filter (fun number => !circular number)) := List.perm_append_comm
    _ |>.Perm (List.range count) := List.filter_append_perm _ _

/-- Where an order of calculation holds a number on a cycle, the numbers without cycles are all
behind, and the numbers on a cycle stand as in the order of registration. -/
theorem circular_of_calculation_order {place number : Nat}
    (h : (calculationOrder postorder circular count)[place]? = some number) :
    circular number = true ↔
      (postorder.filter fun number => !circular number).length ≤ place := by
  rw [calculationOrder, List.getElem?_append] at h
  split at h
  · have hmem := List.mem_of_getElem? h
    simp only [List.mem_filter, Bool.not_eq_true'] at hmem
    simp only [hmem.2, Bool.false_eq_true, false_iff]
    omega
  · have hmem := List.mem_of_getElem? h
    simp only [List.mem_filter] at hmem
    simp only [hmem.2, true_iff]
    omega

/-- A number without a cycle stands after its neighbours without a cycle. -/
theorem neighbours_first (hperm : postorder.Perm (List.range count))
    (hsettled : Settled reads postorder.reverse)
    (hcircular : ∀ node < count, circular node = true ↔ LeadsBack reads node)
    {left right node target : Nat}
    (hnode : (calculationOrder postorder circular count)[right]? = some node)
    (htarget : (calculationOrder postorder circular count)[left]? = some target)
    (hstep : target ∈ reads node) (hnodeFree : circular node = false)
    (htargetFree : circular target = false) : left < right := by
  have hlt : node < count :=
    List.mem_range.mp ((calculation_order_perm hperm).mem_iff.mp (List.mem_of_getElem? hnode))
  obtain ⟨earlier, later, hsplit⟩ :=
    List.append_of_mem (hperm.mem_iff.mpr (List.mem_range.mpr hlt))
  -- a neighbour that is finished later leads back, which puts the node on a cycle
  have hearlier : target ∈ earlier := by
    rw [hsplit] at hsettled
    refine (hsettled.mem_left hstep).resolve_right fun hback => ?_
    have hcycle := (hcircular node hlt).mpr (Relation.TransGen.head' hstep hback)
    simp [hnodeFree] at hcycle
  -- the place of the node is the number of those before it
  have horder : calculationOrder postorder circular count =
      earlier.filter (fun number => !circular number) ++ node ::
        (later.filter (fun number => !circular number) ++ (List.range count).filter circular) := by
    simp [calculationOrder, hsplit, hnodeFree]
  have hnodup : (calculationOrder postorder circular count).Nodup :=
    (calculation_order_perm hperm).nodup_iff.mpr List.nodup_range
  obtain ⟨place, hplace, hfound⟩ :=
    List.getElem_of_mem (List.mem_filter.mpr ⟨hearlier, by simp [htargetFree]⟩ :
      target ∈ earlier.filter fun number => !circular number)
  have hleft : left = place := by
    refine (List.getElem?_inj (List.getElem?_eq_some_iff.mp htarget).1 hnodup).mp ?_
    rw [htarget, horder, List.getElem?_append_left hplace, List.getElem?_eq_getElem hplace, hfound]
  have hright : right = (earlier.filter fun number => !circular number).length := by
    refine (List.getElem?_inj (List.getElem?_eq_some_iff.mp hnode).1 hnodup).mp ?_
    rw [hnode, horder, List.getElem?_append_right le_rfl]
    simp
  omega

/-- Entering the places of distinct numbers, one after the other. -/
private theorem get_foldl_set {order : List Nat} (hdistinct : order.Nodup) (offset number : Nat)
    (table : Array Nat) (hsize : ∀ entered ∈ order, entered < table.size) :
    ((order.zipIdx offset).foldl (fun table (number, place) => table.setIfInBounds number place)
      table)[number]? =
      if number ∈ order then some (offset + order.idxOf number) else table[number]? := by
  induction order generalizing offset table with
  | nil => simp
  | cons first rest ih =>
      obtain ⟨hfirst, hrest⟩ := List.nodup_cons.mp hdistinct
      rw [List.zipIdx_cons, List.foldl_cons,
        ih hrest _ _ fun entered hmem => by simpa using hsize entered (by simp [hmem])]
      by_cases hnumber : number = first
      · subst hnumber
        simp [hfirst, hsize number]
      · by_cases hmem : number ∈ rest
        · simp [hmem, List.idxOf_cons_ne rest (Ne.symm hnumber)]
          omega
        · simp [hmem, hnumber, Array.getElem?_setIfInBounds_ne (Ne.symm hnumber)]

/-- The inverse of an order has as many entries as it is made for. -/
theorem size_inverse (order : List Nat) (count : Nat) : (inverse order count).size = count := by
  have hsize : ∀ (entries : List (Nat × Nat)) (table : Array Nat),
      (entries.foldl (fun table (number, place) => table.setIfInBounds number place) table).size =
        table.size := by
    intro entries
    induction entries with
    | nil => exact fun _ => rfl
    | cons entry rest ih => exact fun table => (ih _).trans Array.size_setIfInBounds
  rw [inverse, hsize, Array.size_replicate]

/-- The inverse of an order gives the place of each number. -/
theorem get_inverse_iff {order : List Nat} (hperm : order.Perm (List.range count))
    {number place : Nat} :
    (inverse order count)[number]? = some place ↔ order[place]? = some number := by
  have hdistinct : order.Nodup := hperm.nodup_iff.mpr List.nodup_range
  have hmem : ∀ entered, entered ∈ order ↔ entered < count := by
    intro entered
    rw [hperm.mem_iff, List.mem_range]
  rw [inverse, get_foldl_set hdistinct _ _ _ (by simp [hmem])]
  constructor
  · intro h
    split at h
    · have hfound := List.getElem?_idxOf ‹number ∈ order›
      simp only [Option.some.injEq, Nat.zero_add] at h
      rwa [h] at hfound
    · simp [(hmem number).not.mp ‹_›] at h
  · intro h
    have hin := List.mem_of_getElem? h
    obtain ⟨hlt, rfl⟩ := List.getElem?_eq_some_iff.mp h
    simp [hdistinct.idxOf_getElem]

end Spreadsheet.Dependency.Chain
