import Spreadsheet.Evaluation.Evaluate
import Spreadsheet.Proofs.Evaluation.Mentions
import Spreadsheet.Proofs.Results

/-!
# Definitions that are not in progress

Every definition that is evaluated on the way to a value joins those in progress, so that fewer and
fewer are left. What is left bounds how deeply definitions can be nested.
-/

namespace Spreadsheet.Evaluation

/-- The keys of the definitions that are not in progress. -/
def waiting (context : Context) (inProgress : List NameKey) : List NameKey :=
  ((context.workbook.map fun workbook => workbook.names.entries.keys).getD []).filter
    fun key => !inProgress.contains key

variable {context : Context} {inProgress : List NameKey}

/-- No more definitions wait than there is room for. -/
theorem waiting_length_le (context : Context) (inProgress : List NameKey) :
    (waiting context inProgress).length ≤ roomForNames context := by
  refine Nat.le_trans (List.length_filter_le _ _) ?_
  unfold roomForNames NameTable.size
  cases context.workbook with
  | none => exact Nat.le_refl _
  | some workbook => exact Nat.le_of_eq Std.ExtTreeMap.length_keys

/-- A definition that a name has is one of a workbook. -/
theorem get_of_definition {sheet : Option String} {name : String} {definition : DefinedName}
    (h : context.definition sheet name = .ok (some definition)) :
    ∃ workbook index, context.workbook = some workbook ∧ context.sheetIndex sheet = .ok index ∧
      workbook.names.get name index = some definition := by
  obtain ⟨index, hindex, hfound⟩ := except_map_eq_ok_iff.mp h
  obtain ⟨workbook, hworkbook, hget⟩ := Option.bind_eq_some_iff.mp hfound
  exact ⟨workbook, index, hworkbook, hindex, hget⟩

/-- A definition that a name has waits unless it is in progress. -/
theorem mem_waiting_of_definition {sheet : Option String} {name : String} {definition : DefinedName}
    (h : context.definition sheet name = .ok (some definition))
    (hfree : definition.key ∉ inProgress) : definition.key ∈ waiting context inProgress := by
  obtain ⟨workbook, index, hworkbook, -, hget⟩ := get_of_definition h
  have hentry := NameTable.get_key_of_get hget
  have hkey : definition.key ∈ workbook.names.entries :=
    Std.ExtTreeMap.mem_iff_isSome_getElem?.mpr (by simp [hentry])
  simpa [waiting, hworkbook] using ⟨hkey, hfree⟩

/-- Fewer definitions wait once one of them is in progress. -/
theorem waiting_cons_length_lt {key : NameKey} (h : key ∈ waiting context inProgress) :
    (waiting context (key :: inProgress)).length < (waiting context inProgress).length := by
  have hfilter : waiting context (key :: inProgress) =
      (waiting context inProgress).filter fun other => other != key := by
    unfold waiting
    rw [List.filter_filter]
    congr 1
    funext other
    rw [List.contains_cons, Bool.not_or]
    rfl
  rw [hfilter]
  exact List.length_filter_lt_length_iff_exists.mpr ⟨key, h, by simp⟩

end Spreadsheet.Evaluation
