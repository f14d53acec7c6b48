import Mathlib.Data.Set.Card
import Mathlib.Data.String.Basic
import Mathlib.Logic.Function.Basic
import Spreadsheet.Name
import Spreadsheet.Proofs.Results
import Spreadsheet.Proofs.Sorting

/-!
# Defined names over a history

A table of names is followed through any changes, refused ones included, beside a record of what
each change leaves under each key. The record holds the definitions that were stored last and not
removed since (`record_eq_some_iff`), the table holds what is recorded (`held_after`), and the main
theorem, `names_of_history`, says what can be seen of the table: lookups, where a sheet's own
definition hides the workbook's, the number of definitions and the sorted listings of each scope.
-/

namespace Spreadsheet

namespace NameTable

/-- A change of a table. -/
inductive Change where
  /-- Stores a definition if its key is free. -/
  | define (definition : DefinedName)
  /-- Stores a definition, in place of one with its key. -/
  | update (definition : DefinedName)
  | remove (name : String) (scope : Scope)

/-- The table after a change, which may be refused. -/
def changed (table : NameTable) : Change → Except DocumentError NameTable
  | .define definition => table.define definition
  | .update definition => table.update definition
  | .remove name scope => .ok (table.remove name scope).2

/-- The table that a change leaves; one that is refused changes nothing. -/
def next (table : NameTable) (change : Change) : NameTable :=
  (table.changed change).toOption.getD table

/-- The table after some changes. -/
def after (history : List Change) (table : NameTable) : NameTable := history.foldl next table

/-! ## Records of changes -/

/-- The record that a change leaves. -/
def Change.recordAfter (before : NameKey → Option DefinedName) :
    Change → NameKey → Option DefinedName
  | .define definition =>
    if isUsableName definition.name = true ∧ before definition.key = none then
      Function.update before definition.key (some definition)
    else before
  | .update definition =>
    if isUsableName definition.name = true then
      Function.update before definition.key (some definition)
    else before
  | .remove name scope => Function.update before (.of name scope) none

/-- The record of some changes, beginning without any name. -/
def record (history : List Change) : NameKey → Option DefinedName :=
  history.foldl Change.recordAfter fun _ => none

/-- Whether a change stores a definition: its name must be usable, and if it is to be new, then its
key must be free. -/
def Change.Stores (before : NameKey → Option DefinedName) (definition : DefinedName) : Change → Prop
  | .define given =>
    given = definition ∧ isUsableName given.name = true ∧ before given.key = none
  | .update given => given = definition ∧ isUsableName given.name = true
  | .remove _ _ => False

/-- Whether a change takes away what is stored under a key. -/
def Change.Displaces (key : NameKey) : Change → Prop
  | .define _ => False
  | .update given => given.key = key ∧ isUsableName given.name = true
  | .remove name scope => NameKey.of name scope = key

/-- Whether a definition is the one that was stored under a key last, and not removed since. -/
def StoredLast (history : List Change) (key : NameKey) (definition : DefinedName) : Prop :=
  ∃ earlier change later, history = earlier ++ change :: later ∧
    change.Stores (record earlier) definition ∧ definition.key = key ∧
    ∀ other ∈ later, ¬ other.Displaces key

section Records

variable {table : NameTable} {history : List Change} {change : Change} {key : NameKey}
  {definition : DefinedName} {before : NameKey → Option DefinedName}

/-- The record after one change more is that change made to the record before it. -/
theorem record_concat (history : List Change) (change : Change) :
    record (history ++ [change]) = change.recordAfter (record history) := by
  rw [record, List.foldl_append]
  rfl

/-- After one entry is replaced, a definition is held under its own key or was held before under
another one. -/
theorem update_eq_some_iff {target : NameKey} {stored : Option DefinedName} :
    Function.update before target stored key = some definition ↔
      target = key ∧ stored = some definition ∨ target ≠ key ∧ before key = some definition := by
  rw [Function.update_apply]
  by_cases htarget : target = key
  · simp [htarget]
  · simp [htarget, Ne.symm htarget]

/-- After a change there is recorded what it stores, or what was recorded before and stays. -/
theorem record_after_eq_some_iff : change.recordAfter before key = some definition ↔
    change.Stores before definition ∧ definition.key = key ∨
      before key = some definition ∧ ¬ change.Displaces key := by
  cases change with
  | define given =>
      simp only [Change.recordAfter, Change.Stores, Change.Displaces, not_false_eq_true, and_true]
      split
      · rename_i haccepted
        rw [update_eq_some_iff, Option.some.injEq]
        constructor
        · rintro (⟨rfl, rfl⟩ | ⟨-, hbefore⟩)
          · exact .inl ⟨⟨rfl, haccepted⟩, rfl⟩
          · exact .inr hbefore
        · rintro (⟨⟨rfl, -⟩, rfl⟩ | hbefore)
          · exact .inl ⟨rfl, rfl⟩
          · refine .inr ⟨?_, hbefore⟩
            rintro rfl
            rw [haccepted.2] at hbefore
            cases hbefore
      · rename_i hrefused
        constructor
        · exact .inr
        · rintro (⟨⟨rfl, haccepted⟩, -⟩ | hbefore)
          · exact absurd haccepted hrefused
          · exact hbefore
  | update given =>
      simp only [Change.recordAfter, Change.Stores, Change.Displaces]
      split
      · rename_i husable
        rw [update_eq_some_iff, Option.some.injEq]
        constructor
        · rintro (⟨rfl, rfl⟩ | ⟨hother, hbefore⟩)
          · exact .inl ⟨⟨rfl, husable⟩, rfl⟩
          · exact .inr ⟨hbefore, fun hsame => hother hsame.1⟩
        · rintro (⟨⟨rfl, -⟩, rfl⟩ | ⟨hbefore, hother⟩)
          · exact .inl ⟨rfl, rfl⟩
          · exact .inr ⟨fun hsame => hother ⟨hsame, husable⟩, hbefore⟩
      · rename_i hrefused
        constructor
        · exact fun hbefore => .inr ⟨hbefore, fun hsame => hrefused hsame.2⟩
        · rintro (⟨⟨rfl, husable⟩, -⟩ | ⟨hbefore, -⟩)
          · exact absurd husable hrefused
          · exact hbefore
  | remove name scope =>
      simp only [Change.recordAfter, Change.Stores, Change.Displaces, false_and, false_or]
      rw [update_eq_some_iff]
      constructor
      · rintro (⟨-, hnone⟩ | ⟨hother, hbefore⟩)
        · cases hnone
        · exact ⟨hbefore, hother⟩
      · exact fun ⟨hbefore, hother⟩ => .inr ⟨hother, hbefore⟩

/-- What was stored last is what the last change stores, or what was stored last
before and stays. -/
theorem stored_last_concat_iff : StoredLast (history ++ [change]) key definition ↔
    change.Stores (record history) definition ∧ definition.key = key ∨
      StoredLast history key definition ∧ ¬ change.Displaces key := by
  constructor
  · rintro ⟨earlier, storing, later, hsplit, hstores, hkey, hlater⟩
    rcases later.eq_nil_or_concat' with rfl | ⟨front, last, rfl⟩
    · obtain ⟨rfl, hlast⟩ := List.append_inj' hsplit rfl
      cases hlast
      exact .inl ⟨hstores, hkey⟩
    · rw [← List.cons_append, ← List.append_assoc] at hsplit
      obtain ⟨rfl, hlast⟩ := List.append_inj' hsplit rfl
      cases hlast
      obtain ⟨hfront, hchange⟩ := List.forall_mem_append.mp hlater
      exact .inr ⟨⟨earlier, storing, front, rfl, hstores, hkey, hfront⟩, by simpa using hchange⟩
  · rintro (⟨hstores, hkey⟩ | ⟨⟨earlier, storing, later, rfl, hstores, hkey, hlater⟩, hstays⟩)
    · exact ⟨history, change, [], rfl, hstores, hkey, nofun⟩
    · refine ⟨earlier, storing, later ++ [change], by simp, hstores, hkey, ?_⟩
      exact List.forall_mem_append.mpr ⟨hlater, by simpa using hstays⟩

/-- The record holds the definitions that were stored last and not removed since. -/
theorem record_eq_some_iff :
    record history key = some definition ↔ StoredLast history key definition := by
  induction history using List.reverseRecOn with
  | nil =>
      refine iff_of_false nofun ?_
      rintro ⟨earlier, change, later, hsplit, -⟩
      simp at hsplit
  | append_singleton history change ih =>
      rw [record_concat, record_after_eq_some_iff, stored_last_concat_iff, ih]

/-! ## Tables and their records -/

/-- What a table holds under each key. -/
def held (table : NameTable) (key : NameKey) : Option DefinedName := table.entries[key]?

/-- Inserting a definition holds it under its key and changes nothing else. -/
theorem held_insert (table : NameTable) (definition : DefinedName) :
    (table.insert definition).held =
      Function.update table.held definition.key (some definition) := by
  funext key
  rw [held, insert, Std.ExtTreeMap.getElem?_insert, Function.update_apply]
  exact if_congr (Std.LawfulEqCmp.compare_eq_iff_eq.trans eq_comm) rfl rfl

/-- Erasing a key takes its definition and changes nothing else. -/
theorem held_erase (table : NameTable) (key : NameKey) :
    (table.erase key).held = Function.update table.held key none := by
  funext other
  rw [held, erase, Std.ExtTreeMap.getElem?_erase, Function.update_apply]
  exact if_congr (Std.LawfulEqCmp.compare_eq_iff_eq.trans eq_comm) rfl rfl

/-- A definition is added if its name can be used and its key is free, and refused otherwise. -/
theorem next_define (table : NameTable) (definition : DefinedName) :
    table.next (.define definition) =
      if isUsableName definition.name = true ∧ table.held definition.key = none then
        table.insert definition
      else table := by
  have hexact : table.getExact definition.name definition.scope = table.held definition.key := rfl
  simp only [next, changed, define, checkName, hexact]
  by_cases husable : isUsableName definition.name = true
  · cases table.held definition.key with
    | none =>
        simp only [husable]
        rfl
    | some taken =>
        simp only [husable]
        rfl
  · simp only [husable]
    rfl

/-- A definition is replaced if its name can be used, and refused otherwise. -/
theorem next_update (table : NameTable) (definition : DefinedName) :
    table.next (.update definition) =
      if isUsableName definition.name = true then table.insert definition else table := by
  simp only [next, changed, update, checkName]
  split <;> rfl

/-- A table holds after a change what is recorded after it, whether the change is refused or not. -/
theorem held_next (table : NameTable) (change : Change) :
    (table.next change).held = change.recordAfter table.held := by
  cases change with
  | define definition =>
      rw [next_define, apply_ite held, held_insert]
      rfl
  | update definition =>
      rw [next_update, apply_ite held, held_insert]
      rfl
  | remove name scope => exact table.held_erase _

/-- After a history the table holds what the record of the changes says. -/
theorem held_after (history : List Change) (table : NameTable) :
    (table.after history).held = history.foldl Change.recordAfter table.held := by
  induction history generalizing table with
  | nil => rfl
  | cons change history ih =>
      rw [List.foldl_cons, ← held_next, ← ih, after, after, List.foldl_cons]

end Records

/-! ## What can be seen of a table -/

section Views

variable {table : NameTable} {key : NameKey} {definition : DefinedName} {scope : Scope}

/-- The entries of one scope, by their names in lower case. -/
def scopeEntries (table : NameTable) (scope : Scope) : List (NameKey × DefinedName) :=
  table.entries.toList.filter fun entry => entry.1.scope == scope

/-- The definitions of one scope, sorted by their names in lower case from entries in any order. -/
def sortedNames (entries : List (NameKey × DefinedName)) (scope : Scope) : List DefinedName :=
  ((entries.filter fun entry => entry.1.scope == scope).mergeSort fun left right =>
    decide (left.1.spelling ≤ right.1.spelling)).map Prod.snd

/-- A definition is listed under a key exactly if it is held there. -/
theorem mem_entries_iff :
    (key, definition) ∈ table.entries.toList ↔ table.held key = some definition :=
  Std.ExtTreeMap.mem_toList_iff_getElem?_eq_some

/-- A definition is listed in a scope exactly if it is held under a key of that scope. -/
theorem mem_scope_entries_iff : (key, definition) ∈ table.scopeEntries scope ↔
    table.held key = some definition ∧ key.scope = scope := by
  rw [scopeEntries, List.mem_filter, mem_entries_iff, beq_iff_eq]

/-- The names of one scope ascend. -/
theorem scope_entries_ascend (table : NameTable) (scope : Scope) :
    (table.scopeEntries scope).Pairwise fun left right => left.1.spelling < right.1.spelling := by
  have hordered : (table.scopeEntries scope).Pairwise fun left right =>
      NameKey.order left.1 right.1 = .lt := table.entries.ordered_keys_toList.filter _
  refine hordered.imp_of_mem fun {left right} hleft hright hlt => ?_
  have hscope : left.1.scope = right.1.scope :=
    (mem_scope_entries_iff.mp hleft).2.trans (mem_scope_entries_iff.mp hright).2.symm
  rw [NameKey.order, hscope, compare_eq_iff_eq.mpr rfl, Ordering.eq_then] at hlt
  exact compare_lt_iff_lt.mp hlt

/-- A definition is found in a scope exactly if it is held under its own key and has that scope. -/
theorem mem_in_scope_iff : definition ∈ table.inScope scope ↔
    table.held definition.key = some definition ∧ definition.scope = scope := by
  rw [inScope, ← scopeEntries, List.mem_map]
  constructor
  · rintro ⟨⟨key, _⟩, hentry, rfl⟩
    obtain ⟨hheld, hscope⟩ := mem_scope_entries_iff.mp hentry
    obtain rfl := table.keyed _ _ hheld
    exact ⟨hheld, hscope⟩
  · exact fun hheld => ⟨(definition.key, definition), mem_scope_entries_iff.mpr hheld, rfl⟩

/-- The definitions of a scope are listed by the lower case of their names. -/
theorem in_scope_ascends (table : NameTable) (scope : Scope) :
    (table.inScope scope).Pairwise fun left right =>
      Text.lower left.name < Text.lower right.name := by
  rw [inScope, ← scopeEntries, List.pairwise_map]
  refine (table.scope_entries_ascend scope).imp_of_mem fun {left right} hleft hright hlt => ?_
  rw [← table.keyed _ _ (mem_scope_entries_iff.mp hleft).1,
    ← table.keyed _ _ (mem_scope_entries_iff.mp hright).1] at hlt
  exact hlt

/-- A scope lists each of its definitions once and nothing else. -/
theorem count_in_scope (table : NameTable) (scope : Scope) (definition : DefinedName) :
    (table.inScope scope).count definition =
      if table.held definition.key = some definition ∧ definition.scope = scope then 1 else 0 := by
  have hnodup : (table.inScope scope).Nodup :=
    (table.in_scope_ascends scope).imp fun hlt =>
      ne_of_apply_ne (fun definition => Text.lower definition.name) (ne_of_lt hlt)
  rw [hnodup.count]
  exact if_congr mem_in_scope_iff rfl rfl

/-- The listing of a scope does not depend on the order in which the entries are visited. -/
theorem sorted_names_eq {entries : List (NameKey × DefinedName)}
    (h : entries.Perm table.entries.toList) (scope : Scope) :
    sortedNames entries scope = table.inScope scope := by
  rw [sortedNames, merge_sort_eq_of_perm (fun entry => entry.1.spelling) (h.filter _)
    (table.scope_entries_ascend scope)]
  rfl

/-- The size is the number of the keys under which there is a definition. -/
theorem encard_held (table : NameTable) :
    {key | (table.held key).isSome = true}.encard = table.size := by
  have hkeys : {key | (table.held key).isSome = true} =
      (table.entries.keys.toFinset : Set NameKey) := by
    ext key
    rw [List.coe_toFinset, Set.mem_ofPred_eq, Set.mem_ofPred_eq, Std.ExtTreeMap.mem_keys,
      Std.ExtTreeMap.mem_iff_isSome_getElem?]
    rfl
  rw [hkeys, Set.encard_coe_eq_coe_finsetCard, List.toFinset_card_of_nodup table.entries.nodup_keys,
    Std.ExtTreeMap.length_keys]
  rfl

end Views

/-- After any changes, refused ones included, a name is looked up in the scope of the sheet and then
in that of the workbook, where it has the definition that was stored last and not removed since. The
size is the number of the keys in use, each scope lists its definitions once by ascending names, in
whatever order the entries are visited, and every definition is kept under its own key. -/
theorem names_of_history (history : List Change) :
    let table := empty.after history
    let live := record history
    (∀ key definition, live key = some definition ↔ StoredLast history key definition) ∧
      (∀ name sheet, table.get name sheet =
        (live ⟨.sheet sheet, Text.lower name⟩).or (live ⟨.workbook, Text.lower name⟩)) ∧
      {key : NameKey | (live key).isSome = true}.encard = table.size ∧
      (∀ scope definition, (table.inScope scope).count definition =
        if live definition.key = some definition ∧ definition.scope = scope then 1 else 0) ∧
      (∀ scope, (table.inScope scope).Pairwise fun left right =>
        Text.lower left.name < Text.lower right.name) ∧
      (∀ entries scope, entries.Perm table.entries.toList →
        sortedNames entries scope = table.inScope scope) ∧
      ∀ (key : NameKey) (definition : DefinedName), table.entries[key]? = some definition →
        key = ⟨definition.scope, Text.lower definition.name⟩ := by
  intro table live
  have hnothing : empty.held = fun _ => none := funext fun _ => Std.ExtTreeMap.getElem?_empty
  have hheld : table.held = live := by
    rw [held_after, hnothing]
    rfl
  rw [← hheld]
  refine ⟨fun key definition => ?_, fun name sheet => rfl, table.encard_held,
    table.count_in_scope, table.in_scope_ascends, fun entries scope h => sorted_names_eq h scope,
    fun key definition hstored => (table.keyed key definition hstored).symm⟩
  rw [hheld]
  exact record_eq_some_iff

end NameTable

end Spreadsheet
