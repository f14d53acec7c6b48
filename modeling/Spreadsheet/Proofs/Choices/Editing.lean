import Mathlib
import Spreadsheet.Choices
import Spreadsheet.Proofs.Results

/-!
# Changing a choice list in place

Here a list is a place that changes write to, and what was written before a refusal stays written.
A change is therefore made on a copy, which takes the place of the list only once it is known to
fit. The main theorem, `history_writable_and_atomic`, follows a list through any number of changes:
it can be written at any time, a refused change leaves it as it was, and one that is made alters the
addressed item and nothing else.
-/

namespace Spreadsheet.Choices

/-! ## The length of a written list -/

/-- The length of the items written one after the other is that of all of them and of the commas
between them. -/
theorem length_eq (items : List String) :
    length items = (items.map String.length).sum + (items.length - 1) := by
  unfold length
  generalize items.length - 1 = separators
  induction items with
  | nil => exact (Nat.zero_add separators).symm
  | cons item items ih => rw [List.foldr_cons, ih, List.map_cons, List.sum_cons, Nat.add_assoc]

/-- What is counted against the limit is the length of the written text. -/
theorem length_serialized (choices : Choices) :
    choices.serialized.length = length choices.items := by
  obtain ⟨items⟩ := choices
  rw [serialized, String.length_ofList]
  induction items with
  | nil => rfl
  | cons first rest ih =>
      cases rest with
      | nil => simp [length, List.intercalate, String.length_toList]
      | cons second rest =>
          rw [length_eq] at ih ⊢
          simp [List.intercalate, String.length_toList] at ih ⊢
          omega

/-! ## Lists that can be written -/

/-- No item holds a comma, and the written items have at most 255 characters. -/
structure Writable (choices : Choices) : Prop where
  unseparated : ∀ item ∈ choices.items, ',' ∉ item.toList
  short : choices.serialized.length ≤ 255

/-- An item passes its check exactly if there is no comma in it. -/
theorem check_item_eq_ok_iff {item : String} : checkItem item = .ok () ↔ ',' ∉ item.toList := by
  simp [checkItem, separator]

/-- An item fails its check exactly if there is a comma in it, and the failure names the item. -/
theorem check_item_eq_error_iff {item : String} {fault : DocumentError} :
    checkItem item = .error fault ↔
      ',' ∈ item.toList ∧ .invalidChoices (.separator item) = fault := by
  by_cases holds : ',' ∈ item.toList <;> simp [checkItem, separator, holds]

/-- All items pass their checks exactly if there is no comma in any of them. -/
theorem check_items_eq_ok_iff {items : List String} :
    forM items checkItem = .ok () ↔ ∀ item ∈ items, ',' ∉ item.toList := by
  induction items with
  | nil => simp [pure, Except.pure]
  | cons item items ih =>
      rw [List.forM_cons, bind_eq_ok_iff, ih, List.forall_mem_cons, ← check_item_eq_ok_iff]
      exact ⟨fun ⟨_, first, rest⟩ => ⟨first, rest⟩, fun ⟨first, rest⟩ => ⟨(), first, rest⟩⟩

/-- A list passes the check of its length exactly if it is written in at most 255 characters. -/
theorem check_length_eq_ok_iff {items : List String} :
    checkLength items = .ok () ↔ (⟨items⟩ : Choices).serialized.length ≤ 255 := by
  by_cases long : 255 < length items <;> simp [checkLength, length_serialized, choicesLimit, long]
  omega

/-- A list fails the check of its length exactly if it is written in more than 255 characters, and
the failure names how many. -/
theorem check_length_eq_error_iff {items : List String} {fault : DocumentError} :
    checkLength items = .error fault ↔
      255 < (⟨items⟩ : Choices).serialized.length ∧
        .choicesTooLong (⟨items⟩ : Choices).serialized.length = fault := by
  by_cases long : 255 < length items <;> simp [checkLength, length_serialized, choicesLimit, long]

/-- The ways to come by a list. -/
inductive Made : Choices → Prop
  | empty : Made empty
  | items {items : List String} {choices : Choices} :
      ofItems items = .ok choices → Made choices
  | formula {text : String} {choices : Choices} : parse text = .ok choices → Made choices

/-- The empty list can be written. -/
theorem writable_empty : Writable empty where
  unseparated := by simp [empty]
  short := by decide

/-- A list is made of items exactly if it can be written. -/
theorem of_items_eq_ok_iff {items : List String} {choices : Choices} :
    ofItems items = .ok choices ↔ Writable ⟨items⟩ ∧ ⟨items⟩ = choices := by
  constructor
  · intro h
    obtain ⟨_, unseparated, rest⟩ := bind_eq_ok_iff.mp h
    obtain ⟨_, short, made⟩ := bind_eq_ok_iff.mp rest
    cases made
    exact ⟨⟨check_items_eq_ok_iff.mp unseparated, check_length_eq_ok_iff.mp short⟩, rfl⟩
  · rintro ⟨writable, rfl⟩
    exact bind_eq_ok_iff.mpr ⟨(), check_items_eq_ok_iff.mpr writable.unseparated,
      bind_eq_ok_iff.mpr ⟨(), check_length_eq_ok_iff.mpr writable.short, rfl⟩⟩

/-- A list made of items can be written. -/
theorem writable_of_items {items : List String} {choices : Choices}
    (h : ofItems items = .ok choices) : Writable choices := by
  obtain ⟨writable, rfl⟩ := of_items_eq_ok_iff.mp h
  exact writable

/-- A list read from a formula can be written. -/
theorem writable_of_parse {text : String} {choices : Choices} (h : parse text = .ok choices) :
    Writable choices := by
  unfold parse at h
  split at h
  · cases h
  · split at h
    · cases h
    · dsimp only at h
      split at h
      · cases h
        exact writable_empty
      · exact writable_of_items h

/-- However it was made, a list can be written. -/
theorem Made.writable {choices : Choices} (made : Made choices) : Writable choices := by
  cases made with
  | empty => exact writable_empty
  | items h => exact writable_of_items h
  | formula h => exact writable_of_parse h

/-! ## Changes -/

/-- A change of a list. -/
inductive Change where
  | push (item : String)
  | insert (index : Nat) (item : String)
  | set (index : Nat) (item : String)
  | remove (index : Nat)
  | clear
  deriving DecidableEq, Repr

/-- The item that a change brings into the list. -/
def Change.item? : Change → Option String
  | push item | insert _ item | set _ item => some item
  | remove _ | clear => none

/-- What a change makes of the items, and the item that it gives back. All items but the addressed
one stay, in their order. -/
inductive Alters : Change → List String → Option String → List String → Prop
  | push {items : List String} {item : String} : Alters (.push item) items none (items ++ [item])
  | insert {front back : List String} {item : String} :
      Alters (.insert front.length item) (front ++ back) none (front ++ item :: back)
  | set {front back : List String} {old item : String} :
      Alters (.set front.length item) (front ++ old :: back) (some old) (front ++ item :: back)
  | remove {front back : List String} {old : String} :
      Alters (.remove front.length) (front ++ old :: back) (some old) (front ++ back)
  | clear {items : List String} : Alters .clear items none []

/-- Why a change is refused: there is no such index, the item holds a comma, or the list would be
too long with it. -/
inductive Refused : Change → List String → DocumentError → Prop
  | insertIndex {items : List String} {index : Nat} {item : String} : items.length < index →
      Refused (.insert index item) items (.choiceOutOfBounds index items.length)
  | setIndex {items : List String} {index : Nat} {item : String} : items.length ≤ index →
      Refused (.set index item) items (.choiceOutOfBounds index items.length)
  | removeIndex {items : List String} {index : Nat} : items.length ≤ index →
      Refused (.remove index) items (.choiceOutOfBounds index items.length)
  | separator {change : Change} {items : List String} {item : String} :
      change.item? = some item → ',' ∈ item.toList →
      Refused change items (.invalidChoices (.separator item))
  | length {change : Change} {items after : List String} {answer : Option String} :
      Alters change items answer after → 255 < (⟨after⟩ : Choices).serialized.length →
      Refused change items (.choicesTooLong (⟨after⟩ : Choices).serialized.length)

/-- An item that a list has after a change was there before, or the change brought it. -/
theorem Alters.mem {change : Change} {before after : List String} {answer : Option String}
    {item : String} (alters : Alters change before answer after) (h : item ∈ after) :
    item ∈ before ∨ change.item? = some item := by
  cases alters with
  | push | insert | set | remove =>
      simp only [List.mem_append, List.mem_cons, List.not_mem_nil, Change.item?,
        Option.some.injEq] at h ⊢
      grind
  | clear => cases h

/-! ## Changes in place -/

/-- A computation that changes a list in place and that may be refused. What is refused still leaves
a list behind. -/
abbrev Editing := ExceptT DocumentError (StateM Choices)

/-- What a computation comes to with a list, with the list that it leaves. -/
def Editing.outcome {α : Type} (editing : Editing α) (choices : Choices) :
    Except DocumentError α × Choices :=
  editing.run.run choices

/-- Goes on if a check passes. -/
def checked (check : Except DocumentError Unit) : Editing Unit :=
  ExceptT.mk (pure check)

/-- Changes a copy of the items, which replaces them only if it fits. -/
def changeCopy {α : Type} (change : List String → α × List String) : Editing α := do
  let (answer, copy) := change (← get).items
  checked (checkLength copy)
  MonadState.set (⟨copy⟩ : Choices)
  return answer

/-- Puts an item before the one at an index, or at the end. -/
def insertInPlace (index : Nat) (item : String) : Editing Unit := do
  let count := (← get).items.length
  if count < index then
    throw (.choiceOutOfBounds index count)
  checked (checkItem item)
  changeCopy fun items => ((), items.insertIdx index item)

/-- Puts an item at the end. -/
def pushInPlace (item : String) : Editing Unit := do
  insertInPlace (← get).items.length item

/-- Exchanges the item at an index and gives the old one. -/
def setInPlace (index : Nat) (item : String) : Editing String := do
  let count := (← get).items.length
  if count ≤ index then
    throw (.choiceOutOfBounds index count)
  checked (checkItem item)
  changeCopy fun items => (items[index]?.getD "", items.set index item)

/-- Takes out the item at an index. Nothing is checked afterwards: a list only gets shorter. -/
def removeInPlace (index : Nat) : Editing String := do
  let items := (← get).items
  if items.length ≤ index then
    throw (.choiceOutOfBounds index items.length)
  MonadState.set (⟨items.eraseIdx index⟩ : Choices)
  return items[index]?.getD ""

/-- Takes out all items. -/
def clearInPlace : Editing Unit :=
  MonadState.set empty

/-- Makes a change in place. -/
def perform : Change → Editing (Option String)
  | .push item => do pushInPlace item; return none
  | .insert index item => do insertInPlace index item; return none
  | .set index item => return some (← setInPlace index item)
  | .remove index => return some (← removeInPlace index)
  | .clear => do clearInPlace; return none

/-! ## A change in place and the list it makes -/

section Outcome

variable {α β : Type} {choices : Choices}

/-- Looking at a list gives the list and leaves it as it is. -/
theorem outcome_get : (get : Editing Choices).outcome choices = (.ok choices, choices) := rfl

/-- Replacing a list leaves the new one. -/
theorem outcome_set (after : Choices) :
    (MonadState.set after : Editing Unit).outcome choices = (.ok (), after) := rfl

/-- A check leaves the list as it is, whether it passes or fails. -/
theorem outcome_checked (check : Except DocumentError Unit) :
    (checked check).outcome choices = (check, choices) := rfl

/-- What goes on from a list may be judged at that list. -/
theorem outcome_get_bind (goOn : Choices → Editing β) :
    (get >>= goOn).outcome choices = (goOn choices).outcome choices := rfl

/-- Of two steps in a row the second one starts from the list that the first one leaves, and a
failure of the first one ends both. -/
theorem outcome_bind (first : Editing α) (goOn : α → Editing β) :
    (first >>= goOn).outcome choices =
      match first.outcome choices with
      | (.ok answer, next) => (goOn answer).outcome next
      | (.error fault, next) => (.error fault, next) := by
  unfold Editing.outcome ExceptT.run StateT.run
  simp only [bind, ExceptT.bind, ExceptT.mk, StateT.bind, ExceptT.bindCont]
  cases first choices with
  | mk result next => cases result <;> rfl

end Outcome

/-- The list that a change makes of another, and the item that it gives back. -/
def changed : Change → Choices → Except DocumentError (Option String × Choices)
  | .push item, choices => (choices.push item).map fun after => (none, after)
  | .insert index item, choices => (choices.insert index item).map fun after => (none, after)
  | .set index item, choices => (choices.set index item).map fun (old, after) => (some old, after)
  | .remove index, choices => (choices.remove index).map fun (old, after) => (some old, after)
  | .clear, _ => .ok (none, empty)

/-- A list with a result to write to it: the list stays where there is none. -/
def settled {α : Type} (choices : Choices) :
    Except DocumentError (α × Choices) → Except DocumentError α × Choices
  | .ok (answer, after) => (.ok answer, after)
  | .error fault => (.error fault, choices)

/-- An item is checked, then a copy is changed: what becomes of the list. -/
theorem outcome_checked_copy {α : Type} (choices : Choices) (item : String)
    (change : List String → α × List String) :
    (checked (checkItem item) >>= fun _ => changeCopy change).outcome choices =
      settled choices (do
        checkItem item
        let after ← replaceItems (change choices.items).2
        return ((change choices.items).1, after)) := by
  cases item_checked : checkItem item with
  | error fault => simp only [outcome_bind, outcome_checked]; rfl
  | ok =>
      cases length_checked : checkLength (change choices.items).2 with
      | error fault =>
          simp only [changeCopy, replaceItems, outcome_bind, outcome_checked, outcome_get,
            length_checked]
          rfl
      | ok =>
          simp only [changeCopy, replaceItems, outcome_bind, outcome_checked, outcome_get,
            outcome_set, length_checked]
          rfl

/-- Inserting an item puts it between the items before its place and those behind it. -/
theorem insert_idx_eq {items : List String} {index : Nat} (item : String)
    (h : index ≤ items.length) :
    items.insertIdx index item = items.take index ++ item :: items.drop index := by
  induction items generalizing index with
  | nil => cases Nat.le_zero.mp h; rfl
  | cons first rest ih =>
      cases index with
      | zero => rfl
      | succ index =>
          rw [List.insertIdx_succ_cons, ih (Nat.le_of_succ_le_succ h)]
          rfl

/-- Inserting in place comes to what inserting into a copy comes to, and a refusal
leaves the list. -/
theorem outcome_insert (choices : Choices) (index : Nat) (item : String) :
    (insertInPlace index item).outcome choices =
      settled choices ((choices.insert index item).map fun after => ((), after)) := by
  unfold insertInPlace Choices.insert
  by_cases outside : choices.items.length < index
  · rw [outcome_get_bind, if_pos outside, if_pos outside]
    rfl
  · rw [outcome_get_bind, if_neg outside, if_neg outside]
    show Editing.outcome (checked (checkItem item) >>= fun _ => changeCopy _) choices = _
    rw [outcome_checked_copy, insert_idx_eq item (Nat.le_of_not_lt outside)]
    cases checkItem item with
    | error fault => rfl
    | ok => cases replaceItems _ <;> rfl

/-- Setting in place comes to what setting in a copy comes to, and a refusal leaves the list. -/
theorem outcome_set_in_place (choices : Choices) (index : Nat) (item : String) :
    (setInPlace index item).outcome choices = settled choices (choices.set index item) := by
  unfold setInPlace Choices.set
  by_cases outside : choices.items.length ≤ index
  · rw [outcome_get_bind, if_pos outside, List.getElem?_eq_none outside]
    rfl
  · rw [outcome_get_bind, if_neg outside, List.getElem?_eq_getElem (Nat.lt_of_not_le outside)]
    show Editing.outcome (checked (checkItem item) >>= fun _ => changeCopy _) choices = _
    rw [outcome_checked_copy, List.getElem?_eq_getElem (Nat.lt_of_not_le outside)]
    rfl

/-- Removing in place comes to what removing from a copy comes to, and a refusal leaves the list. -/
theorem outcome_remove (choices : Choices) (index : Nat) :
    (removeInPlace index).outcome choices = settled choices (choices.remove index) := by
  unfold removeInPlace Choices.remove
  by_cases outside : choices.items.length ≤ index
  · rw [outcome_get_bind, if_pos outside, List.getElem?_eq_none outside]
    rfl
  · rw [outcome_get_bind, if_neg outside, List.getElem?_eq_getElem (Nat.lt_of_not_le outside)]
    rfl

/-- A change in place writes the list that the change makes, or nothing. -/
theorem outcome_perform (change : Change) (choices : Choices) :
    (perform change).outcome choices = settled choices (changed change choices) := by
  cases change with
  | push item =>
      show Editing.outcome (insertInPlace choices.items.length item >>= fun _ => pure none) _ = _
      rw [outcome_bind, outcome_insert]
      dsimp only [changed, push]
      cases choices.insert choices.items.length item <;> rfl
  | insert index item =>
      show Editing.outcome (insertInPlace index item >>= fun _ => pure none) _ = _
      rw [outcome_bind, outcome_insert]
      dsimp only [changed]
      cases choices.insert index item <;> rfl
  | set index item =>
      show Editing.outcome (setInPlace index item >>= fun old => pure (some old)) _ = _
      rw [outcome_bind, outcome_set_in_place]
      dsimp only [changed]
      cases choices.set index item <;> rfl
  | remove index =>
      show Editing.outcome (removeInPlace index >>= fun old => pure (some old)) _ = _
      rw [outcome_bind, outcome_remove]
      dsimp only [changed]
      cases choices.remove index <;> rfl
  | clear => rfl

/-! ## What a change does -/

/-- What is said of a change that has come to something: the list it makes can be written if the old
one can, or there is a reason to refuse it. -/
def Answers (change : Change) (choices : Choices) :
    Except DocumentError (Option String × Choices) → Prop
  | .ok (answer, after) =>
    Alters change choices.items answer after.items ∧ (Writable choices → Writable after)
  | .error fault => Refused change choices.items fault

/-- A change that brings an item alters the list as it should, or is refused for the item or for the
length. -/
theorem answers_replaced {change : Change} {choices : Choices} {item : String}
    {answer : Option String} {items : List String} (brings : change.item? = some item)
    (alters : Alters change choices.items answer items) :
    Answers change choices ((do checkItem item; replaceItems items).map (answer, ·)) := by
  cases item_checked : checkItem item with
  | error fault =>
      obtain ⟨separated, rfl⟩ := check_item_eq_error_iff.mp item_checked
      exact .separator brings separated
  | ok =>
      have unseparated := check_item_eq_ok_iff.mp item_checked
      cases length_checked : checkLength items with
      | error fault =>
          obtain ⟨long, rfl⟩ := check_length_eq_error_iff.mp length_checked
          simp only [replaceItems, length_checked]
          exact .length alters long
      | ok =>
          simp only [replaceItems, length_checked]
          refine ⟨alters, fun writable => ⟨fun other among => ?_, ?_⟩⟩
          · obtain old | new := alters.mem among
            · exact writable.unseparated other old
            · cases brings.symm.trans new
              exact unseparated
          · exact check_length_eq_ok_iff.mp length_checked

/-- Inserting an item does what it should or is refused for a reason. -/
theorem answers_insert (choices : Choices) (index : Nat) (item : String) :
    Answers (.insert index item) choices
      ((choices.insert index item).map fun after => (none, after)) := by
  unfold Choices.insert
  by_cases outside : choices.items.length < index
  · rw [if_pos outside]
    exact .insertIndex outside
  · rw [if_neg outside]
    have inside := Nat.le_of_not_lt outside
    have alters : Alters (.insert (choices.items.take index).length item)
        (choices.items.take index ++ choices.items.drop index) none _ := .insert
    rw [List.length_take_of_le inside, List.take_append_drop] at alters
    exact answers_replaced rfl alters

/-- Appending an item does what it should or is refused for a reason. -/
theorem answers_push (choices : Choices) (item : String) :
    Answers (.push item) choices ((choices.push item).map fun after => (none, after)) := by
  unfold push Choices.insert
  rw [if_neg (Nat.lt_irrefl _), List.take_length, List.drop_length]
  exact answers_replaced rfl .push

/-- The items before and after an index. -/
theorem split_at_index {items : List String} {index : Nat} {item : String}
    (h : items[index]? = some item) :
    ∃ front back, front ++ item :: back = items ∧ front.length = index := by
  obtain ⟨inside, rfl⟩ := List.getElem?_eq_some_iff.mp h
  refine ⟨items.take index, items.drop (index + 1), ?_, ?_⟩
  · rw [List.getElem_cons_drop, List.take_append_drop]
  · rw [List.length_take_of_le (Nat.le_of_lt inside)]

/-- Without one of its items a list is no longer than with it. -/
theorem writable_without {front back : List String} {item : String}
    (writable : Writable ⟨front ++ item :: back⟩) : Writable ⟨front ++ back⟩ where
  unseparated other among := by
    refine writable.unseparated other ?_
    rw [List.mem_append] at among ⊢
    exact among.imp_right (List.mem_cons_of_mem _)
  short := by
    have short := writable.short
    rw [length_serialized, length_eq] at short ⊢
    simp at short ⊢
    omega

/-- Setting an item does what it should or is refused for a reason. -/
theorem answers_set (choices : Choices) (index : Nat) (item : String) :
    Answers (.set index item) choices
      ((choices.set index item).map fun (old, after) => (some old, after)) := by
  unfold Choices.set
  cases at_index : choices.items[index]? with
  | none => exact .setIndex (List.getElem?_eq_none_iff.mp at_index)
  | some old =>
      obtain ⟨front, back, split, rfl⟩ := split_at_index at_index
      have alters : Alters (.set front.length item) choices.items (some old)
          (choices.items.set front.length item) := by
        rw [← split, List.set_append_right _ _ (Nat.le_refl _), Nat.sub_self]
        exact .set
      have answers := answers_replaced rfl alters
      cases item_checked : checkItem item with
      | error fault => rwa [item_checked] at answers
      | ok =>
          rw [item_checked] at answers
          cases replaced : replaceItems (choices.items.set front.length item) <;>
            simp only [replaced] at answers ⊢ <;> exact answers

/-- Removing an item does what it should or is refused for a reason. -/
theorem answers_remove (choices : Choices) (index : Nat) :
    Answers (.remove index) choices
      ((choices.remove index).map fun (old, after) => (some old, after)) := by
  unfold remove
  cases at_index : choices.items[index]? with
  | none => exact .removeIndex (List.getElem?_eq_none_iff.mp at_index)
  | some old =>
      obtain ⟨items⟩ := choices
      obtain ⟨front, back, rfl, rfl⟩ := split_at_index at_index
      have left : (front ++ old :: back).eraseIdx front.length = front ++ back := by
        rw [List.eraseIdx_append_of_length_le (Nat.le_refl _), Nat.sub_self]
        rfl
      dsimp only
      rw [left]
      exact ⟨.remove, writable_without⟩

/-- A change alters the addressed item only, or there is a reason to refuse it. -/
theorem answers_changed (change : Change) (choices : Choices) :
    Answers change choices (changed change choices) := by
  cases change with
  | push item => exact answers_push choices item
  | insert index item => exact answers_insert choices index item
  | set index item => exact answers_set choices index item
  | remove index => exact answers_remove choices index
  | clear => exact ⟨.clear, fun _ => writable_empty⟩

/-! ## Histories -/

/-- The list after some changes in place, of which any may have been refused. -/
def after (history : List Change) (choices : Choices) : Choices :=
  history.foldl (fun choices change => ((perform change).outcome choices).2) choices

/-- A change of this list in place alters the addressed item only, or it is refused for a reason and
leaves the list as it is. -/
def Atomic (choices : Choices) : Prop :=
  ∀ change, match (perform change).outcome choices with
    | (.ok answer, after) => Alters change choices.items answer after.items
    | (.error fault, left) => left = choices ∧ Refused change choices.items fault

/-- Every list is changed wholly or not at all. -/
theorem atomic (choices : Choices) : Atomic choices := by
  intro change
  have answers := answers_changed change choices
  rw [outcome_perform]
  cases result : changed change choices with
  | error fault => rw [result] at answers; exact ⟨rfl, answers⟩
  | ok answer => rw [result] at answers; exact answers.1

/-- A change in place, made or refused, leaves a list that can be written. -/
theorem Writable.outcome {choices : Choices} (writable : Writable choices) (change : Change) :
    Writable ((perform change).outcome choices).2 := by
  have answers := answers_changed change choices
  rw [outcome_perform]
  cases result : changed change choices with
  | error fault => exact writable
  | ok answer => rw [result] at answers; exact answers.2 writable

/-- A list that can be written still can after any changes, made or refused. -/
theorem Writable.after {choices : Choices} (writable : Writable choices) (history : List Change) :
    Writable (after history choices) := by
  induction history generalizing choices with
  | nil => exact writable
  | cons change history ih => exact ih (writable.outcome change)

/-- After any changes of any list, made or refused, the list can be written, and the next change is
made wholly or not at all. -/
theorem history_writable_and_atomic {choices : Choices} (made : Made choices)
    (history : List Change) :
    Writable (after history choices) ∧ Atomic (after history choices) :=
  ⟨made.writable.after history, atomic _⟩

/-- A list read from a formula goes through two changes that are made and two that are refused. -/
theorem history_writable_and_atomic_of_formula :
    parse "\"Yes,No\"" = .ok ⟨["Yes", "No"]⟩ ∧
      after [.push "Maybe", .set 5 "Never", .insert 0 "a,b", .remove 1] ⟨["Yes", "No"]⟩
        = ⟨["Yes", "Maybe"]⟩ ∧
      Writable ⟨["Yes", "Maybe"]⟩ ∧ Atomic ⟨["Yes", "Maybe"]⟩ :=
  have parsed : parse "\"Yes,No\"" = .ok ⟨["Yes", "No"]⟩ := by rfl
  ⟨parsed, by decide, history_writable_and_atomic (.formula parsed)
    [.push "Maybe", .set 5 "Never", .insert 0 "a,b", .remove 1]⟩

end Spreadsheet.Choices
