import Spreadsheet.Evaluation.Evaluate
import Spreadsheet.Formula.Parser
import Spreadsheet.Proofs.Results

/-!
# Aggregates of arrays

An array may hold arrays. Counting goes down to the single values in them, while sums, products,
averages and extremes take what the operands hold themselves, and pass over arrays in it. The main
theorem, `aggregates_of_arrays`, says which numbers each of them sees, and that they see the same
exactly if inner arrays hold no numbers, and no error value that would come first.
-/

namespace Spreadsheet

/-! ## The single values of arrays -/

namespace Value

/-- The amount of a number. -/
def number? : Value → Option Float
  | number amount => some amount
  | _ => none

/-- Whether the value is an array. -/
def isArray : Value → Bool
  | array _ => true
  | _ => false

/-- A value gives a number exactly if it is one. -/
theorem is_some_number (value : Value) : value.number?.isSome = value.isNumber := by
  cases value <;> rfl

mutual

/-- What is found in a value stands before what was found earlier. -/
theorem flatten_onto_eq (value : Value) (found : List Value) :
    value.flattenOnto found = value.flattenOnto [] ++ found := by
  cases value with
  | array rows =>
      rw [flattenOnto, flattenOnto]
      exact rows_onto_eq rows found
  | empty | number | text | logical | error => rfl

/-- What is found in the rows of an array stands before what was found earlier. -/
theorem rows_onto_eq (rows : List (List Value)) (found : List Value) :
    rowsOnto rows found = rowsOnto rows [] ++ found := by
  cases rows with
  | nil => rfl
  | cons row rest =>
      rw [rowsOnto, rowsOnto, rows_onto_eq rest, row_onto_eq row found,
        rows_onto_eq rest (rowOnto row []), List.append_assoc]

/-- What is found in one row of an array stands before what was found earlier. -/
theorem row_onto_eq (row : List Value) (found : List Value) :
    rowOnto row found = rowOnto row [] ++ found := by
  cases row with
  | nil => rfl
  | cons value rest =>
      rw [rowOnto, rowOnto, row_onto_eq rest, flatten_onto_eq value found,
        row_onto_eq rest (flattenOnto value []), List.append_assoc]

end

/-- A row is taken apart element by element, in order. -/
theorem reverse_row_onto (row : List Value) : (rowOnto row []).reverse = row.flatMap flatten := by
  induction row with
  | nil => rfl
  | cons value rest ih =>
      rw [rowOnto, row_onto_eq, List.reverse_append, ih]
      rfl

/-- An array is taken apart element by element, row by row. -/
theorem reverse_rows_onto (rows : List (List Value)) :
    (rowsOnto rows []).reverse = rows.flatten.flatMap flatten := by
  induction rows with
  | nil => rfl
  | cons row rest ih =>
      rw [rowsOnto, rows_onto_eq, List.reverse_append, ih, reverse_row_onto, List.flatten_cons,
        List.flatMap_append]

/-- The single values of an array are those of its elements, row by row. -/
theorem flatten_array (rows : List (List Value)) :
    (array rows).flatten = rows.flatten.flatMap flatten := by
  rw [flatten, flattenOnto, reverse_rows_onto]

/-- A value that is no array is taken apart into itself. -/
theorem flatten_single {value : Value} (h : value.isArray = false) : value.flatten = [value] := by
  cases value with
  | array rows => cases h
  | empty | number | text | logical | error => rfl

end Value

namespace Builtin

/-! ## Aggregates -/

/-- A function that joins numbers. -/
inductive Aggregate where
  | sum
  | product
  | average
  | minimum
  | maximum
  deriving DecidableEq, Repr

namespace Aggregate

/-- The function on its operands. -/
def apply : Aggregate → List Value → Result
  | sum => Builtin.sum
  | product => Builtin.product
  | average => Builtin.average
  | minimum => Builtin.minimum
  | maximum => Builtin.maximum

/-- What the numbers are joined to. -/
def join : Aggregate → List Float → Result
  | sum, amounts => .ok (.number (total amounts))
  | product, amounts => .ok (.number (fold (· * ·) amounts))
  | average, amounts =>
    if amounts.isEmpty then .error .divisionByZero
    else .ok (.number (total amounts / Float.ofNat amounts.length))
  | minimum, amounts => .ok (.number (fold Number.smaller amounts))
  | maximum, amounts => .ok (.number (fold Number.larger amounts))

/-- All that aggregates take from their operands is numbers. -/
theorem apply_eq (aggregate : Aggregate) (operands : List Value) :
    aggregate.apply operands = numbers operands >>= aggregate.join := by
  cases aggregate with
  | average =>
      refine bind_congr_of_ok fun amounts _ => ?_
      cases amounts <;> rfl
  | sum | product | minimum | maximum => rfl

end Aggregate

/-! ## The numbers that are seen -/

/-- The numbers among values; the first error value among them takes their place. -/
def seen (values : List Value) : Except ErrorValue (List Float) :=
  match values.findSome? Value.error? with
  | some fault => .error fault
  | none => .ok (values.filterMap Value.number?)

/-- The numbers seen of two lists in a row are the numbers of the first and then those of the
second, and an error of the first one wins. -/
theorem seen_append (left right : List Value) :
    seen (left ++ right) = do
      let first ← seen left
      let others ← seen right
      return first ++ others := by
  unfold seen
  rw [List.findSome?_append, List.filterMap_append]
  cases left.findSome? Value.error? with
  | some fault => rfl
  | none => cases right.findSome? Value.error? <;> rfl

/-- Reading items one after the other sees what is seen in each. -/
theorem read_eq_seen {α : Type} {read : α → Except ErrorValue (List Float)}
    {values : α → List Value} (h : ∀ item, read item = seen (values item)) (items : List α) :
    (do return (← items.mapM read).flatten) = seen (items.flatMap values) := by
  induction items with
  | nil => rfl
  | cons item rest ih =>
      rw [List.flatMap_cons, seen_append, ← ih, ← h, List.mapM_cons]
      cases read item with
      | error fault => rfl
      | ok first => cases rest.mapM read <;> rfl

/-- The numbers of an array as an operand are those seen of its elements. -/
theorem operand_numbers_array (rows : List (List Value)) :
    operandNumbers (.array rows) = seen rows.flatten := by
  have helement : ∀ value, elementNumbers value = seen [value] := by
    intro value
    cases value <;> rfl
  have hread := read_eq_seen helement rows.flatten
  rwa [List.flatMap_singleton'] at hread

/-- In arrays aggregates see what these hold themselves, row by row. -/
theorem numbers_arrays (tables : List (List (List Value))) :
    numbers (tables.map .array) = seen tables.flatten.flatten := by
  have hread := read_eq_seen operand_numbers_array tables
  rw [numbers, List.mapM_map]
  rw [List.flatMap_def, ← List.flatten_flatten] at hread
  exact hread

/-- Arrays as operands contain what their elements contain. -/
theorem contained_arrays (tables : List (List (List Value))) :
    (tables.map Value.array).flatMap Value.flatten =
      tables.flatten.flatten.flatMap Value.flatten := by
  induction tables with
  | nil => rfl
  | cons rows rest ih =>
      rw [List.map_cons, List.flatMap_cons, ih, Value.flatten_array, List.flatten_cons,
        List.flatten_append, List.flatMap_append]

/-! ## What inner arrays hold -/

/-- Inner arrays hold no numbers. -/
def InnerWithoutNumbers (elements : List Value) : Prop :=
  ∀ inner ∈ elements, inner.isArray = true → inner.flatten.filterMap Value.number? = []

/-- An element that is no array adds its own number, if it is one, to the numbers contained. -/
theorem numbers_cons_single {single : Value} (h : single.isArray = false) (rest : List Value) :
    ((single :: rest).flatMap Value.flatten).filterMap Value.number? =
      [single].filterMap Value.number? ++ (rest.flatMap Value.flatten).filterMap Value.number? := by
  rw [List.flatMap_cons, Value.flatten_single h, List.filterMap_append]

/-- An array among the elements adds nothing to the numbers seen. -/
theorem numbers_cons_array {inner : Value} (h : inner.isArray = true) (rest : List Value) :
    (inner :: rest).filterMap Value.number? = rest.filterMap Value.number? := by
  cases inner with
  | array rows => rfl
  | empty | number | text | logical | error => cases h

/-- What elements are themselves comes in the order of all single values in them. -/
theorem numbers_sublist (elements : List Value) :
    (elements.filterMap Value.number?).Sublist
      ((elements.flatMap Value.flatten).filterMap Value.number?) := by
  induction elements with
  | nil => exact List.Sublist.refl _
  | cons element rest ih =>
      cases h : element.isArray with
      | false =>
          rw [numbers_cons_single h, ← List.singleton_append, List.filterMap_append]
          exact ih.append_left _
      | true =>
          rw [numbers_cons_array h, List.flatMap_cons, List.filterMap_append]
          exact ih.trans (List.sublist_append_right _ _)

/-- The numbers seen are all the numbers contained exactly if no inner array contains one. -/
theorem numbers_eq_iff (elements : List Value) :
    elements.filterMap Value.number? = (elements.flatMap Value.flatten).filterMap Value.number? ↔
      InnerWithoutNumbers elements := by
  induction elements with
  | nil => exact iff_of_true rfl nofun
  | cons element rest ih =>
      rw [InnerWithoutNumbers, List.forall_mem_cons, ← InnerWithoutNumbers, ← ih]
      cases h : element.isArray with
      | false =>
          rw [numbers_cons_single h, ← List.singleton_append, List.filterMap_append,
            List.append_cancel_left_eq]
          exact ⟨fun hrest => ⟨nofun, hrest⟩, fun hboth => hboth.2⟩
      | true =>
          rw [numbers_cons_array h, List.flatMap_cons, List.filterMap_append]
          constructor
          · intro hsame
            -- the numbers of the others are as many on both sides, so the array adds none
            have hlength := congrArg List.length hsame
            rw [List.length_append] at hlength
            have hle := (numbers_sublist rest).length_le
            have hnone : element.flatten.filterMap Value.number? = [] :=
              List.length_eq_zero_iff.mp (by omega)
            rw [hnone, List.nil_append] at hsame
            exact ⟨fun _ => hnone, hsame⟩
          · intro hboth
            rw [hboth.1 rfl, List.nil_append]
            exact hboth.2

/-- The aggregates see all that the elements contain exactly if the first error is the same on both
sides and, where there is none, no inner array contains a number. -/
theorem seen_eq_iff (elements : List Value) :
    seen elements = seen (elements.flatMap Value.flatten) ↔
      elements.findSome? Value.error? =
          (elements.flatMap Value.flatten).findSome? Value.error? ∧
        ((elements.flatMap Value.flatten).findSome? Value.error? = none →
          InnerWithoutNumbers elements) := by
  unfold seen
  cases elements.findSome? Value.error? with
  | some fault =>
      cases (elements.flatMap Value.flatten).findSome? Value.error? with
      | some other => simp
      | none => simp
  | none =>
      cases (elements.flatMap Value.flatten).findSome? Value.error? with
      | some other => simp
      | none => simpa using numbers_eq_iff elements

/-- Elements without an array among them are taken apart into themselves. -/
theorem flatten_singles {elements : List Value}
    (h : ∀ element ∈ elements, element.isArray = false) :
    elements.flatMap Value.flatten = elements := by
  have hmap : elements.map Value.flatten = elements.map fun element => [element] :=
    List.map_congr_left fun element helement => Value.flatten_single (h element helement)
  rw [List.flatMap_def, hmap, ← List.flatMap_def, List.flatMap_singleton']

/-- The function `COUNT` counts all the numbers its operands contain, however deep they stand. -/
theorem count_eq (operands : List Value) :
    count operands =
      .ok (ofCount ((operands.flatMap Value.flatten).filterMap Value.number?).length) := by
  rw [count, List.length_filterMap_eq_countP]
  simp only [Value.is_some_number]

/-- Of arrays every aggregate joins the numbers that these hold themselves, row by row, unless one
of their own elements is an error value, the first of which it returns then. `COUNT` counts the
numbers among all values contained in the arrays. The first see what the second counts exactly if
the same error value comes first, and without any, inner arrays hold no numbers; so it is for
arrays of single values. -/
theorem aggregates_of_arrays (tables : List (List (List Value))) :
    let operands := tables.map Value.array
    let elements := tables.flatten.flatten
    let contained := operands.flatMap Value.flatten
    (∀ aggregate : Aggregate, aggregate.apply operands = seen elements >>= aggregate.join) ∧
      count operands = .ok (ofCount (contained.filterMap Value.number?).length) ∧
      (seen elements = seen contained ↔
        elements.findSome? Value.error? = contained.findSome? Value.error? ∧
          (contained.findSome? Value.error? = none → InnerWithoutNumbers elements)) ∧
      ((∀ element ∈ elements, element.isArray = false) →
        ∀ aggregate : Aggregate, aggregate.apply operands = seen contained >>= aggregate.join) := by
  intro operands elements contained
  have hcontained : contained = elements.flatMap Value.flatten := contained_arrays tables
  have happly : ∀ aggregate : Aggregate,
      aggregate.apply operands = seen elements >>= aggregate.join := by
    intro aggregate
    rw [Aggregate.apply_eq, numbers_arrays]
  refine ⟨happly, count_eq operands, ?_, ?_⟩
  · rw [hcontained]
    exact seen_eq_iff elements
  · intro hsingle aggregate
    rw [hcontained, flatten_singles hsingle]
    exact happly aggregate

/-- A sheet with one and two below each other. -/
def columnBook : Workbook :=
  { Workbook.new with
    sheets := [((Worksheet.blank "Sheet1").insert ⟨0, 0⟩ (.number 1.0) ⟨by decide, rfl⟩).insert
      ⟨1, 0⟩ (.number 2.0) ⟨by decide, rfl⟩] }

/-- A range in an array constant is an inner array: its numbers are counted, but not summed. -/
theorem nested_numbers_passed_over :
    ∃ tree operand, Formula.parse "={A1:A2}" = .ok tree ∧
      Evaluation.evaluate (.ofCell columnBook 0 ⟨0, 1⟩ default) tree default = .ok operand ∧
      seen operand.flatten = .ok [1.0, 2.0] ∧ count [operand] = .ok (ofCount 2) ∧
      sum [operand] = .ok (.number (total [])) ∧ total [] ≠ total [1.0, 2.0] := by
  let range := CellRange.ofCorners ⟨0, 0, false, false⟩ ⟨1, 0, false, false⟩
  have htokens : Formula.tokens "={A1:A2}" = .ok [.symbol .leftBrace,
      .cell ⟨0, 0, false, false⟩, .symbol .colon, .cell ⟨1, 0, false, false⟩,
      .symbol .rightBrace] := by rfl
  have hparse : Formula.parse "={A1:A2}" = .ok (.array [[.range none range]]) :=
    bind_eq_ok_iff.mpr ⟨_, htokens, rfl⟩
  have hdiffer : total [] ≠ total [1.0, 2.0] := by
    intro hsame
    have hzero : Number.isZero (total [1.0, 2.0]) = true := hsame ▸ by decide +kernel
    exact absurd hzero (by decide +kernel)
  exact ⟨_, .array [[.array [[.number 1.0], [.number 2.0]]]], hparse, rfl, rfl, rfl, rfl, hdiffer⟩

end Builtin

end Spreadsheet
