import Spreadsheet.Proofs.Lookup.Materialized

/-!
# Objections

The functions that look a value up check their operands before they look anything up, each in an
order of its own, and end with the first objection. `finder_lawful` says so of all of them. It also
says that operands in cells are the same to them as operands that are values, but for their tables.
-/

namespace Spreadsheet.Builtin

open Lookup (Direction Source Hit LookupError MatchMode)

/-! ## What the functions object to -/

/-- Why there is no result. -/
def objection {α : Type} : Except LookupError α → Option LookupError
  | .error failure => some failure
  | .ok _ => none

/-- Why a value cannot be looked for. -/
def unsought : Value → Option LookupError
  | .error fault => some (.cell fault)
  | .array _ => some (.cell .value)
  | _ => none

/-- A function that looks a value up. -/
structure Finder where
  name : String
  /-- The operands of which it takes a single value each. -/
  singles : List Nat
  /-- What it may object to its operands, in the order in which it checks them. -/
  objections : Context → List Operand → List (Option LookupError)

/-- The number of the result is checked first, and the value to look for last. Whether steps lead to
the result is found out between them. -/
def tableObjections (context : Context) (operands : List Operand) : List (Option LookupError) :=
  let number := coerced (resultNumber ((valueAt context operands 2).getD .empty))
  [objection (operandAt operands 1),
   objection number,
   objection (approximateAt context operands 3),
   objection (number >>= resultIndex),
   unsought ((valueAt context operands 0).getD .empty)]

/-- The mode is checked before the keys, and the value to look for last. -/
def positionObjections (context : Context) (operands : List Operand) : List (Option LookupError) :=
  [objection (modeAt context operands 2),
   objection (operandAt operands 1 >>= vector),
   unsought ((valueAt context operands 0).getD .empty)]

/-- Only the value to look for is checked. -/
def vectorObjections (context : Context) (operands : List Operand) : List (Option LookupError) :=
  [objection (operandAt operands 1), unsought ((valueAt context operands 0).getD .empty)]

/-- The functions that look a value up. -/
def finders : List Finder :=
  [⟨"VLOOKUP", [0, 2, 3], tableObjections⟩, ⟨"HLOOKUP", [0, 2, 3], tableObjections⟩,
   ⟨"MATCH", [0, 2], positionObjections⟩, ⟨"LOOKUP", [0], vectorObjections⟩]

/-- The first objection of a function. -/
def Finder.refusal (finder : Finder) (context : Context) (operands : List Operand) :
    Option LookupError :=
  (finder.objections context operands).findSome? id

/-- Operands from an index on, of which some single values may be other operands with these
values. -/
inductive SameValues (context : Context) (singles : List Nat) :
    (index : Nat) → (operands others : List Operand) → Prop
  | nil {index : Nat} : SameValues context singles index [] []
  | same {index : Nat} {operands others : List Operand} (operand : Operand) :
      SameValues context singles (index + 1) operands others →
      SameValues context singles index (operand :: operands) (operand :: others)
  | single {index : Nat} {operand other : Operand} {operands others : List Operand} :
      index ∈ singles → context.operandValue other = context.operandValue operand →
      SameValues context singles (index + 1) operands others →
      SameValues context singles index (operand :: operands) (other :: others)

section SameValues

variable {context : Context} {singles : List Nat} {index : Nat} {operands others : List Operand}

/-- Operands with the same values have the same value at each place. -/
theorem SameValues.value_at (h : SameValues context singles index operands others) (place : Nat) :
    valueAt context others place = valueAt context operands place := by
  induction h generalizing place with
  | nil => rfl
  | same operand rest ih =>
      cases place with
      | zero => rfl
      | succ place => exact ih place
  | single among value rest ih =>
      cases place with
      | zero => exact congrArg some value
      | succ place => exact ih place

/-- An operand that is not taken for a single value is the same one. -/
theorem SameValues.operand_at (h : SameValues context singles index operands others) {place : Nat}
    (table : index + place ∉ singles) : others[place]? = operands[place]? := by
  induction h generalizing place with
  | nil => rfl
  | same operand rest ih =>
      cases place with
      | zero => rfl
      | succ place =>
          refine ih ?_
          rwa [Nat.add_assoc, Nat.add_comm 1]
  | single among value rest ih =>
      cases place with
      | zero => exact absurd among table
      | succ place =>
          refine ih ?_
          rwa [Nat.add_assoc, Nat.add_comm 1]

/-- Whether an operand is missing depends on what stands at its place only. -/
theorem operand_at_congr {place : Nat} (h : others[place]? = operands[place]?) :
    operandAt others place = operandAt operands place := by
  rw [operandAt, h, operandAt]

end SameValues

/-! ## What a function does with its operands -/

/-- What holds of a function that looks a value up: it does not tell operands with one value apart,
it ends with its first objection, and it does object to an error value. -/
structure Finder.Lawful (finder : Finder)
    (apply : Context → List Operand → Except LookupError Value) : Prop where
  alike {context : Context} {operands others : List Operand} :
    SameValues context finder.singles 0 operands others →
      apply context others = apply context operands ∧
        finder.refusal context others = finder.refusal context operands
  refuses {context : Context} {operands : List Operand} {failure : LookupError} :
    finder.refusal context operands = some failure → apply context operands = .error failure
  notices {context : Context} {operands : List Operand} {place : Nat} {fault : ErrorValue} :
    place ∈ finder.singles → valueAt context operands place = some (.error fault) →
      (finder.refusal context operands).isSome

section Refusal

variable {context : Context} {operands others : List Operand}

/-- The first objection ends what is done step by step. -/
theorem bind_refused {α : Type} {result : Except LookupError α}
    {next : α → Except LookupError Value} {objections : List (Option LookupError)}
    {failure : LookupError} (h : (objection result :: objections).findSome? id = some failure)
    (hnext : ∀ found, result = .ok found → objections.findSome? id = some failure →
      next found = .error failure) : (result >>= next) = .error failure := by
  cases result with
  | ok found => exact hnext found rfl h
  | error other =>
      obtain rfl : other = failure := Option.some.inj h
      rfl

/-- A value that cannot be looked for is refused before anything is compared. -/
theorem look_up_refused {keys : Source × Direction} {value : Value} {index : Nat}
    {approximate : Bool} {mode : MatchMode} {answer : Hit → Except LookupError Value}
    {failure : LookupError} (h : [unsought value].findSome? id = some failure) :
    lookUp context keys value index approximate mode answer = .error failure := by
  cases value <;> cases h <;> rfl

/-- A function that has an objection refuses its operands. -/
theorem refusal_of_mem {finder : Finder} (failure : LookupError)
    (h : some failure ∈ finder.objections context operands) :
    (finder.refusal context operands).isSome :=
  List.findSome?_isSome_iff.mpr ⟨_, h, rfl⟩

/-- A lookup in a table refuses its operands for its first objection, and cannot tell single values
apart that are equal. -/
theorem table_lookup_lawful (along : Direction) (name : String) :
    (⟨name, [0, 2, 3], tableObjections⟩ : Finder).Lawful (tableLookup along) where
  alike h := by
    have keys := operand_at_congr (h.operand_at (by simp : 0 + 1 ∉ [0, 2, 3]))
    constructor
    · simp only [table_lookup_eq, approximateAt, keys, h.value_at]
    · simp only [Finder.refusal, tableObjections, approximateAt, keys, h.value_at]
  refuses h := by
    rw [table_lookup_eq]
    refine bind_refused h fun keys _ h => ?_
    refine bind_refused h fun number hnumber h => ?_
    refine bind_refused h fun approximate _ h => ?_
    rw [hnumber] at h
    exact bind_refused h fun index _ h => look_up_refused h
  notices {context operands place fault} among h := by
    refine refusal_of_mem (.cell fault) ?_
    show some _ ∈ tableObjections context operands
    simp only [List.mem_cons, List.not_mem_nil, or_false] at among
    obtain rfl | rfl | rfl := among
    · rw [tableObjections, h]
      exact .tail _ (.tail _ (.tail _ (.tail _ (.head _))))
    · rw [tableObjections, h]
      exact .tail _ (.head _)
    · rw [tableObjections, approximateAt, h]
      exact .tail _ (.tail _ (.head _))

/-- The function `MATCH` refuses its operands for its first objection, and cannot tell single values
apart that are equal. -/
theorem position_lawful : (⟨"MATCH", [0, 2], positionObjections⟩ : Finder).Lawful position where
  alike h := by
    have keys := operand_at_congr (h.operand_at (by simp : 0 + 1 ∉ [0, 2]))
    constructor
    · simp only [position_eq, modeAt, keys, h.value_at]
    · simp only [Finder.refusal, positionObjections, modeAt, keys, h.value_at]
  refuses h := by
    rw [position_eq]
    refine bind_refused h fun number _ h => ?_
    rw [← bind_assoc]
    exact bind_refused h fun keys _ h => look_up_refused h
  notices {context operands place fault} among h := by
    refine refusal_of_mem (.cell fault) ?_
    show some _ ∈ positionObjections context operands
    simp only [List.mem_cons, List.not_mem_nil, or_false] at among
    obtain rfl | rfl := among
    · rw [positionObjections, h]
      exact .tail _ (.tail _ (.head _))
    · rw [positionObjections, modeAt, h]
      exact .head _

/-- The function `LOOKUP` refuses its operands for its first objection, and cannot tell single
values apart that are equal. -/
theorem vector_lookup_lawful :
    (⟨"LOOKUP", [0], vectorObjections⟩ : Finder).Lawful vectorLookup where
  alike h := by
    have keys := operand_at_congr (h.operand_at (by simp : 0 + 1 ∉ [0]))
    have results := h.operand_at (by simp : 0 + 2 ∉ [0])
    constructor
    · simp only [vectorLookup, keys, results, h.value_at]
    · simp only [Finder.refusal, vectorObjections, keys, h.value_at]
  refuses {context operands failure} h := by
    rcases operands with _ | ⟨value, _ | ⟨keys, _ | ⟨results, more⟩⟩⟩
    · exact congrArg Except.error (Option.some.inj h)
    · exact congrArg Except.error (Option.some.inj h)
    · rw [vector_lookup_alone]
      exact look_up_refused h
    · rw [vector_lookup_beside]
      exact look_up_refused h
  notices {context operands place fault} among h := by
    refine refusal_of_mem (.cell fault) ?_
    show some _ ∈ vectorObjections context operands
    rw [List.mem_singleton.mp among] at h
    rw [vectorObjections, h]
    exact .tail _ (.head _)

/-- All functions that look a value up are found under their names and refuse their operands for
their first objection. -/
theorem finder_lawful {finder : Finder} (h : finder ∈ finders) :
    ∃ function apply, find? finder.name = some function ∧ function.body = .references apply ∧
      function.intercepts = false ∧ finder.Lawful apply := by
  simp only [finders, List.mem_cons, List.not_mem_nil, or_false] at h
  obtain rfl | rfl | rfl | rfl := h
  · exact ⟨_, _, rfl, rfl, rfl, table_lookup_lawful .vertical "VLOOKUP"⟩
  · exact ⟨_, _, rfl, rfl, rfl, table_lookup_lawful .horizontal "HLOOKUP"⟩
  · exact ⟨_, _, rfl, rfl, rfl, position_lawful⟩
  · exact ⟨_, _, rfl, rfl, rfl, vector_lookup_lawful⟩

end Refusal

end Spreadsheet.Builtin
