import Mathlib.Data.List.Basic
import Spreadsheet.Evaluation.Evaluate
import Spreadsheet.Proofs.Address.Range
import Spreadsheet.Proofs.Results

/-!
# What functions see of a workbook

Functions see a workbook through their context. `Context.Agree` says that two contexts show the
same at some covered cells and agree in everything else but the moment. The main theorem,
`Builtin.all_local`, says that no function can tell such contexts apart as long as the ranges among
its operands are covered, the functions of the moment and of chance excepted.
-/

namespace Spreadsheet

open Lookup (Direction Source Request LookupError MatchMode)

variable {covered : Nat → Position → Prop} {left right : Context}

/-- Whether all cells of a range are covered. -/
def SheetRange.Within (covered : Nat → Position → Prop) (address : SheetRange) : Prop :=
  ∀ position, address.range.contains position = true → covered address.sheet position

/-- Whether all cells that an operand refers to are covered. -/
def Operand.Within (covered : Nat → Position → Prop) : Operand → Prop
  | .value _ => True
  | .range address => address.Within covered

/-- Two contexts that show the same at covered cells and differ otherwise in the moment alone. -/
structure Context.Agree (covered : Nat → Position → Prop) (left right : Context) : Prop where
  isBare : left.workbook.isNone = right.workbook.isNone
  position : left.position = right.position
  dateSystem : left.dateSystem = right.dateSystem
  sheetIndex : left.sheetIndex = right.sheetIndex
  hasSheet : left.hasSheet = right.hasSheet
  definition : left.definition = right.definition
  shown : ∀ sheet position, covered sheet position →
    left.shown sheet position = right.shown sheet position

namespace Context

/-- Contexts that agree show the same values in a range that is covered. -/
theorem Agree.range_values (h : Agree covered left right) {address : SheetRange}
    (hwithin : address.Within covered) : left.rangeValues address = right.rangeValues address := by
  have hrows : (address.range.rows.map fun row =>
      address.range.columns.map fun column => left.shown address.sheet ⟨row, column⟩) =
      address.range.rows.map fun row =>
        address.range.columns.map fun column => right.shown address.sheet ⟨row, column⟩ := by
    refine List.map_congr_left fun row hrow => List.map_congr_left fun column hcolumn => ?_
    exact h.shown _ _ (hwithin _ (CellRange.contains_iff.mpr ⟨hrow, hcolumn⟩))
  rw [rangeValues, rangeValues, hrows, h.isBare, h.hasSheet]

/-- Contexts that agree give an operand the same value if it is covered. -/
theorem Agree.operand_value (h : Agree covered left right) {operand : Operand}
    (hwithin : operand.Within covered) :
    left.operandValue operand = right.operandValue operand := by
  cases operand with
  | value content => rfl
  | range address =>
      have hfirst := h.shown _ _ (hwithin _ address.range.contains_first)
      simp only [operandValue, h.range_values hwithin, h.isBare, h.hasSheet, hfirst]

end Context

namespace Lookup

/-- Whether all cells that a source takes its keys from are covered. -/
def Source.Within (covered : Nat → Position → Prop) : Source → Prop
  | .array _ => True
  | .range address => address.Within covered

/-- Contexts that agree are walked in the same way over a source that is covered. -/
theorem navigate_congr (h : left.Agree covered right) (direction : Direction) {request : Request}
    (hwithin : request.source.Within covered) :
    navigate direction request left = navigate direction request right := by
  obtain ⟨value, index, source, approximate⟩ := request
  cases source with
  | array elements => rfl
  | range address =>
      have hshown : ∀ position, (if address.range.contains position = true then
          left.shown address.sheet position else .empty) =
          if address.range.contains position = true then
            right.shown address.sheet position else .empty := by
        intro position
        split
        · exact h.shown _ _ (hwithin _ ‹_›)
        · rfl
      cases direction <;> simp only [navigate, overRange, h.hasSheet, hshown]

/-- Contexts that agree have the same hit in a source that is covered. -/
theorem search_congr (h : left.Agree covered right) (direction : Direction) {request : Request}
    (mode : MatchMode) (hwithin : request.source.Within covered) :
    search direction request mode left = search direction request mode right := by
  rw [search, search, navigate_congr h direction hwithin]

end Lookup

namespace Builtin

/-- What is found under a name is one of the functions. -/
theorem mem_of_find {name : String} {function : Builtin} (h : find? name = some function) :
    function ∈ all := by
  unfold find? at h
  exact List.mem_of_find?_eq_some h

section References

variable {operands : List Operand}

/-- Contexts that agree give each operand of a list the same value. -/
theorem value_at_congr (h : left.Agree covered right)
    (hoperands : ∀ operand ∈ operands, operand.Within covered) (index : Nat) :
    valueAt left operands index = valueAt right operands index := by
  cases hoperand : operands[index]? with
  | none => simp [valueAt, hoperand]
  | some operand =>
      simp [valueAt, hoperand, h.operand_value (hoperands _ (List.mem_of_getElem? hoperand))]

/-- An operand that stands at an index is one of the operands. -/
theorem mem_of_operand_at {index : Nat} {operand : Operand}
    (h : operandAt operands index = .ok operand) : operand ∈ operands := by
  cases hoperand : operands[index]? with
  | none => simp [operandAt, hoperand, fail] at h
  | some found =>
      simp only [operandAt, hoperand, Option.elim_some, Except.ok.injEq] at h
      exact h ▸ List.mem_of_getElem? hoperand

/-- The keys of a table are covered if the operand is. -/
theorem table_within {operand : Operand} (hwithin : operand.Within covered)
    (along : Direction) : (table operand along).1.Within covered := by
  cases operand with
  | value content => exact trivial
  | range address => exact hwithin

/-- Making a request and searching for it, in contexts that agree on where its keys come from. -/
theorem search_request_congr {α : Type} (h : left.Agree covered right) (direction : Direction)
    (mode : MatchMode) (value : Value) (index : Nat) {source : Source}
    (hwithin : source.Within covered) (approximate : Bool)
    (goOn : Option Lookup.Hit → Except LookupError α) :
    (Request.of value index source approximate >>= fun request =>
        Lookup.search direction request mode left >>= goOn) =
      Request.of value index source approximate >>= fun request =>
        Lookup.search direction request mode right >>= goOn := by
  refine bind_congr_of_ok fun request hrequest => ?_
  have hsource : request.source = source := by
    cases value <;> simp [Request.of] at hrequest <;> simp [← hrequest]
  rw [Lookup.search_congr h direction mode (hsource ▸ hwithin)]

/-- The functions `VLOOKUP` and `HLOOKUP` cannot tell contexts apart that agree
on their operands. -/
theorem table_lookup_congr (h : left.Agree covered right)
    (hoperands : ∀ operand ∈ operands, operand.Within covered) (along : Direction) :
    tableLookup along left operands = tableLookup along right operands := by
  unfold tableLookup
  simp only [value_at_congr h hoperands]
  refine bind_congr_of_ok fun operand hoperand => bind_congr_of_ok fun number _ => ?_
  have hwithin := table_within (hoperands _ (mem_of_operand_at hoperand)) along
  split <;> exact bind_congr_of_ok fun approximate _ => bind_congr_of_ok fun index _ =>
    search_request_congr h _ _ _ _ hwithin _ _

/-- The keys of a vector are covered if the operand is. -/
theorem vector_within {operand : Operand} (hwithin : operand.Within covered)
    {source : Source} {direction : Direction} (h : vector operand = .ok (source, direction)) :
    source.Within covered := by
  cases operand with
  | value content =>
      simp only [vector] at h
      split at h
      · simp [fail] at h
      · cases h
        exact trivial
  | range address =>
      simp only [vector] at h
      split at h
      · cases h
        exact hwithin
      · split at h
        · cases h
          exact hwithin
        · simp [fail] at h

/-- The function `MATCH` cannot tell contexts apart that agree on its operands. -/
theorem position_congr (h : left.Agree covered right)
    (hoperands : ∀ operand ∈ operands, operand.Within covered) :
    position left operands = position right operands := by
  unfold position
  simp only [value_at_congr h hoperands]
  split <;>
  · refine bind_congr_of_ok fun number _ => bind_congr_of_ok fun operand hoperand => ?_
    refine bind_congr_of_ok fun ⟨source, direction⟩ hvector => ?_
    have hwithin := vector_within (hoperands _ (mem_of_operand_at hoperand)) hvector
    exact search_request_congr h _ _ _ _ hwithin _ _

/-- The function `LOOKUP` cannot tell contexts apart that agree on its operands. -/
theorem vector_lookup_congr (h : left.Agree covered right)
    (hoperands : ∀ operand ∈ operands, operand.Within covered) :
    vectorLookup left operands = vectorLookup right operands := by
  unfold vectorLookup
  simp only [value_at_congr h hoperands]
  refine bind_congr_of_ok fun keys hkeys => ?_
  have hwithin := table_within (hoperands _ (mem_of_operand_at hkeys))
  cases hresults : operands[2]? with
  | none => exact search_request_congr h _ _ _ _ (hwithin _) _ _
  | some results =>
      have hvalue := h.operand_value (hoperands _ (List.mem_of_getElem? hresults))
      simp only [hvalue]
      exact search_request_congr h _ _ _ _ (hwithin _) _ _

/-- The functions `ROW` and `COLUMN` cannot tell contexts apart that agree. -/
theorem place_congr (h : left.Agree covered right) (pick : Position → Nat)
    (operands : List Operand) : place pick left operands = place pick right operands := by
  cases operands with
  | nil => simp [place, h.position]
  | cons first rest => cases first <;> rfl

end References

section Dates

variable (h : left.dateSystem = right.dateSystem)
include h

/-- With the same date system an operand is read as the same date. -/
theorem date_at_congr (operands : List Value) (index : Nat) :
    dateAt left operands index = dateAt right operands index := by
  simp only [dateAt, h]

/-- With the same date system the holidays are the same. -/
theorem holidays_congr (operands : List Value) (index : Nat) :
    holidays left operands index = holidays right operands index := by
  have hholiday : holiday left = holiday right := by
    funext value
    cases value <;> simp only [holiday, h]
  simp only [holidays, hholiday]

/-- With the same date system `DATE` is the same function. -/
theorem date_congr : date left = date right := by
  funext operands
  simp only [date, h]

/-- With the same date system the parts of a date are the same. -/
theorem date_part_congr (pick : Int × Nat × Nat → Int) :
    datePart pick left = datePart pick right := by
  funext operands
  simp only [datePart, h]

/-- With the same date system `WEEKDAY` is the same function. -/
theorem weekday_congr : weekday left = weekday right := by
  funext operands
  simp only [weekday, h]

/-- With the same date system workdays lie equally far away. -/
theorem workday_away_congr (weekend : Calendar.Weekend) (holidayIndex : Nat) :
    workdayAway weekend holidayIndex left = workdayAway weekend holidayIndex right := by
  funext operands
  simp only [workdayAway, date_at_congr h, holidays_congr h, h]

/-- With the same date system there are equally many workdays between two dates. -/
theorem workdays_between_congr (weekend : Calendar.Weekend) (holidayIndex : Nat) :
    workdaysBetween weekend holidayIndex left = workdaysBetween weekend holidayIndex right := by
  funext operands
  simp only [workdaysBetween, date_at_congr h, holidays_congr h]

end Dates

/-- Whether a function cannot tell contexts apart that agree on what its operands refer to. A
volatile function may tell moments apart. -/
def Local (function : Builtin) : Prop :=
  match function.body with
  | .values _ => True
  | .located apply => ∀ (covered : Nat → Position → Prop) (left right : Context),
      left.Agree covered right → (function.isVolatile = false ∨ left.moment = right.moment) →
      apply left = apply right
  | .chance _ => function.isVolatile = true
  | .references apply => ∀ (covered : Nat → Position → Prop) (left right : Context),
      left.Agree covered right → ∀ operands : List Operand,
      (∀ operand ∈ operands, operand.Within covered) → apply left operands = apply right operands

/-- A function that reads nothing of its context but the date system and the place of the cell is
local. -/
theorem of_place_local {name : String} {least : Nat} {most : Option Nat}
    {apply : Context → List Value → Result}
    (h : ∀ left right : Context, left.dateSystem = right.dateSystem → apply left = apply right) :
    (ofPlace name least most apply).Local :=
  fun _ _ _ hagree _ => h _ _ hagree.dateSystem

/-- A function that reads nothing of its context but the date system and the moment is local. -/
theorem of_moment_local {name : String} {apply : Context → List Value → Result}
    (h : ∀ left right : Context, left.dateSystem = right.dateSystem → left.moment = right.moment →
      apply left = apply right) : (ofMoment name apply).Local :=
  fun _ _ _ hagree hmoment => h _ _ hagree.dateSystem (hmoment.resolve_left Bool.noConfusion)

/-- The functions over dates are local. -/
theorem calendrical_local : ∀ function ∈ calendrical, function.Local := by
  simp only [calendrical, List.forall_mem_cons]
  refine ⟨of_place_local fun _ _ => date_congr, of_place_local fun _ _ h => date_part_congr h _,
    of_place_local fun _ _ h => date_part_congr h _,
    of_place_local fun _ _ h => date_part_congr h _,
    of_place_local fun _ _ => weekday_congr, of_moment_local fun _ _ hsystem hmoment => ?_,
    of_moment_local fun _ _ hsystem hmoment => ?_,
    of_place_local fun _ _ h => workday_away_congr h _ _, of_place_local fun _ _ h => ?_,
    of_place_local fun _ _ h => workdays_between_congr h _ _, of_place_local fun _ _ h => ?_,
    by simp⟩
  · funext operands
    simp only [today, hsystem, hmoment]
  · funext operands
    simp only [now, hsystem, hmoment]
  · funext operands
    simp only [workdayIn, workday_away_congr h]
  · funext operands
    simp only [networkdaysIn, workdays_between_congr h]

/-- The functions over tables are local. -/
theorem tabular_local : ∀ function ∈ tabular, function.Local := by
  simp only [tabular, List.forall_mem_cons]
  refine ⟨fun _ _ _ h _ hw => table_lookup_congr h hw _,
    fun _ _ _ h _ hw => table_lookup_congr h hw _,
    fun _ _ _ h _ hw => position_congr h hw, fun _ _ _ h _ hw => vector_lookup_congr h hw,
    fun _ _ _ h _ _ => place_congr h _ _, fun _ _ _ h _ _ => place_congr h _ _,
    fun _ _ _ _ _ _ => rfl, fun _ _ _ _ _ _ => rfl, trivial, trivial, by simp⟩

/-- No function can tell contexts apart that agree on what its operands refer to, unless it is
volatile. -/
theorem all_local {function : Builtin} (h : function ∈ all) : function.Local := by
  simp only [all, List.mem_append] at h
  rcases h with ((((h | h) | h) | h) | h) | h
  · revert function
    simp [numeric, Local, ofValues, ofChance]
  · revert function
    simp [logical, Local, ofValues, intercepting]
  · revert function
    simp [inspecting, Local, ofValues, intercepting]
  · revert function
    simp [textual, Local, ofValues]
  · exact tabular_local _ h
  · exact calendrical_local _ h

end Builtin

end Spreadsheet
