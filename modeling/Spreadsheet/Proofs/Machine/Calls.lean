import Spreadsheet.Evaluation.Evaluate
import Spreadsheet.Proofs.Machine.Dates
import Spreadsheet.Proofs.Machine.Lookups
import Spreadsheet.Proofs.Machine.Values

/-!
# Calls on a machine

Every function on a machine: those with operations that can stop one, by name, and all others as
they are. A call of any function with any operands comes to the result of the function, unless a
number that is not a number is the number of a result of `VLOOKUP` or `HLOOKUP` or a bound of
`RANDBETWEEN`. There a machine is stopped, and a call without one breaks off.
-/

namespace Spreadsheet.Machine

open Evaluation (Outcome settle)
open Formula (FormulaError)
open Lookup (LookupError)

/-- How a function works on its operands on a machine. -/
inductive Body where
  | values (apply : List Value → Guarded ErrorValue Value)
  | located (apply : Context → List Value → Guarded ErrorValue Value)
  | chance (apply : Seed → List Value → Guarded FormulaError Value)
  | references (apply : Context → List Operand → Guarded LookupError Value)

/-- A function without operations that can stop a machine. -/
def Body.plain : Builtin.Body → Body
  | .values apply => .values fun operands => liftM (apply operands)
  | .located apply => .located fun context operands => liftM (apply context operands)
  | .chance apply => .chance fun seed operands => liftM (apply seed operands)
  | .references apply => .references fun context operands => liftM (apply context operands)

/-- The functions with operations that can stop a machine, by name. -/
def guarded : List (String × Body) :=
  [("ROUND", .values (rounded .halfAwayFromZero)),
   ("ROUNDUP", .values (rounded .awayFromZero)),
   ("ROUNDDOWN", .values (rounded .towardZero)),
   ("RANDBETWEEN", .chance randomBetween),
   ("MID", .values middle),
   ("REPT", .values repetition),
   ("VLOOKUP", .references (tableLookup .vertical)),
   ("HLOOKUP", .references (tableLookup .horizontal)),
   ("MATCH", .references position),
   ("LOOKUP", .references vectorLookup),
   ("ROWS", .references (dimension Prod.fst)),
   ("COLUMNS", .references (dimension Prod.snd)),
   ("INDEX", .values index),
   ("CHOOSE", .values chooseAmong),
   ("DATE", .located date),
   ("YEAR", .located (datePart fun parts => parts.1)),
   ("MONTH", .located (datePart fun parts => parts.2.1)),
   ("DAY", .located (datePart fun parts => parts.2.2)),
   ("WEEKDAY", .located weekday),
   ("TODAY", .located today),
   ("NOW", .located now),
   ("WORKDAY", .located (workdayAway .usual 2)),
   ("WORKDAY.INTL", .located workdayIn),
   ("NETWORKDAYS", .located (workdaysBetween .usual 2)),
   ("NETWORKDAYS.INTL", .located networkdaysIn)]

/-- A function on a machine. -/
def bodyOf (function : Builtin) : Body :=
  (guarded.lookup function.name).getD (.plain function.body)

/-- A call of a function with operands. -/
def call (function : Builtin) (context : Context) (seed : Seed) (operands : List Operand) :
    Checked Outcome :=
  let values := operands.map context.operandValue
  match bodyOf function with
  | .values apply => (apply values).run.map fun result => .ok (settle result)
  | .located apply => (apply context values).run.map fun result => .ok (settle result)
  | .chance apply => (apply seed values).run
  | .references apply => (apply context operands).run.map Lookup.settle

/-- The calls that stop a machine, with what stops it and with the failure of a call without one. -/
inductive Slips (context : Context) (operands : List Operand) (function : Builtin) :
    Trap → FormulaError → Prop
  /-- The number of a result is not a number, so that no result comes before it. -/
  | index (named : function.name = "VLOOKUP" ∨ function.name = "HLOOKUP")
      (index : IndexNotNumber ((Builtin.valueAt context operands 2).getD .empty)) :
      Slips context operands function .belowZero .indexNotNumber
  /-- A bound of a draw is not a number and counts as zero, beyond the other bound. -/
  | bound (named : function.name = "RANDBETWEEN")
      (bound : BoundNotNumber (operands.map context.operandValue)) :
      Slips context operands function .emptyRange .emptyDraw

/-- Whether a failure is that a call has broken off. -/
def Breaking (failure : FormulaError) : Prop := failure = .emptyDraw ∨ failure = .indexNotNumber

/-- A call comes to the result of the function, which has not broken off, or it slips. -/
def Sound (context : Context) (seed : Seed) (operands : List Operand) (function : Builtin) :
    Prop :=
  let plain := Evaluation.applyReferences function context seed (.ok operands)
  (call function context seed operands = .ok plain ∧
      ∀ failure, Breaking failure → plain ≠ .error failure) ∨
    ∃ trap failure, Slips context operands function trap failure ∧
      call function context seed operands = .error trap ∧ plain = .error failure

section Calls

variable {context : Context} {seed : Seed} {operands : List Operand} {function : Builtin}

/-- What has a value has not broken off. -/
theorem ok_ne (value : Value) (failure : FormulaError) (_ : Breaking failure) :
    (.ok value : Outcome) ≠ .error failure :=
  nofun

/-- A lookup breaks off only where the number of its result is not a number. -/
theorem settle_ne {result : Except LookupError Value} (h : result ≠ .error .indexNotNumber)
    (failure : FormulaError) (hbreaking : Breaking failure) :
    Lookup.settle result ≠ .error failure := by
  rcases hbreaking with rfl | rfl
  · cases result with
    | ok value => nofun
    | error failure => cases failure <;> nofun
  · cases result with
    | ok value => nofun
    | error failure =>
        cases failure with
        | indexNotNumber => exact absurd rfl h
        | _ => nofun

namespace Sound

/-- A function that is not guarded is sound if it does not break off. -/
theorem plain (hname : guarded.lookup function.name = none)
    (h : ∀ failure, Breaking failure →
      Evaluation.applyReferences function context seed (.ok operands) ≠ .error failure) :
    Sound context seed operands function := by
  refine Or.inl ⟨?_, h⟩
  rw [call, bodyOf, hname]
  obtain ⟨name, least, most, isVolatile, intercepts, body⟩ := function
  cases body <;> rfl

/-- A guarded function of values is sound if it follows the plain one. -/
theorem values {apply : List Value → Guarded ErrorValue Value}
    {plainApply : List Value → Except ErrorValue Value}
    (hname : guarded.lookup function.name = some (.values apply))
    (hbody : function.body = .values plainApply)
    (h : ∀ values, Follows Never (apply values) (plainApply values)) :
    Sound context seed operands function := by
  left
  have hplain : Evaluation.applyReferences function context seed (.ok operands) =
      .ok (settle (plainApply (operands.map context.operandValue))) := by
    simp only [Evaluation.applyReferences, Evaluation.applyValues, hbody]
  rw [hplain]
  refine ⟨?_, ok_ne _⟩
  rw [call, bodyOf, hname]
  dsimp only [Option.getD_some]
  rw [(h _).run_eq]
  rfl

/-- A function that knows where and when it is called is sound if its work is never stopped. -/
theorem located {apply : Context → List Value → Guarded ErrorValue Value}
    {plainApply : Context → List Value → Except ErrorValue Value}
    (hname : guarded.lookup function.name = some (.located apply))
    (hbody : function.body = .located plainApply)
    (h : ∀ values, Follows Never (apply context values) (plainApply context values)) :
    Sound context seed operands function := by
  left
  have hplain : Evaluation.applyReferences function context seed (.ok operands) =
      .ok (settle (plainApply context (operands.map context.operandValue))) := by
    simp only [Evaluation.applyReferences, Evaluation.applyValues, hbody]
  rw [hplain]
  refine ⟨?_, ok_ne _⟩
  rw [call, bodyOf, hname]
  dsimp only [Option.getD_some]
  rw [(h _).run_eq]
  rfl

/-- A guarded function of references is sound if it follows the plain one and that one gives an
answer. -/
theorem references {apply : Context → List Operand → Guarded LookupError Value}
    {plainApply : Context → List Operand → Except LookupError Value}
    (hname : guarded.lookup function.name = some (.references apply))
    (hbody : function.body = .references plainApply)
    (h : Follows Never (apply context operands) (plainApply context operands))
    (hanswers : Lookup.Answers False (plainApply context operands)) :
    Sound context seed operands function := by
  have hplain : Evaluation.applyReferences function context seed (.ok operands) =
      Lookup.settle (plainApply context operands) := by
    simp only [Evaluation.applyReferences, hbody]
  left
  rw [hplain]
  refine ⟨?_, settle_ne hanswers.ne⟩
  rw [call, bodyOf, hname]
  dsimp only [Option.getD_some]
  rw [h.run_eq]
  rfl

/-- A lookup in a table is sound: it slips where it breaks off. -/
theorem tables {along : Lookup.Direction}
    (hname : guarded.lookup function.name = some (.references (tableLookup along)))
    (hbody : function.body = .references (Builtin.tableLookup along))
    (hnamed : function.name = "VLOOKUP" ∨ function.name = "HLOOKUP")
    (hgrid : AllInGrid operands) : Sound context seed operands function := by
  have hplain : Evaluation.applyReferences function context seed (.ok operands) =
      Lookup.settle (Builtin.tableLookup along context operands) := by
    simp only [Evaluation.applyReferences, hbody]
  have hcall : call function context seed operands =
      (tableLookup along context operands).run.map Lookup.settle := by
    rw [call, bodyOf, hname]
    rfl
  rcases table_lookup_run context hgrid along with ⟨hrun, hne⟩ | ⟨hindex, hrun, hbreaks⟩
  · left
    rw [hplain, hcall, hrun]
    exact ⟨rfl, settle_ne hne⟩
  · refine Or.inr ⟨.belowZero, .indexNotNumber, .index hnamed hindex, ?_, ?_⟩
    · rw [hcall, hrun]
      rfl
    · rw [hplain, hbreaks]
      rfl

/-- The function `RANDBETWEEN` is sound: it slips only where a bound is not a number. -/
theorem draws (hname : function.name = "RANDBETWEEN")
    (hbody : function.body = .chance Builtin.randomBetween) :
    Sound context seed operands function := by
  have hplain : Evaluation.applyReferences function context seed (.ok operands) =
      Builtin.randomBetween seed (operands.map context.operandValue) := by
    simp only [Evaluation.applyReferences, Evaluation.applyValues, hbody]
  have hcall : call function context seed operands =
      (randomBetween seed (operands.map context.operandValue)).run := by
    rw [call, bodyOf, hname]
    rfl
  rcases random_between_run (operands.map context.operandValue) seed with
    ⟨hrun, hne⟩ | ⟨hbound, hrun, hbreaks⟩
  · left
    rw [hcall, hplain]
    refine ⟨hrun, fun failure hbreaking hfailure => ?_⟩
    obtain rfl := Builtin.random_between_eq_error hfailure
    exact hne hfailure
  · exact Or.inr ⟨.emptyRange, .emptyDraw, .bound hname hbound, hcall.trans hrun,
      hplain.trans hbreaks⟩

end Sound

variable (context seed operands)

/-- The functions over numbers are sound. -/
theorem numeric_sound : ∀ function ∈ Builtin.numeric, Sound context seed operands function := by
  simp only [Builtin.numeric, List.forall_mem_cons]
  exact ⟨.plain rfl (ok_ne _), .plain rfl (ok_ne _), .plain rfl (ok_ne _), .plain rfl (ok_ne _),
    .plain rfl (ok_ne _), .plain rfl (ok_ne _), .plain rfl (ok_ne _), .plain rfl (ok_ne _),
    .plain rfl (ok_ne _), .plain rfl (ok_ne _), .plain rfl (ok_ne _), .plain rfl (ok_ne _),
    .plain rfl (ok_ne _), .plain rfl (ok_ne _),
    .values rfl rfl fun values => rounded_follows values _,
    .values rfl rfl fun values => rounded_follows values _,
    .values rfl rfl fun values => rounded_follows values _, .plain rfl (ok_ne _), .draws rfl rfl,
    nofun⟩

/-- The logical functions are sound. -/
theorem logical_sound : ∀ function ∈ Builtin.logical, Sound context seed operands function := by
  simp only [Builtin.logical, List.forall_mem_cons]
  exact ⟨.plain rfl (ok_ne _), .plain rfl (ok_ne _), .plain rfl (ok_ne _), .plain rfl (ok_ne _),
    .plain rfl (ok_ne _), .plain rfl (ok_ne _), .plain rfl (ok_ne _), .plain rfl (ok_ne _),
    .plain rfl (ok_ne _), nofun⟩

/-- The functions that inspect values are sound. -/
theorem inspecting_sound :
    ∀ function ∈ Builtin.inspecting, Sound context seed operands function := by
  simp only [Builtin.inspecting, List.forall_mem_cons]
  exact ⟨.plain rfl (ok_ne _), .plain rfl (ok_ne _), .plain rfl (ok_ne _), .plain rfl (ok_ne _),
    .plain rfl (ok_ne _), .plain rfl (ok_ne _), .plain rfl (ok_ne _), .plain rfl (ok_ne _),
    .plain rfl (ok_ne _), nofun⟩

/-- The functions over texts are sound. -/
theorem textual_sound : ∀ function ∈ Builtin.textual, Sound context seed operands function := by
  simp only [Builtin.textual, List.forall_mem_cons]
  exact ⟨.plain rfl (ok_ne _), .plain rfl (ok_ne _), .plain rfl (ok_ne _), .plain rfl (ok_ne _),
    .plain rfl (ok_ne _), .values rfl rfl middle_follows, .plain rfl (ok_ne _),
    .plain rfl (ok_ne _), .plain rfl (ok_ne _), .plain rfl (ok_ne _),
    .values rfl rfl repetition_follows, nofun⟩

variable {operands} in
/-- The functions over tables are sound on operands within the grid. -/
theorem tabular_sound (h : AllInGrid operands) :
    ∀ function ∈ Builtin.tabular, Sound context seed operands function := by
  simp only [Builtin.tabular, List.forall_mem_cons]
  exact ⟨.tables rfl rfl (Or.inl rfl) h, .tables rfl rfl (Or.inr rfl) h,
    .references rfl rfl (position_follows context h) (Builtin.answers_position _ _),
    .references rfl rfl (vector_lookup_follows context h) (Builtin.answers_vector_lookup _ _),
    .plain rfl (settle_ne (Builtin.answers_place _ _ _).ne),
    .plain rfl (settle_ne (Builtin.answers_place _ _ _).ne),
    .references rfl rfl (dimension_follows context _ h) (Builtin.answers_dimension _ _ _),
    .references rfl rfl (dimension_follows context _ h) (Builtin.answers_dimension _ _ _),
    .values rfl rfl index_follows, .values rfl rfl choose_among_follows, nofun⟩

variable {context} in
/-- The functions over dates are sound at a moment of the calendar. -/
theorem calendrical_sound (h : InCalendar context.moment.date) :
    ∀ function ∈ Builtin.calendrical, Sound context seed operands function := by
  simp only [Builtin.calendrical, List.forall_mem_cons]
  exact ⟨.located rfl rfl (date_follows context),
    .located rfl rfl fun values => date_part_follows context values _,
    .located rfl rfl fun values => date_part_follows context values _,
    .located rfl rfl fun values => date_part_follows context values _,
    .located rfl rfl (weekday_follows context),
    .located rfl rfl fun values => today_follows values h,
    .located rfl rfl fun values => now_follows values h,
    .located rfl rfl fun values => workday_away_follows context values _ _,
    .located rfl rfl (workday_in_follows context),
    .located rfl rfl fun values => workdays_between_follows context values _ _,
    .located rfl rfl (networkdays_in_follows context), nofun⟩

variable {context operands} in
/-- A call of any function with any operands is sound. -/
theorem call_sound (hdate : InCalendar context.moment.date) (hgrid : AllInGrid operands)
    (h : function ∈ Builtin.all) : Sound context seed operands function := by
  simp only [Builtin.all, List.mem_append] at h
  rcases h with ((((h | h) | h) | h) | h) | h
  · exact numeric_sound _ _ _ _ h
  · exact logical_sound _ _ _ _ h
  · exact inspecting_sound _ _ _ _ h
  · exact textual_sound _ _ _ _ h
  · exact tabular_sound _ _ hgrid _ h
  · exact calendrical_sound _ _ hdate _ h

end Calls

end Spreadsheet.Machine
