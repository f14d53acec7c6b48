import Spreadsheet.Proofs.Evaluation.Agreement
import Spreadsheet.Proofs.Evaluation.Failure
import Spreadsheet.Proofs.Formula.Grid
import Spreadsheet.Proofs.Lookup.Materialized
import Spreadsheet.Proofs.Machine.Checked
import Spreadsheet.Proofs.Number.Difference

/-!
# Lookups on a machine

A lookup measures its table, counts the steps from a key to its result down by one, and counts its
keys while it walks over them. Ranges of the grid have sizes that fit, and no walk counts beyond
its last key. So the one thing that stops a lookup is a number of a result that is not a number: it
passes the comparison with one and then counts as zero. `table_lookup_run` says that a lookup is
stopped just where one without a machine breaks off.
-/

namespace Spreadsheet.Machine

open Lookup (Direction Source LookupError MatchMode Request Navigator Hit Piece)

/-- The number of rows of a range, of 32 bits. -/
def rowCount (range : CellRange) : Checked Nat := do
  let distance ← minus range.last.row range.first.row
  unsigned 32 (distance + 1)

/-- The number of columns of a range, of 16 bits. -/
def columnCount (range : CellRange) : Checked Nat := do
  let distance ← minus range.last.column range.first.column
  unsigned 16 (distance + 1)

/-- Height and width of an operand. -/
def dimensions : Operand → Checked (Nat × Nat)
  | .range address => return (← rowCount address.range, ← columnCount address.range)
  | .value value => return Builtin.dimensions (.value value)

/-- A walk over keys, one key further. -/
def advanced (navigator : Navigator) : Checked Navigator := do
  return { navigator with position := ← following navigator.length navigator.position }

/-- The first exact match from where a walk stands. -/
def findExact (pattern : Option (List Piece)) (value : Value) :
    (ahead : Nat) → Navigator → Checked (Option Hit)
  | ahead, navigator =>
    if Lookup.isExact pattern value navigator.key then return some navigator.hit
    else do
      let next ← advanced navigator
      match ahead with
      | 0 => return none
      | ahead + 1 => findExact pattern value ahead next

/-- The nearest match from where a walk stands. -/
def findNearest (value : Value) (toward : Ordering) :
    (ahead : Nat) → (best : Option Hit) → Navigator → Checked (Option Hit)
  | ahead, best, navigator =>
    let goOn (best : Option Hit) : Checked (Option Hit) := do
      let next ← advanced navigator
      match ahead with
      | 0 => return best
      | ahead + 1 => findNearest value toward ahead best next
    if !Lookup.sameKind value navigator.key then goOn best
    else
      let order := navigator.key.compare value
      if order = .eq then return some navigator.hit
      else if order = toward then goOn (some navigator.hit)
      else return best

/-- The match for a value from where a walk stands. -/
def find (value : Value) (mode : MatchMode) (navigator : Navigator) : Checked (Option Hit) :=
  match mode with
  | .exact => findExact (Lookup.patternOf value) value navigator.ahead navigator
  | .ascending => findNearest value .lt navigator.ahead none navigator
  | .descending => findNearest value .gt navigator.ahead none navigator

/-- The walk over the source of a request; a range is measured first. -/
def navigate (direction : Direction) (request : Request) (context : Context) :
    Guarded LookupError Navigator :=
  match request.source with
  | .array _ => liftM (Lookup.overArray direction request)
  | .range address => do
    let _ ← dimensions (.range address)
    Lookup.overRange direction request context

/-- A request for keys of a source. The answer to a hit knows how many keys there are. -/
def lookUp (context : Context) (keys : Source × Direction) (value : Value) (index : Nat)
    (approximate : Bool) (mode : MatchMode) (answer : Nat → Hit → Guarded LookupError Value) :
    Guarded LookupError Value := do
  let request ← Request.of value index keys.1 approximate
  let navigator ← navigate keys.2 request context
  match ← (find request.value mode navigator : Checked (Option Hit)) with
  | some hit => answer navigator.length hit
  | none => (Builtin.fail .notAvailable : Except LookupError Value)

/-- The steps from a key to its result, given the number of the result from one. -/
def resultIndex (amount : Float) : Checked Nat := minus (Number.wholePart amount).toNat 1

/-- `VLOOKUP` and `HLOOKUP` -/
def tableLookup (along : Direction) (context : Context) (operands : List Operand) :
    Guarded LookupError Value := do
  let keys ← Builtin.operandAt operands 1
  let number ← Builtin.coerced
    (Builtin.resultNumber ((Builtin.valueAt context operands 2).getD .empty))
  let approximate ← Builtin.approximateAt context operands 3
  let index ← (resultIndex number : Checked Nat)
  lookUp context (Builtin.table keys along) ((Builtin.valueAt context operands 0).getD .empty)
    index approximate (if approximate then .ascending else .exact)
    fun _ hit => return Builtin.returned hit.value

/-- The source of a single row or column, which is measured first. -/
def vector (operand : Operand) : Guarded LookupError (Source × Direction) := do
  let _ ← dimensions operand
  Builtin.vector operand

/-- `MATCH(value, vector, mode)` -/
def position (context : Context) (operands : List Operand) : Guarded LookupError Value := do
  let number ← Builtin.modeAt context operands 2
  let operand ← Builtin.operandAt operands 1
  let keys ← vector operand
  lookUp context keys ((Builtin.valueAt context operands 0).getD .empty) 0 (number != 0)
    (.ofNumber number) fun count hit => return Builtin.ofCount (← following count hit.position)

/-- `LOOKUP(value, keys, results)` -/
def vectorLookup (context : Context) (operands : List Operand) : Guarded LookupError Value := do
  let value := (Builtin.valueAt context operands 0).getD .empty
  let keys ← Builtin.operandAt operands 1
  let _ ← dimensions keys
  let along := Builtin.longerSide keys
  match operands[2]? with
  | none =>
    lookUp context (Builtin.table keys along) value (Builtin.lastIndex keys along) true .ascending
      fun _ hit => return Builtin.returned hit.value
  | some results =>
    lookUp context (Builtin.table keys along) value 0 true .ascending
      fun _ hit => liftM (Builtin.resultIn context results hit)

/-- `ROWS` and `COLUMNS` -/
def dimension (pick : Nat × Nat → Nat) (_ : Context) (operands : List Operand) :
    Guarded LookupError Value := do
  let operand ← Builtin.operandAt operands 0
  let measured ← (dimensions operand : Checked (Nat × Nat))
  return Builtin.ofCount (pick measured)

/-! ## Sizes -/

/-- The cells of the grid, on any sheet. -/
def inGrid (_ : Nat) (position : Position) : Prop := position.InGrid

section Sizes

variable {range : CellRange} {operand : Operand}

/-- The rows of a range of the grid are counted without being stopped. -/
theorem row_count_eq (h : range.InGrid) : rowCount range = .ok range.rowCount := by
  have hlast : range.last.row < 1048576 := (h _ range.contains_last).1
  rw [rowCount, minus_eq range.rows_ordered]
  exact unsigned_eq (by omega)

/-- The columns of a range of the grid are counted without being stopped. -/
theorem column_count_eq (h : range.InGrid) : columnCount range = .ok range.columnCount := by
  have hlast : range.last.column < 16384 := (h _ range.contains_last).2
  rw [columnCount, minus_eq range.columns_ordered]
  exact unsigned_eq (by omega)

/-- The dimensions of an operand within the grid are counted without being stopped. -/
theorem dimensions_eq (h : operand.Within inGrid) :
    dimensions operand = .ok (Builtin.dimensions operand) := by
  cases operand with
  | value value => rfl
  | range address =>
      rw [dimensions, row_count_eq h, column_count_eq h]
      rfl

end Sizes

/-! ## Walks -/

section Walks

variable {navigator : Navigator}

/-- A walk that is not at its end takes a step without being stopped. -/
theorem advanced_eq (h : navigator.position < navigator.length) :
    advanced navigator = .ok navigator.advanced := by
  rw [advanced, following_eq h]
  rfl

/-- A hit on one of the keys of a walk. -/
def HitWithin (length : Nat) (found : Option Hit) : Prop :=
  ∀ hit, found = some hit → hit.position < length

/-- The hit at the position of a walk lies within the walk. -/
theorem hit_within (h : navigator.position < navigator.length) :
    HitWithin navigator.length (some navigator.hit) := by
  rintro hit ⟨⟩
  exact h

/-- The search for an exact hit is never stopped, and its hit lies within the walk. -/
theorem find_exact_eq (pattern : Option (List Piece)) (value : Value) {ahead : Nat}
    (h : navigator.position + ahead < navigator.length) :
    findExact pattern value ahead navigator =
        .ok (Lookup.findExact pattern value ahead navigator).1 ∧
      HitWithin navigator.length (Lookup.findExact pattern value ahead navigator).1 := by
  have hposition : navigator.position < navigator.length := by omega
  induction ahead generalizing navigator with
  | zero =>
      rw [findExact, Lookup.findExact, advanced_eq hposition]
      split
      · exact ⟨rfl, hit_within hposition⟩
      · exact ⟨rfl, nofun⟩
  | succ ahead ih =>
      rw [findExact, Lookup.findExact, advanced_eq hposition]
      split
      · exact ⟨rfl, hit_within hposition⟩
      · have hnext : navigator.advanced.position + ahead < navigator.advanced.length := by
          show navigator.position + 1 + ahead < navigator.length
          omega
        exact ih hnext (by omega)

/-- The search for the nearest key is never stopped, and its hit lies within the walk. -/
theorem find_nearest_eq (value : Value) (toward : Ordering) {ahead : Nat} {best : Option Hit}
    (h : navigator.position + ahead < navigator.length)
    (hbest : HitWithin navigator.length best) :
    findNearest value toward ahead best navigator =
        .ok (Lookup.findNearest value toward ahead best navigator).1 ∧
      HitWithin navigator.length (Lookup.findNearest value toward ahead best navigator).1 := by
  have hposition : navigator.position < navigator.length := by omega
  induction ahead generalizing navigator best with
  | zero =>
      rw [findNearest, Lookup.findNearest, advanced_eq hposition]
      dsimp only
      split
      · exact ⟨rfl, hbest⟩
      · split
        · exact ⟨rfl, hit_within hposition⟩
        · split
          · exact ⟨rfl, hit_within hposition⟩
          · exact ⟨rfl, hbest⟩
  | succ ahead ih =>
      have hnext : navigator.advanced.position + ahead < navigator.advanced.length := by
        show navigator.position + 1 + ahead < navigator.length
        omega
      rw [findNearest, Lookup.findNearest, advanced_eq hposition]
      dsimp only
      split
      · exact ih hnext hbest (by omega)
      · split
        · exact ⟨rfl, hit_within hposition⟩
        · split
          · exact ih hnext (hit_within hposition) (by omega)
          · exact ⟨rfl, hbest⟩

/-- No search is ever stopped, and its hit lies within the walk. -/
theorem find_eq (value : Value) (mode : MatchMode) (h : navigator.position < navigator.length) :
    find value mode navigator = .ok (Lookup.find value mode navigator).1 ∧
      HitWithin navigator.length (Lookup.find value mode navigator).1 := by
  have hahead : navigator.position + navigator.ahead < navigator.length := by
    unfold Navigator.ahead
    omega
  cases mode with
  | exact => exact find_exact_eq _ _ hahead
  | ascending => exact find_nearest_eq _ _ hahead nofun
  | descending => exact find_nearest_eq _ _ hahead nofun

variable {direction : Direction} {request : Request} {context : Context}

/-- A walk starts at the first of its keys. -/
theorem navigate_start (h : Lookup.navigate direction request context = .ok navigator) :
    navigator.position < navigator.length := by
  unfold Lookup.navigate at h
  cases hsource : request.source with
  | array elements =>
      rw [hsource] at h
      dsimp only at h
      unfold Lookup.overArray at h
      rw [hsource] at h
      dsimp only at h
      split at h
      · cases h
      · rename_i hextent
        cases h
        dsimp only
        split
        · decide
        · cases elements with
          | nil => exact absurd (Nat.zero_le _) hextent
          | cons element rest => simp
  | range address =>
      rw [hsource] at h
      dsimp only at h
      unfold Lookup.overRange at h
      rw [hsource] at h
      cases direction with
      | vertical =>
          dsimp only at h
          split at h
          · cases h
          · split at h
            · cases h
            · cases h
              exact Nat.succ_pos _
      | horizontal =>
          dsimp only at h
          split at h
          · cases h
          · split at h
            · cases h
            · cases h
              exact Nat.succ_pos _

variable {expected : Trap → LookupError → Prop}

/-- Starting a walk over a source within the grid follows the plain start. -/
theorem navigate_follows (h : request.source.Within inGrid) :
    Follows expected (navigate direction request context)
      (Lookup.navigate direction request context) := by
  unfold navigate Lookup.navigate
  cases hsource : request.source with
  | array elements => exact .same _
  | range address =>
      have hrange : (Operand.range address).Within inGrid := by
        rw [hsource] at h
        exact h
      exact .step (dimensions_eq hrange) (.same _)

/-- A request follows if the answer to every hit does. -/
theorem look_up_follows {keys : Source × Direction} {value : Value} {index : Nat}
    {approximate : Bool} {mode : MatchMode} {answer : Nat → Hit → Guarded LookupError Value}
    {plainAnswer : Hit → Except LookupError Value} (h : keys.1.Within inGrid)
    (hanswer : ∀ count hit, hit.position < count →
      Follows expected (answer count hit) (plainAnswer hit)) :
    Follows expected (lookUp context keys value index approximate mode answer)
      (Builtin.lookUp context keys value index approximate mode plainAnswer) := by
  refine .bind (.same _) fun request hrequest => ?_
  -- a request has the source that it was made for
  have hsource : request.source.Within inGrid := by
    unfold Request.of at hrequest
    cases value with
    | error fault => cases hrequest
    | array rows => cases hrequest
    | _ =>
        cases hrequest
        exact h
  unfold Lookup.search
  rw [bind_assoc]
  refine .bind (navigate_follows hsource) fun navigator hnavigator => ?_
  obtain ⟨hfind, hwithin⟩ := find_eq request.value mode (navigate_start hnavigator)
  refine .step hfind ?_
  rw [pure_bind]
  cases hfound : (Lookup.find request.value mode navigator).1 with
  | none => exact .same _
  | some hit => exact hanswer _ hit (hwithin hit hfound)

end Walks

/-! ## Functions over tables -/

section Functions

variable {expected : Trap → LookupError → Prop}

/-- The number of a result is not a number. -/
def IndexNotNumber (value : Value) : Prop :=
  ∃ amount, value.toNumber = .ok amount ∧ Number.isNotNumber amount = true

/-- What is not a number is not less than one, and nothing else is a number of a result unless it
is at least one. -/
theorem result_number_eq_ok_iff {value : Value} {amount : Float} :
    Builtin.resultNumber value = .ok amount ↔
      value.toNumber = .ok amount ∧
        (Number.isNotNumber amount = true ∨ 1 ≤ Number.wholePart amount) := by
  unfold Builtin.resultNumber
  cases value.toNumber with
  | error fault => simp [bind, Except.bind]
  | ok found =>
      dsimp only [bind, Except.bind]
      by_cases hnumber : Number.isNotNumber found = true
      · rw [hnumber]
        refine ⟨fun h => ?_, fun h => h.1⟩
        obtain rfl : found = amount := Except.ok.inj h
        exact ⟨rfl, .inl hnumber⟩
      · rw [Bool.not_eq_true] at hnumber
        rw [hnumber, Bool.not_false, Bool.true_and]
        by_cases hless : Number.wholePart found < 1
        · rw [if_pos (decide_eq_true hless)]
          refine ⟨nofun, fun ⟨hsame, hone⟩ => ?_⟩
          obtain rfl := Except.ok.inj hsame
          simp [hnumber] at hone
          omega
        · rw [if_neg (by simpa using hless)]
          refine ⟨fun h => ?_, fun h => h.1⟩
          obtain rfl : found = amount := Except.ok.inj h
          exact ⟨rfl, .inr (Int.not_lt.mp hless)⟩

/-- What is not a number counts as zero, which has no predecessor. -/
theorem result_index_not_number {amount : Float} (h : Number.isNotNumber amount = true) :
    resultIndex amount = .error .belowZero := by
  rw [resultIndex, Number.wholePart, Number.is_not_number_iff.mp h]
  rfl

/-- The number of a result that is at least one has the steps before it that lead there. -/
theorem result_index_eq {amount : Float} (h : 1 ≤ Number.wholePart amount) :
    resultIndex amount = .ok (Number.wholePart amount - 1).toNat := by
  rw [resultIndex, minus_eq (by omega)]
  congr 1
  omega

variable (context : Context) (operands : List Operand)

/-- The ranges among operands lie inside the grid. -/
def AllInGrid (operands : List Operand) : Prop := ∀ operand ∈ operands, operand.Within inGrid

variable {operands}

/-- Whether the nearest key will do is an answer. -/
theorem answers_approximate_at (index : Nat) :
    Lookup.Answers False (Builtin.approximateAt context operands index) := by
  unfold Builtin.approximateAt
  cases Builtin.valueAt context operands index with
  | none => exact Lookup.answers_ok _
  | some flag => exact Builtin.answers_coerced _

/-- Where the number of its result is not a number, a table lookup is refused before its steps are
counted, or it is stopped while they are, where one without a machine breaks off. -/
theorem table_lookup_of_not_number (along : Direction)
    (hindex : IndexNotNumber ((Builtin.valueAt context operands 2).getD .empty)) :
    ((tableLookup along context operands).run =
          .ok (Builtin.tableLookup along context operands) ∧
        Builtin.tableLookup along context operands ≠ .error .indexNotNumber) ∨
      ((tableLookup along context operands).run = .error .belowZero ∧
        Builtin.tableLookup along context operands = .error .indexNotNumber) := by
  obtain ⟨amount, hamount, hnan⟩ := hindex
  rw [Builtin.table_lookup_eq, tableLookup, result_number_eq_ok_iff.mpr ⟨hamount, .inl hnan⟩]
  cases hkeys : Builtin.operandAt operands 1 with
  | error failure =>
      refine Or.inl ⟨rfl, fun heq => ?_⟩
      obtain rfl : failure = .indexNotNumber := Except.error.inj heq
      exact (Builtin.answers_operand_at operands 1).ne hkeys
  | ok keys =>
      cases happroximate : Builtin.approximateAt context operands 3 with
      | error failure =>
          refine Or.inl ⟨rfl, fun heq => ?_⟩
          obtain rfl : failure = .indexNotNumber := Except.error.inj heq
          exact (answers_approximate_at context 3).ne happroximate
      | ok approximate =>
          refine Or.inr ⟨?_, ?_⟩
          · show (liftM (resultIndex amount) >>= fun index => lookUp _ _ _ _ _ _ _ :
              Guarded LookupError Value).run = _
            rw [result_index_not_number hnan]
            rfl
          · show (Builtin.resultIndex amount >>= fun index => Builtin.lookUp _ _ _ _ _ _ _) = _
            rw [Builtin.resultIndex, if_pos hnan]
            rfl

/-- A table lookup follows the plain one on operands within the grid, unless the number of its
result is not a number. -/
theorem table_lookup_follows (h : AllInGrid operands) (along : Direction)
    (hfree : ∀ amount, Builtin.resultNumber ((Builtin.valueAt context operands 2).getD .empty) =
      .ok amount → Number.isNotNumber amount = true → False) :
    Follows Never (tableLookup along context operands)
      (Builtin.tableLookup along context operands) := by
  rw [Builtin.table_lookup_eq]
  refine .bind (.same _) fun keys hkeys => .bind (.same _) fun amount hamount =>
    .bind (.same _) fun approximate _ => ?_
  have hresult := map_error_eq_ok_iff.mp hamount
  have hnumber : Number.isNotNumber amount = false := by
    rw [← Bool.not_eq_true]
    exact hfree amount hresult
  have hone : 1 ≤ Number.wholePart amount := by
    simpa [hnumber] using (result_number_eq_ok_iff.mp hresult).2
  have hwithin := Builtin.table_within (h _ (Builtin.mem_of_operand_at hkeys)) along
  refine .step (result_index_eq hone) ?_
  rw [Builtin.resultIndex, hnumber, if_neg Bool.false_ne_true]
  exact look_up_follows hwithin fun _ _ _ => .pure _

/-- A table lookup is stopped only by a number of a result that is not a number, where one without
a machine breaks off; otherwise none does. -/
theorem table_lookup_run (h : AllInGrid operands) (along : Direction) :
    ((tableLookup along context operands).run =
          .ok (Builtin.tableLookup along context operands) ∧
        Builtin.tableLookup along context operands ≠ .error .indexNotNumber) ∨
      (IndexNotNumber ((Builtin.valueAt context operands 2).getD .empty) ∧
        (tableLookup along context operands).run = .error .belowZero ∧
        Builtin.tableLookup along context operands = .error .indexNotNumber) := by
  by_cases hindex : IndexNotNumber ((Builtin.valueAt context operands 2).getD .empty)
  · exact (table_lookup_of_not_number context along hindex).imp_right fun hstopped =>
      ⟨hindex, hstopped⟩
  · have hfree := fun amount hamount hnan =>
      hindex ⟨amount, (result_number_eq_ok_iff.mp hamount).1, hnan⟩
    exact Or.inl ⟨(table_lookup_follows context h along hfree).run_eq,
      (Builtin.answers_table_lookup context operands hfree along).ne⟩

/-- Reading an operand within the grid as a vector follows the plain reading. -/
theorem vector_follows {operand : Operand} (h : operand.Within inGrid) :
    Follows expected (vector operand) (Builtin.vector operand) :=
  .step (dimensions_eq h) (.same _)

/-- The function `MATCH` follows the plain function on operands within the grid. -/
theorem position_follows (h : AllInGrid operands) :
    Follows expected (position context operands) (Builtin.position context operands) := by
  rw [Builtin.position_eq]
  refine .bind (.same _) fun number _ => .bind (.same _) fun operand hoperand => ?_
  have hwithin := h _ (Builtin.mem_of_operand_at hoperand)
  refine .bind (vector_follows hwithin) fun keys hkeys => ?_
  refine look_up_follows (Builtin.vector_within hwithin hkeys) fun count hit hhit => ?_
  exact .step (following_eq hhit) (.pure _)

/-- The function `LOOKUP` follows the plain function on operands within the grid. -/
theorem vector_lookup_follows (h : AllInGrid operands) :
    Follows expected (vectorLookup context operands) (Builtin.vectorLookup context operands) := by
  match operands with
  | [] => exact .throw _
  | [value] => exact .throw _
  | [value, keys] =>
      rw [Builtin.vector_lookup_alone]
      have hkeys : keys.Within inGrid := h keys (by simp)
      refine .step (dimensions_eq hkeys) ?_
      exact look_up_follows (Builtin.table_within hkeys _) fun _ _ _ => .pure _
  | value :: keys :: results :: more =>
      rw [Builtin.vector_lookup_beside]
      have hkeys : keys.Within inGrid := h keys (by simp)
      refine .step (dimensions_eq hkeys) ?_
      exact look_up_follows (Builtin.table_within hkeys _) fun _ _ _ => .same _

/-- The functions `ROWS` and `COLUMNS` follow the plain functions on operands within the grid. -/
theorem dimension_follows (pick : Nat × Nat → Nat) (h : AllInGrid operands) :
    Follows expected (dimension pick context operands)
      (Builtin.dimension pick context operands) := by
  refine .bind (.same _) fun operand hoperand => ?_
  exact .step (dimensions_eq (h _ (Builtin.mem_of_operand_at hoperand))) (.pure _)

end Functions

end Spreadsheet.Machine
