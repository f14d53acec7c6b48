import Spreadsheet.Builtin.Arithmetic
import Spreadsheet.Builtin.Tables
import Spreadsheet.Builtin.Texts
import Spreadsheet.Proofs.Machine.Checked
import Spreadsheet.Proofs.Number.WholePart

/-!
# Functions over values on a machine

The functions over numbers and texts, and the choice among values, that use operations which can
stop a machine. None of them is stopped, whatever the operands, but for a draw between bounds of
which one is not a number.
-/

namespace Spreadsheet.Machine

open Formula (FormulaError)
open Number (RoundingMode minInteger maxInteger)

/-- A power of ten as the coefficient of a decimal, by way of an integer of 128 bits. -/
def tenPower (count : Nat) : Checked Nat := do unsigned 96 (← unsigned 127 (10 ^ count))

/-- `ROUND`, `ROUNDUP` and `ROUNDDOWN`: negative places divide by a power of ten. -/
def rounded (mode : RoundingMode) (operands : List Value) : Guarded ErrorValue Value := do
  let amount ← Builtin.number operands 0
  let places ← Builtin.integer operands 1
  if places < 0 then
    let _ ← tenPower (min places.natAbs Number.maxPlaces)
    return .number (Number.round amount places mode)
  else return .number (Number.round amount places mode)

/-- `RANDBETWEEN(low, high)` -/
def randomBetween (seed : Seed) (operands : List Value) : Guarded FormulaError Value :=
  match Builtin.drawBounds operands with
  | .error fault => return .error fault
  | .ok (low, high) => do
    let drawn ← draw seed (Number.wholePart low) (Number.wholePart high)
    return Builtin.ofInteger drawn

/-- `MID(text, start, count)` -/
def middle (operands : List Value) : Guarded ErrorValue Value := do
  let chars := (← Builtin.text operands 0).toList
  let start ← Builtin.integer operands 1
  let count ← Builtin.integer operands 2
  if start < 1 ∨ count < 0 then throw .value
  let skipped ← signed (start - 1)
  return Builtin.ofChars ((chars.drop skipped.toNat).take count.toNat)

/-- The bytes of characters in memory. -/
def byteCount (chars : List Char) : Nat := (chars.map Char.utf8Size).sum

/-- `REPT(text, count)`: the bytes of the result are counted before it is made. -/
def repetition (operands : List Value) : Guarded ErrorValue Value := do
  let chars := (← Builtin.text operands 0).toList
  let times ← Builtin.integer operands 1
  if times < 0 then throw .value
  if Builtin.textLimit < chars.length * times.toNat then throw .value
  let _ ← unsigned 64 (byteCount chars * times.toNat)
  if chars.isEmpty then return Builtin.ofChars []
  return Builtin.ofChars (List.replicate times.toNat chars).flatten

/-- The part of rows that a row and a column number from one select. -/
def part (rows : List (List Value)) (row column : Nat) : Guarded ErrorValue Value :=
  match row, column with
  | 0, 0 => return .array rows
  | 0, column => do
    let index ← minus column 1
    return .array (rows.map fun line => [Builtin.itemIn line index])
  | row, 0 => do
    let index ← minus row 1
    ((rows[index]?).elim (.error .reference) fun line => .ok (.array [line]) : Builtin.Result)
  | row, column => do
    let index ← minus row 1
    let offset ← minus column 1
    (((rows[index]?).bind fun items => items[offset]?).elim (.error .reference) .ok :
      Builtin.Result)

/-- `INDEX(array, row, column)` -/
def index (operands : List Value) : Guarded ErrorValue Value := do
  let rows := Builtin.rowsOf (Builtin.operand operands 0)
  let row ← Builtin.integer operands 1
  let column ← if operands.length ≤ 2 then pure 0 else liftM (Builtin.integer operands 2)
  if row < 0 ∨ column < 0 then throw .value
  let height := rows.length
  let width := (rows.headD []).length
  let (row, column) :=
    if operands.length = 2 ∧ height = 1 then (1, row)
    else if width = 1 ∧ column = 0 then (row, 1)
    else (row, column)
  if (height : Int) < row ∨ (width : Int) < column then throw .reference
  part rows row.toNat column.toNat

/-- `CHOOSE(number, value, …)` -/
def chooseAmong (operands : List Value) : Guarded ErrorValue Value := do
  let amount ← Builtin.number operands 0
  let whole := Number.wholePart amount
  if Number.isNotNumber amount || whole < 1 || operands.length ≤ whole then throw .value
  (element operands whole.toNat : Checked Value)

section

variable (operands : List Value)

/-- The powers of ten that rounding asks for fit. -/
theorem ten_power_eq {count : Nat} (h : count ≤ Number.maxPlaces) :
    tenPower count = .ok (10 ^ count) := by
  have hpower : 10 ^ count ≤ 10 ^ 28 := Nat.pow_le_pow_right (by decide) h
  rw [tenPower, unsigned_eq (hpower.trans_lt (by decide))]
  exact unsigned_eq (hpower.trans_lt (by decide))

/-- The functions that round follow the plain ones. -/
theorem rounded_follows (mode : RoundingMode) :
    Follows Never (rounded mode operands) (Builtin.rounded mode operands) := by
  refine .bind (.same _) fun amount _ => ?_
  refine .bind (.same _) fun places _ => ?_
  split
  · exact .step (ten_power_eq (min_le_right _ _)) (.pure _)
  · exact .pure _

/-- The whole part of an operand fits 64 bits. -/
theorem integer_range {index : Nat} {amount : Int}
    (h : Builtin.integer operands index = .ok amount) : -2 ^ 63 ≤ amount ∧ amount < 2 ^ 63 := by
  unfold Builtin.integer at h
  cases hnumber : Builtin.number operands index with
  | error fault =>
      rw [hnumber] at h
      cases h
  | ok number =>
      rw [hnumber] at h
      cases h
      have hrange := Number.whole_part_range number
      unfold Number.minInteger Number.maxInteger at hrange
      omega

/-- The function `MID` follows the plain function. -/
theorem middle_follows : Follows Never (middle operands) (Builtin.middle operands) := by
  refine .bind (.same _) fun text _ => ?_
  refine .bind (.same _) fun start hstart => ?_
  refine .bind (.same _) fun count _ => ?_
  dsimp only
  split
  · exact .refuse _
  · have hrange := integer_range operands hstart
    exact .step (signed_eq (by omega) (by omega)) (.pure _)

/-- No character takes more than four bytes. -/
theorem byte_count_le (chars : List Char) : byteCount chars ≤ 4 * chars.length := by
  unfold byteCount
  induction chars with
  | nil => exact Nat.le_refl 0
  | cons char rest ih =>
      have hchar := char.utf8Size_le_four
      rw [List.map_cons, List.sum_cons, List.length_cons]
      omega

/-- The function `REPT` follows the plain function. -/
theorem repetition_follows : Follows Never (repetition operands) (Builtin.repetition operands) := by
  refine .bind (.same _) fun text _ => ?_
  refine .bind (.same _) fun times _ => ?_
  dsimp only
  split
  · exact .refuse _
  · split
    · exact .refuse _
    · rename_i hlimit
      refine .step (unsigned_eq ?_) ?_
      · unfold Builtin.textLimit at hlimit
        have hbytes := Nat.mul_le_mul_right times.toNat (byte_count_le text.toList)
        rw [Nat.mul_assoc] at hbytes
        omega
      · split
        · exact .pure _
        · exact .pure _

/-- Taking a part of a table follows the plain selection. -/
theorem part_follows (rows : List (List Value)) (row column : Nat) :
    Follows Never (part rows row column) (Builtin.part rows row column) := by
  cases row with
  | zero =>
      cases column with
      | zero => exact .pure _
      | succ column => exact .step (minus_eq (Nat.succ_pos column)) (.pure _)
  | succ row =>
      cases column with
      | zero => exact .step (minus_eq (Nat.succ_pos row)) (.same _)
      | succ column =>
          exact .step (minus_eq (Nat.succ_pos row))
            (.step (minus_eq (Nat.succ_pos column)) (.same _))

/-- The function `INDEX` follows the plain function. -/
theorem index_follows : Follows Never (index operands) (Builtin.index operands) := by
  -- the column is read in one branch alone, so what comes after it is settled for any selection
  have hselected : ∀ selected : Int × Int,
      let rows := Builtin.rowsOf (Builtin.operand operands 0)
      Follows Never
        (if (rows.length : Int) < selected.1 ∨ ((rows.headD []).length : Int) < selected.2 then do
          throw ErrorValue.reference
          part rows selected.1.toNat selected.2.toNat
        else part rows selected.1.toNat selected.2.toNat)
        (if (rows.length : Int) < selected.1 ∨ ((rows.headD []).length : Int) < selected.2 then do
          throw ErrorValue.reference
          Builtin.part rows selected.1.toNat selected.2.toNat
        else Builtin.part rows selected.1.toNat selected.2.toNat) := by
    intro selected rows
    split
    · exact .refuse _
    · exact part_follows _ _ _
  refine .bind (.same _) fun row _ => ?_
  dsimp only
  split
  · refine .bind (.pure 0) fun column _ => ?_
    split
    · exact .refuse _
    · exact hselected _
  · refine .bind (.same _) fun column _ => ?_
    split
    · exact .refuse _
    · exact hselected _

/-- The function `CHOOSE` follows the plain function. -/
theorem choose_among_follows :
    Follows Never (chooseAmong operands) (Builtin.chooseAmong operands) := by
  refine .bind (.same _) fun amount _ => ?_
  dsimp only
  split
  · exact .refuse _
  · rename_i hrange
    simp only [Bool.or_eq_true, decide_eq_true_eq, not_or, Int.not_lt, Int.not_le] at hrange
    obtain ⟨⟨-, hleast⟩, hmost⟩ := hrange
    have hindex : (Number.wholePart amount).toNat < operands.length := by omega
    refine .value (element_eq ?_)
    rw [Builtin.operand, List.getElem?_eq_getElem hindex]
    rfl

/-- One of the bounds of a draw is not a number. -/
def BoundNotNumber : Prop :=
  ∃ index < 2, ∃ amount, Builtin.number operands index = .ok amount ∧
    Number.isNotNumber amount = true

/-- Bounds that are numbers are in order. -/
theorem draw_bounds_ordered {low high : Float} (hnumbers : ¬ BoundNotNumber operands)
    (h : Builtin.drawBounds operands = .ok (low, high)) :
    Number.wholePart low ≤ Number.wholePart high := by
  have hnumber : ∀ index < 2, ∀ amount, Builtin.number operands index = .ok amount →
      Number.isNotNumber amount = false := by
    intro index hindex amount hamount
    rw [← Bool.not_eq_true]
    exact fun hnan => hnumbers ⟨index, hindex, amount, hamount, hnan⟩
  unfold Builtin.drawBounds at h
  cases hlow : Builtin.number operands 0 with
  | error fault =>
      rw [hlow] at h
      cases h
  | ok first =>
      cases hhigh : Builtin.number operands 1 with
      | error fault =>
          rw [hlow, hhigh] at h
          cases h
      | ok second =>
          rw [hlow, hhigh] at h
          simp only [bind, Except.bind] at h
          split at h
          · cases h
          · rename_i hordered
            cases h
            -- the guard compares the rounded bounds, whose whole parts are what is drawn between
            refine Number.whole_part_le ?_ ?_ hordered
            · rw [Number.ceiling_not_number, hnumber 0 (by decide) first hlow]
            · rw [Number.floor_not_number, hnumber 1 (by decide) second hhigh]

/-- A draw is stopped only if one of its bounds is not a number, where one without a machine breaks
off; otherwise none does. -/
theorem random_between_run (seed : Seed) :
    ((randomBetween seed operands).run = .ok (Builtin.randomBetween seed operands) ∧
        Builtin.randomBetween seed operands ≠ .error .emptyDraw) ∨
      (BoundNotNumber operands ∧ (randomBetween seed operands).run = .error .emptyRange ∧
        Builtin.randomBetween seed operands = .error .emptyDraw) := by
  unfold randomBetween Builtin.randomBetween
  cases hbounds : Builtin.drawBounds operands with
  | error fault => exact Or.inl ⟨rfl, nofun⟩
  | ok bounds =>
      obtain ⟨low, high⟩ := bounds
      dsimp only
      by_cases hless : Number.wholePart high < Number.wholePart low
      · refine Or.inr ⟨?_, ?_, if_pos hless⟩
        · by_contra hnumbers
          exact absurd (draw_bounds_ordered operands hnumbers hbounds) (Int.not_le.mpr hless)
        · rw [draw, if_pos hless]
          rfl
      · rw [if_neg hless, draw_eq seed (Int.not_lt.mp hless)]
        exact Or.inl ⟨rfl, nofun⟩

end

end Spreadsheet.Machine
