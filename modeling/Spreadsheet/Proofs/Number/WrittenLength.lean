import Spreadsheet.Number.Rendering
import Spreadsheet.Proofs.Number.Difference

/-!
# How long written numbers are

A number is written with every digit in its place, so its size alone bounds how many characters it
takes. The bounds here are generous, as powers of two and five are taken for powers of ten, and what
comes out is still far less than the longest text: no number takes more characters than
`lengthBound`, in a cell (`length_render_le`) or inside text (`length_render_general_le`).
-/

namespace Spreadsheet.Number

/-- No number takes more characters. -/
def lengthBound : Nat := 3000

/-- Whether a decimal has at most so many digits, and an exponent of at most such a size. -/
def Decimal.Within (decimal : Decimal) (places reach : Nat) : Prop :=
  decimal.digits < 10 ^ places ∧ decimal.exponent.natAbs ≤ reach

section Decimals

variable {decimal : Decimal} {places reach : Nat}

/-- A decimal within a size is within every greater one. -/
theorem Decimal.Within.mono {morePlaces moreReach : Nat} (h : decimal.Within places reach)
    (hplaces : places ≤ morePlaces) (hreach : reach ≤ moreReach) :
    decimal.Within morePlaces moreReach :=
  ⟨Nat.lt_of_lt_of_le h.1 (Nat.pow_le_pow_right (by decide) hplaces), Nat.le_trans h.2 hreach⟩

/-- Each digit, zeros to the point, and the point with a zero before it. -/
theorem Decimal.Within.length_positional_le (h : decimal.Within places reach)
    (hplaces : 0 < places) : decimal.positional.length ≤ places + reach + 2 := by
  obtain ⟨hdigits, hreach⟩ := h
  rw [← Nat.length_toDigits_le_iff (by decide) hplaces] at hdigits
  unfold positional
  dsimp only
  split
  · simp only [List.length_append, List.length_replicate]
    omega
  · split
    · simp only [List.length_append, List.length_cons, List.length_take, List.length_drop]
      omega
    · simp only [List.length_append, List.length_cons, List.length_replicate]
      omega

/-- Stripping zeros adds no digits, and at most one to the exponent for each zero. -/
theorem Decimal.Within.strip (h : decimal.Within places reach) (limit : Nat) :
    (decimal.strip limit).Within places (reach + limit) := by
  induction limit generalizing decimal reach with
  | zero => exact h
  | succ limit ih =>
      obtain ⟨hdigits, hreach⟩ := h
      rw [Decimal.strip]
      split
      · have hnext : Decimal.Within ⟨decimal.digits / 10, decimal.exponent + 1⟩ places
            (reach + 1) := by
          refine ⟨Nat.lt_of_le_of_lt (Nat.div_le_self _ _) hdigits, ?_⟩
          dsimp only
          omega
        rw [Nat.add_comm limit, ← Nat.add_assoc]
        exact ih hnext
      · exact ⟨hdigits, by omega⟩

end Decimals

/-- Whether a positive number may be one of the 64-bit numbers, by its size. -/
structure Positive.Sized (value : Positive) : Prop where
  mantissa_lt : value.mantissa < 2 ^ 53
  least : -1074 ≤ value.exponent
  greatest : value.exponent ≤ 973

namespace Positive

variable {value : Positive}

/-- The power of ten of a number with a size is at most 330. -/
theorem Sized.power_le (h : value.Sized) : value.power.natAbs ≤ 330 := by
  obtain ⟨hmantissa, hleast, hgreatest⟩ := h
  have hlog : value.mantissa.log2 < 53 := by
    by_cases hzero : value.mantissa = 0
    · simp [hzero]
    · exact (Nat.log2_lt hzero).mpr hmantissa
  unfold power
  rw [Int.fdiv_eq_ediv_of_nonneg _ (by decide)]
  dsimp only
  generalize hestimate : (value.mantissa.log2 + value.exponent) * 30103 / 100000 = estimate
  cases hfound : [estimate - 1, estimate, estimate + 1, estimate + 2].find? value.below with
  | none =>
      rw [Option.getD_none]
      omega
  | some power =>
      have hmem := List.mem_of_find?_eq_some hfound
      simp only [List.mem_cons, List.not_mem_nil, or_false] at hmem
      rw [Option.getD_some]
      omega

/-- A power of a base up to ten is at most that power of ten, or any higher one. -/
theorem pow_le_ten_pow {base exponent bound : Nat} (hbase : base ≤ 10) (h : exponent ≤ bound) :
    base ^ exponent ≤ 10 ^ bound :=
  Nat.le_trans (Nat.pow_le_pow_left hbase _) (Nat.pow_le_pow_right (by decide) h)

/-- A product stays below the powers of ten that bound its factors, taken together. -/
theorem mul_lt_ten_pow {left right places bound : Nat} (hleft : left < 10 ^ places)
    (hright : right ≤ 10 ^ bound) : left * right < 10 ^ (places + bound) := by
  rw [Nat.pow_add]
  exact Nat.mul_lt_mul_of_lt_of_le hleft hright (Nat.pow_pos (by decide))

/-- A mantissa has at most 54 digits. -/
theorem Sized.mantissa_lt_ten_pow (h : value.Sized) : value.mantissa + 1 < 10 ^ 54 :=
  Nat.lt_of_le_of_lt h.mantissa_lt (by decide)

/-- On a grid a number has no more digits than its mantissa and its scale together. -/
theorem Sized.on_grid_digits (h : value.Sized) {step : Int} {decimal : Decimal} {bound : Nat}
    (hup : (Scale.ofGrid value.exponent step).up ≤ 10 ^ bound)
    (hdecimal : value.onGrid step = some decimal) :
    decimal.digits < 10 ^ (54 + bound) ∧ decimal.exponent = step := by
  have hpositive : 0 < (Scale.ofGrid value.exponent step).up :=
    Nat.mul_pos (Nat.pow_pos (by decide)) (Nat.pow_pos (by decide))
  have habove : value.mantissa * (Scale.ofGrid value.exponent step).up /
      (Scale.ofGrid value.exponent step).down + 1 < 10 ^ (54 + bound) := by
    refine Nat.lt_of_le_of_lt ?_ (mul_lt_ten_pow h.mantissa_lt_ten_pow hup)
    rw [Nat.add_mul, Nat.one_mul]
    exact Nat.add_le_add (Nat.div_le_self _ _) hpositive
  unfold onGrid at hdecimal
  dsimp only at hdecimal
  split at hdecimal
  · obtain rfl := Option.some.inj hdecimal
    refine ⟨?_, rfl⟩
    dsimp only
    split
    · exact Nat.lt_of_succ_lt habove
    · exact habove
  · obtain rfl := Option.some.inj hdecimal
    exact ⟨Nat.lt_of_succ_lt habove, rfl⟩
  · obtain rfl := Option.some.inj hdecimal
    exact ⟨habove, rfl⟩
  · cases hdecimal

/-- The factor that brings a number on a grid has few enough digits. -/
theorem up_le {exponent step : Int} (binary decimal : Nat) (hbinary : exponent ≤ binary)
    (hdecimal : -step ≤ decimal) :
    (Scale.ofGrid exponent step).up ≤ 10 ^ (binary + decimal) := by
  rw [Nat.pow_add]
  exact Nat.mul_le_mul (pow_le_ten_pow (by decide) (Int.toNat_le.mpr hbinary))
    (pow_le_ten_pow (by decide) (Int.toNat_le.mpr hdecimal))

/-- The digits of a number without rounding: those of its mantissa, and one for each factor. -/
theorem Sized.exact_within (h : value.Sized) (bound : Nat)
    (hbound : value.exponent.natAbs ≤ bound) :
    value.exact.Within (54 + bound) bound := by
  have hmantissa := Nat.lt_of_succ_lt h.mantissa_lt_ten_pow
  unfold exact
  split
  · exact ⟨mul_lt_ten_pow hmantissa (pow_le_ten_pow (by decide) (by omega)), by simp⟩
  · exact ⟨mul_lt_ten_pow hmantissa (pow_le_ten_pow (by decide) (by omega)), hbound⟩

/-- The shortest form of a number has few enough digits and a small enough exponent. -/
theorem Sized.shortest_within (h : value.Sized) :
    value.shortest.Within (54 + (973 + 350)) (1074 + 400) := by
  have hpower := h.power_le
  have hleast := h.least
  have hgreatest := h.greatest
  refine Decimal.Within.strip ?_ 400
  cases hfound : (List.range 17).findSome? fun (count : Nat) =>
      value.onGrid (value.power - (count + 1)) with
  | none => exact (h.exact_within 1074 (by omega)).mono (by decide) (Nat.le_refl _)
  | some decimal =>
      obtain ⟨count, hcount, hdecimal⟩ := List.exists_of_findSome?_eq_some hfound
      have hseventeen := List.mem_range.mp hcount
      obtain ⟨hdigits, hexponent⟩ :=
        h.on_grid_digits (up_le 973 350 (by omega) (by omega)) hdecimal
      exact ⟨hdigits, by rw [Option.getD_some, hexponent]; omega⟩

end Positive

/-- A finite number has a size. -/
theorem sized_of_parts {number : Float} {negative : Bool} {mantissa : Nat} {exponent : Int}
    (h : parts number = .finite negative mantissa exponent) :
    (Positive.ofParts mantissa exponent).Sized := by
  obtain ⟨-, hmantissa, hleast, hfull, hmagnitude⟩ := of_parts_finite h
  have hless := magnitude_lt number
  unfold hiddenBit at hmantissa hfull hmagnitude
  unfold signBit at hless
  refine ⟨hmantissa, hleast, ?_⟩
  show exponent ≤ 973
  split at hmagnitude
  · omega
  · omega

/-- No number is written with more characters than the bound. -/
theorem length_render_le (number : Float) : (render number).length ≤ lengthBound := by
  unfold render renderWith
  split
  · decide
  · split
    · decide
    · decide
  · rename_i negative mantissa exponent hparts
    have hform : (if mantissa = 0 then (⟨0, 0⟩ : Decimal)
        else (Positive.ofParts mantissa exponent).shortest).positional.length < lengthBound := by
      split
      · decide
      · have hlength := (sized_of_parts hparts).shortest_within.length_positional_le (by decide)
        exact Nat.lt_of_le_of_lt hlength (by decide)
    rw [String.length_ofList, List.length_append]
    cases negative with
    | true => exact Nat.add_comm _ _ ▸ hform
    | false => exact Nat.le_of_lt (Nat.zero_add _ ▸ hform)

/-- No number is written in the general form with more characters than the bound. -/
theorem length_render_general_le (number : Float) :
    (renderGeneral number).length ≤ lengthBound := by
  unfold renderGeneral
  split
  · rename_i hsmall
    simp only [Bool.and_eq_true, decide_eq_true_eq] at hsmall
    have hdigits : (wholePart number).natAbs.repr.length ≤ 15 := by
      rw [← String.length_toList, Nat.toList_repr,
        Nat.length_toDigits_le_iff (by decide) (by decide)]
      exact hsmall.2
    rw [Int.toString_eq_repr, Int.repr_eq_if]
    split
    · rename_i hsign
      rw [← Int.toNat_of_nonneg hsign] at hdigits
      exact Nat.le_trans hdigits (by decide)
    · rename_i hsign
      have hsize : (-wholePart number).toNat = (wholePart number).natAbs := by omega
      rw [hsize, String.length_append]
      exact Nat.le_trans (Nat.add_le_add_left hdigits _) (by decide)
  · exact length_render_le number

end Spreadsheet.Number
