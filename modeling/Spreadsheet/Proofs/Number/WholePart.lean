import Spreadsheet.Proofs.Number.Difference

/-!
# Whole parts

Cutting off the digits after the point gives an integer of 64 bits, in the order of the numbers
(`whole_part_le`). What is not a number has no place in that order; rounding up or down neither
makes one of a number nor a number of one, so a bound that is rounded first is no better and no
worse for it.
-/

namespace Spreadsheet.Number

open Float.Model (Format UnpackedFloat)
open Float.Model.UnpackedFloat

/-! ## What is not a number -/

section NotNumbers

variable {number : Float} {unpacked : UnpackedFloat}

/-- A number is undefined exactly if it is unpacked so. -/
theorem not_number_unpack :
    isNotNumber number = true ↔ number.toModel.unpack = .notANumber := by
  rw [is_not_number_iff, parts_eq]
  cases number.toModel.unpack <;> simp [partsOf]

/-- Bits whose exponent is not the greatest stand for a number. -/
theorem unpack_ne {bits : BitVec 64}
    (h : @unpackExponent Format.binary64 bits = -1#11 →
      @unpackMantissa Format.binary64 bits = 0#52) :
    UnpackedFloat.unpack Format.binary64 bits ≠ .notANumber := by
  unfold UnpackedFloat.unpack
  dsimp only
  split
  · rename_i hfull
    rw [if_pos (h hfull)]
    nofun
  · split
    · split <;> nofun
    · nofun

/-- Components are unpacked as a number unless the exponent is full and the fraction
is not empty. -/
theorem unpack_components_ne {sign : Sign} {exponent : BitVec 11} {fraction : BitVec 52}
    (h : exponent = -1#11 → fraction = 0#52) :
    UnpackedFloat.unpack Format.binary64
      (packComponents Format.binary64 sign exponent fraction) ≠ .notANumber := by
  apply unpack_ne
  rw [unpackExponent_packComponents, unpackMantissa_packComponents]
  exact h

/-- Only what is not a number is packed as that. -/
theorem unpack_pack_ne (h : unpacked ≠ .notANumber) :
    (Float.Model.pack unpacked).unpack ≠ .notANumber := by
  show UnpackedFloat.unpack Format.binary64 (UnpackedFloat.pack Format.binary64 unpacked) ≠ _
  have hinfinite : ∀ sign, UnpackedFloat.unpack Format.binary64
      (packedInfinity Format.binary64 sign) ≠ .notANumber :=
    fun sign => unpack_components_ne fun _ => rfl
  cases unpacked with
  | notANumber => exact absurd rfl h
  | infinity sign => exact hinfinite sign
  | zero sign => exact unpack_components_ne fun _ => rfl
  | finite sign mantissa exponent hpos =>
      unfold UnpackedFloat.pack
      dsimp only
      split
      · exact hinfinite sign
      · rename_i hfits
        split
        · refine unpack_components_ne fun hfull => ?_
          generalize (exponent + (Format.binary64.exponentBias : Int) +
            (Format.binary64.mantissaBitsWithoutImplicit : Nat)).toNat = biased at hfits hfull
          have hcode := exponent_full_iff.mp hfull
          rw [BitVec.toNat_ofNat] at hcode
          have hlimit : (2 : Nat) ^ Format.binary64.exponentBits = 2048 := rfl
          rw [hlimit] at hfits hcode
          omega
        · exact unpack_components_ne fun hfull => absurd hfull (by decide)

/-- A negated number is undefined exactly if the number is. -/
theorem neg_not_number (number : Float) : isNotNumber (-number) = isNotNumber number := by
  rw [Bool.eq_iff_iff, not_number_unpack, not_number_unpack]
  show (Float.Model.pack number.toModel.unpack.neg).unpack = _ ↔ _
  cases hunpacked : number.toModel.unpack with
  | notANumber => exact ⟨fun _ => rfl, fun _ => rfl⟩
  | infinity sign => exact ⟨fun h => absurd h (unpack_pack_ne nofun), nofun⟩
  | zero sign => exact ⟨fun h => absurd h (unpack_pack_ne nofun), nofun⟩
  | finite sign mantissa exponent hpos => exact ⟨fun h => absurd h (unpack_pack_ne nofun), nofun⟩

/-- Rounding never gives an undefined number. -/
theorem rounded_ne (sign : Sign) (mantissa : Nat) (exponent : Int) (accuracy : Accuracy) :
    roundWithAccuracy Format.binary64 sign mantissa exponent accuracy ≠ .notANumber := by
  unfold roundWithAccuracy
  dsimp only
  split <;> nofun

/-- A number times a finite one other than zero is a number. -/
theorem mul_finite_ne {sign : Sign} {mantissa : Nat} {exponent : Int} {hpos : 0 < mantissa}
    (h : unpacked ≠ .notANumber) :
    mul Format.binary64 unpacked (.finite sign mantissa exponent hpos) ≠ .notANumber := by
  cases unpacked with
  | notANumber => exact absurd rfl h
  | infinity other => nofun
  | zero other => nofun
  | finite other digits power hdigits => exact rounded_ne _ _ _ _

/-- A natural number is never undefined. -/
theorem of_whole_ne (count : Nat) :
    UnpackedFloat.ofScientific Format.binary64 count (Int.ofNat 0) ≠ .notANumber := by
  unfold UnpackedFloat.ofScientific
  split
  · nofun
  · rw [if_neg (by decide), if_neg (by simp), if_pos (by decide)]
    exact mul_finite_ne nofun

/-- An unsigned word is never undefined as a number. -/
theorem of_word_number (word : UInt64) : isNotNumber word.toFloat = false := by
  rw [← Bool.not_eq_true, not_number_unpack]
  apply unpack_pack_ne
  unfold UnpackedFloat.ofUInt64 UnpackedFloat.ofNat UnpackedFloat.ofInt UnpackedFloat.normalize
  split
  · exact rounded_ne _ _ _ _
  · nofun
  · exact rounded_ne _ _ _ _

/-- A count is never undefined as a number. -/
theorem of_nat_number (count : Nat) : isNotNumber (Float.ofNat count) = false := by
  rw [← Bool.not_eq_true, not_number_unpack]
  show (Float.ofScientific count false 0).toModel.unpack ≠ _
  unfold Float.ofScientific
  split
  · -- a small number is its word times one
    have hone : Float.exactlyRepresentablePowersOfTen[0].toModel.unpack =
        .finite .positive 4503599627370496 (-52) (by decide) := rfl
    rw [if_neg (by decide)]
    apply unpack_pack_ne
    rw [hone]
    apply mul_finite_ne
    rw [Ne, ← not_number_unpack, of_word_number]
    decide
  · exact unpack_pack_ne (of_whole_ne _)

/-- An integer is never undefined as a number. -/
theorem of_int_number (amount : Int) : isNotNumber (Float.ofInt amount) = false := by
  cases amount with
  | ofNat count => exact of_nat_number count
  | negSucc count =>
      show isNotNumber (-Float.ofNat count.succ) = false
      rw [neg_not_number, of_nat_number]

/-- Rounding down gives a number for a number, and only for one. -/
theorem floor_not_number (number : Float) : isNotNumber (floor number) = isNotNumber number := by
  unfold floor
  cases hparts : parts number with
  | notNumber => rfl
  | infinite negative => rfl
  | finite negative mantissa exponent =>
      have hnumber : isNotNumber number = false := by
        rw [← Bool.not_eq_true, is_not_number_iff, hparts]
        nofun
      dsimp only
      split
      · rfl
      · split
        · rw [of_int_number, hnumber]
        · rw [of_nat_number, hnumber]

/-- Rounding up gives a number for a number, and only for one. -/
theorem ceiling_not_number (number : Float) :
    isNotNumber (ceiling number) = isNotNumber number := by
  rw [ceiling, neg_not_number, floor_not_number, neg_not_number]

end NotNumbers

/-! ## Whole parts -/

section WholeParts

variable {low high : Float}

/-- Brings an integer into the range of 64 bits. -/
def clamp (amount : Int) : Int := max minInteger (min maxInteger amount)

/-- Clamping keeps the order of integers. -/
theorem clamp_mono {low high : Int} (h : low ≤ high) : clamp low ≤ clamp high :=
  max_le_max le_rfl (min_le_min le_rfl h)

/-- The digits before the point of a mantissa with an exponent. -/
def wholeSize (mantissa : Nat) (exponent : Int) : Nat :=
  if 0 ≤ exponent then mantissa * 2 ^ exponent.toNat else mantissa / 2 ^ (-exponent).toNat

/-- The whole part of an unpacked number. -/
def wholeOf : UnpackedFloat → Int
  | .notANumber => 0
  | .infinity .negative => minInteger
  | .infinity .positive => maxInteger
  | .zero _ => 0
  | .finite .negative mantissa exponent _ => clamp (-(wholeSize mantissa exponent : Int))
  | .finite .positive mantissa exponent _ => clamp (wholeSize mantissa exponent)

/-- The whole part of a finite number is its size with its sign, clamped. -/
theorem whole_part_of_parts {number : Float} {negative : Bool} {mantissa : Nat} {exponent : Int}
    (h : parts number = .finite negative mantissa exponent) :
    wholePart number = clamp (if negative then -(wholeSize mantissa exponent : Int)
      else wholeSize mantissa exponent) := by
  have hsize : (if 0 ≤ exponent then (mantissa : Int) * Nat.pow 2 exponent.toNat
      else mantissa / Nat.pow 2 (-exponent).toNat) = wholeSize mantissa exponent := by
    unfold wholeSize
    split <;> simp
  unfold wholePart
  rw [h]
  dsimp only
  rw [hsize]
  rfl

/-- The whole part can be read off the unpacked number. -/
theorem whole_part_eq (number : Float) : wholePart number = wholeOf number.toModel.unpack := by
  have hparts := parts_eq number
  cases hunpacked : number.toModel.unpack with
  | notANumber =>
      rw [wholePart, hparts, hunpacked]
      rfl
  | infinity sign =>
      rw [wholePart, hparts, hunpacked]
      cases sign <;> rfl
  | zero sign =>
      have hzero : wholeSize 0 (-1074) = 0 := by
        rw [wholeSize, if_neg (by decide), Nat.zero_div]
      rw [hunpacked] at hparts
      rw [whole_part_of_parts hparts, hzero]
      cases sign <;> rfl
  | finite sign mantissa exponent hpos =>
      rw [hunpacked] at hparts
      rw [whole_part_of_parts hparts]
      cases sign <;> rfl

/-- Seen from a low enough place, whole sizes are quotients by one number. -/
theorem whole_size_eq (mantissa : Nat) {exponent : Int} {places : Nat} (h : -places ≤ exponent) :
    wholeSize mantissa exponent = mantissa * 2 ^ (exponent + places).toNat / 2 ^ places := by
  unfold wholeSize
  split
  · have hsplit : (exponent + places).toNat = exponent.toNat + places := by omega
    rw [hsplit, Nat.pow_add, ← Nat.mul_assoc, Nat.mul_div_cancel _ (Nat.two_pow_pos _)]
  · have hsplit : places = (-exponent).toNat + (exponent + places).toNat := by omega
    rw [hsplit, Nat.pow_add, ← hsplit, Nat.mul_div_mul_right _ _ (Nat.two_pow_pos _)]

/-- A mantissa with a greater exponent has a whole size that is not less. -/
theorem whole_size_le_of_lt {mantissa otherMantissa : Nat} {exponent otherExponent : Int}
    (hlt : exponent < otherExponent) (hmantissa : mantissa < 2 * hiddenBit)
    (hnormal : hiddenBit ≤ otherMantissa) :
    wholeSize mantissa exponent ≤ wholeSize otherMantissa otherExponent := by
  have hplaces : -((-exponent).toNat : Int) ≤ exponent := by omega
  rw [whole_size_eq mantissa hplaces, whole_size_eq otherMantissa (hplaces.trans hlt.le)]
  apply Nat.div_le_div_right
  obtain ⟨shift, hshift⟩ : ∃ shift, (otherExponent + (-exponent).toNat).toNat =
      (exponent + (-exponent).toNat).toNat + 1 + shift :=
    ⟨(otherExponent + (-exponent).toNat).toNat - (exponent + (-exponent).toNat).toNat - 1,
      by omega⟩
  calc mantissa * 2 ^ (exponent + (-exponent).toNat).toNat
      ≤ otherMantissa * 2 * 2 ^ (exponent + (-exponent).toNat).toNat :=
        Nat.mul_le_mul_right _ (by omega)
    _ = otherMantissa * 2 ^ ((exponent + (-exponent).toNat).toNat + 1) := by ring
    _ ≤ otherMantissa * 2 ^ (otherExponent + (-exponent).toNat).toNat := by
        apply Nat.mul_le_mul_left
        exact Nat.pow_le_pow_right (by decide) (by omega)

/-- A greater mantissa has no smaller whole size. -/
theorem whole_size_mono {mantissa otherMantissa : Nat} (exponent : Int)
    (h : mantissa ≤ otherMantissa) :
    wholeSize mantissa exponent ≤ wholeSize otherMantissa exponent := by
  unfold wholeSize
  split
  · exact Nat.mul_le_mul_right _ h
  · exact Nat.div_le_div_right h

/-- Whole parts lie in the range of 64-bit integers. -/
theorem whole_part_range (number : Float) :
    minInteger ≤ wholePart number ∧ wholePart number ≤ maxInteger := by
  have hclamp : ∀ amount, minInteger ≤ clamp amount ∧ clamp amount ≤ maxInteger := by
    intro amount
    simp only [clamp, minInteger, maxInteger]
    omega
  rw [whole_part_eq]
  cases number.toModel.unpack with
  | notANumber => decide
  | infinity sign => cases sign <;> decide
  | zero sign =>
      show minInteger ≤ 0 ∧ 0 ≤ maxInteger
      decide
  | finite sign mantissa exponent hpos => cases sign <;> exact hclamp _

/-- Clamping leaves no integer below zero that was not. -/
theorem clamp_nonneg {amount : Int} (h : 0 ≤ amount) : 0 ≤ clamp amount := by
  simp only [clamp, minInteger, maxInteger]
  omega

/-- Clamping leaves no integer above zero that was not. -/
theorem clamp_nonpos {amount : Int} (h : amount ≤ 0) : clamp amount ≤ 0 := by
  simp only [clamp, minInteger, maxInteger]
  omega

/-- Of two mantissas with exponents that are in order, the whole sizes are in order. -/
theorem whole_size_le {mantissa otherMantissa : Nat} {exponent otherExponent : Int}
    (hmantissa : mantissa < 2 * hiddenBit) (hexponent : -1074 ≤ exponent)
    (hnormal : -1074 < otherExponent → hiddenBit ≤ otherMantissa)
    (h : (Ord.compare otherExponent exponent).then (Ord.compare otherMantissa mantissa) ≠ .lt) :
    wholeSize mantissa exponent ≤ wholeSize otherMantissa otherExponent := by
  rcases lt_trichotomy exponent otherExponent with hlt | rfl | hgt
  · exact whole_size_le_of_lt hlt hmantissa (hnormal (by omega))
  · apply whole_size_mono
    by_contra hless
    apply h
    rw [Std.ReflOrd.compare_self, Ordering.then, Nat.compare_eq_lt.mpr (Nat.not_le.mp hless)]
  · rw [Int.compare_eq_lt.mpr hgt] at h
    exact absurd rfl h

/-- The whole part grows with the number. -/
theorem whole_part_le (hlow : isNotNumber low = false) (hhigh : isNotNumber high = false)
    (h : ¬ high < low) : wholePart low ≤ wholePart high := by
  have hcompare : high.toModel.unpack.compare low.toModel.unpack ≠ some .lt := by
    intro hless
    have hmodel : high.toModel < low.toModel := by
      show (high.toModel.unpack.compare low.toModel.unpack == some .lt) = true
      rw [hless]
      rfl
    exact h (decide_eq_true hmodel)
  have hrange := whole_part_range high
  have hlowRange := whole_part_range low
  rw [whole_part_eq] at hrange hlowRange
  rw [whole_part_eq, whole_part_eq]
  rcases unpack_cases hlow with ⟨sign, hl⟩ | ⟨-, sign, hl⟩ |
    ⟨sign, mantissa, exponent, hpos, hl, hmantissa, hexponent, hnormal⟩ <;>
  rcases unpack_cases hhigh with ⟨other, hh⟩ | ⟨-, other, hh⟩ |
    ⟨other, otherMantissa, otherExponent, hotherPos, hh, hotherMantissa, hotherExponent,
      hotherNormal⟩ <;>
  rw [hl, hh] at hcompare ⊢ <;> rw [hl] at hlowRange <;> rw [hh] at hrange <;>
  cases sign <;> cases other <;>
  first
    | exact absurd rfl hcompare
    | exact hrange.1
    | exact hlowRange.2
    | skip
  -- two zeros
  · exact le_rfl
  · exact le_rfl
  · exact le_rfl
  · exact le_rfl
  -- a zero beside a finite number
  · exact clamp_nonneg (Int.natCast_nonneg _)
  · exact clamp_nonneg (Int.natCast_nonneg _)
  · exact clamp_nonpos (neg_nonpos.mpr (Int.natCast_nonneg _))
  · exact clamp_nonpos (neg_nonpos.mpr (Int.natCast_nonneg _))
  -- two finite numbers
  · apply clamp_mono
    have hswap : ((Ord.compare otherExponent exponent).then
        (Ord.compare otherMantissa mantissa)).swap =
          (Ord.compare exponent otherExponent).then (Ord.compare mantissa otherMantissa) := by
      rw [Ordering.swap_then, Int.compare_swap, Nat.compare_swap]
    exact neg_le_neg (Int.ofNat_le.mpr (whole_size_le hotherMantissa hotherExponent hnormal
      fun hless => hcompare (congrArg some (hswap.trans hless))))
  · exact (clamp_nonpos (neg_nonpos.mpr (Int.natCast_nonneg _))).trans
      (clamp_nonneg (Int.natCast_nonneg _))
  · apply clamp_mono
    exact Int.ofNat_le.mpr (whole_size_le hmantissa hexponent hotherNormal
      fun hless => hcompare (congrArg some hless))

end WholeParts

end Spreadsheet.Number
