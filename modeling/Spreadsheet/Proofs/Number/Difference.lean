import Mathlib
import Spreadsheet.Number.Binary

/-!
# The difference of two numbers

The arithmetic of numbers works on their unpacked form. `parts_eq` says that unpacking a number and
reading its bits come to the same, and `difference_sized` that rounding never makes the difference
of two different numbers vanish. So numbers whose distance has no size are equal, except that zero
has two signs; this is the main theorem, `eq_or_zeros_of_distance`.
-/

namespace Spreadsheet.Number

open Float.Model (Format UnpackedFloat totalExponent)
open Float.Model.UnpackedFloat

/-! ## Reading bits -/

/-- What an unpacked number stands for. -/
def partsOf : UnpackedFloat → Parts
  | .notANumber => .notNumber
  | .infinity sign => .infinite (sign == .negative)
  | .zero sign => .finite (sign == .negative) 0 (-1074)
  | .finite sign mantissa exponent _ => .finite (sign == .negative) mantissa exponent

section Fields

variable (bits : BitVec 64)

/-- The fraction of a number is what its bits have below the hidden one. -/
theorem fraction_of_bits :
    (@unpackMantissa Format.binary64 bits).toNat = bits.toNat % signBit % hiddenBit := by
  simp only [unpackMantissa, BitVec.toNat_cast, BitVec.extractLsb_toNat]
  simp [signBit, hiddenBit]

/-- The exponent of a number, with its bias, is what its bits have between the fraction and the
sign. -/
theorem biased_of_bits :
    (@unpackExponent Format.binary64 bits).toNat = bits.toNat % signBit / hiddenBit := by
  have hlt := bits.isLt
  simp only [unpackExponent, BitVec.toNat_cast, BitVec.extractLsb_toNat]
  simp [signBit, hiddenBit, Nat.shiftRight_eq_div_pow]
  omega

/-- A number is negative if its first bit is set. -/
theorem sign_of_bits :
    (Sign.ofBitVec (@unpackSign Format.binary64 bits) == .negative) =
      decide (signBit ≤ bits.toNat) := by
  have hlt := bits.isLt
  have hsign : (@unpackSign Format.binary64 bits).toNat = bits.toNat / signBit := by
    simp only [unpackSign, BitVec.toNat_cast, BitVec.extractLsb_toNat]
    simp [signBit, Nat.shiftRight_eq_div_pow]
    omega
  by_cases hnegative : signBit ≤ bits.toNat
  · have hset : @unpackSign Format.binary64 bits ≠ 0#1 := by
      intro hzero
      rw [hzero] at hsign
      simp [signBit] at hsign hnegative
      omega
    rw [Sign.ofBitVec, if_neg hset, decide_eq_true hnegative]
    rfl
  · have hclear : @unpackSign Format.binary64 bits = 0#1 := by
      apply BitVec.eq_of_toNat_eq
      rw [hsign]
      simp [signBit] at hnegative ⊢
      omega
    rw [Sign.ofBitVec, if_pos hclear, decide_eq_false hnegative]
    rfl

end Fields

section Codes

variable {exponent : BitVec 11} {fraction : BitVec 52}

/-- The exponent with all bits set is 2047. -/
theorem exponent_full_iff : exponent = -1#11 ↔ exponent.toNat = 2047 := by
  rw [← BitVec.toNat_inj]
  rfl

/-- The exponent without a bit is zero. -/
theorem exponent_zero_iff : exponent = 0#11 ↔ exponent.toNat = 0 := by
  rw [← BitVec.toNat_inj]
  rfl

/-- The fraction without a bit is zero. -/
theorem fraction_zero_iff : fraction = 0#52 ↔ fraction.toNat = 0 := by
  rw [← BitVec.toNat_inj]
  rfl

/-- The hidden bit stands before the fraction. -/
theorem hidden_append : (1#1 ++ fraction).toNat = hiddenBit + fraction.toNat := by
  rw [BitVec.toNat_append, ← Nat.shiftLeft_add_eq_or_of_lt fraction.isLt]
  rfl

end Codes

/-- Unpacking a number and reading its bits come to the same. -/
theorem parts_eq (number : Float) : parts number = partsOf number.toModel.unpack := by
  have hfraction := fraction_of_bits number.toBits.toBitVec
  have hbiased := biased_of_bits number.toBits.toBitVec
  have hsign := sign_of_bits number.toBits.toBitVec
  show parts number = partsOf (UnpackedFloat.unpack Format.binary64 number.toBits.toBitVec)
  have hnat : number.toBits.toBitVec.toNat = number.toBits.toNat := rfl
  rw [hnat] at hfraction hbiased hsign
  simp only [parts, isNegative, magnitude, UnpackedFloat.unpack, ← hfraction, ← hbiased]
  by_cases hfull : (@unpackExponent Format.binary64 number.toBits.toBitVec).toNat = 2047
  · rw [if_pos hfull, if_pos (exponent_full_iff.mpr hfull)]
    by_cases hzero : (@unpackMantissa Format.binary64 number.toBits.toBitVec).toNat = 0
    · rw [if_pos hzero, if_pos (fraction_zero_iff.mpr hzero)]
      simp only [partsOf, hsign]
    · rw [if_neg hzero, if_neg (fraction_zero_iff.not.mpr hzero)]
      rfl
  · rw [if_neg hfull, if_neg (exponent_full_iff.not.mpr hfull)]
    by_cases hsmall : (@unpackExponent Format.binary64 number.toBits.toBitVec).toNat = 0
    · rw [if_pos hsmall, if_pos (exponent_zero_iff.mpr hsmall)]
      by_cases hzero : (@unpackMantissa Format.binary64 number.toBits.toBitVec).toNat = 0
      · rw [dif_pos (fraction_zero_iff.mpr hzero), hzero]
        simp only [partsOf, hsign]
      · rw [dif_neg (fraction_zero_iff.not.mpr hzero)]
        simp only [partsOf, hsign, hsmall]
        rfl
    · rw [if_neg hsmall, if_neg (exponent_zero_iff.not.mpr hsmall)]
      simp only [partsOf, hsign, hidden_append]
      rfl

section Parts

variable {left right number : Float}

/-- A magnitude leaves the sign bit alone. -/
theorem magnitude_lt (number : Float) : magnitude number < signBit :=
  Nat.mod_lt _ (by decide)

/-- Sign and magnitude are all that there is to a number. -/
theorem eq_of_magnitude_eq (hsign : isNegative left = isNegative right)
    (hmagnitude : magnitude left = magnitude right) : left = right := by
  have hbits : left.toBits.toNat = right.toBits.toNat := by
    have hleft : left.toBits.toNat < 2 * signBit := left.toBits.toNat_lt
    have hright : right.toBits.toNat < 2 * signBit := right.toBits.toNat_lt
    simp only [isNegative, decide_eq_decide] at hsign
    unfold magnitude at hmagnitude
    unfold signBit at *
    omega
  have hmodel : left.toModel.toBits = right.toModel.toBits := UInt64.toNat_inj.mp hbits
  obtain ⟨⟨_, _⟩⟩ := left
  obtain ⟨⟨_, _⟩⟩ := right
  simp_all

/-- A number is undefined exactly if it has no parts. -/
theorem is_not_number_iff : isNotNumber number = true ↔ parts number = .notNumber := by
  have hlt := magnitude_lt number
  simp only [isNotNumber, decide_eq_true_eq, parts]
  unfold infinityMagnitude signBit hiddenBit at *
  by_cases hfull : magnitude number / 4503599627370496 = 2047
  · rw [if_pos hfull]
    by_cases hzero : magnitude number % 4503599627370496 = 0
    · rw [if_pos hzero]
      simp only [reduceCtorEq, iff_false]
      omega
    · rw [if_neg hzero]
      simp only [iff_true]
      omega
  · rw [if_neg hfull]
    have hless : ¬ 2047 * 4503599627370496 < magnitude number := by omega
    simp only [hless, false_iff]
    split <;> simp

/-- A finite number has the sign that its parts say, a mantissa that fits, and an exponent that is
least unless the highest bit of the mantissa is set. -/
theorem of_parts_finite {negative : Bool} {mantissa : Nat} {exponent : Int}
    (h : parts number = .finite negative mantissa exponent) :
    isNegative number = negative ∧ mantissa < 2 * hiddenBit ∧ -1074 ≤ exponent ∧
      (-1074 < exponent → hiddenBit ≤ mantissa) ∧
      (magnitude number : Int) = if mantissa < hiddenBit then (mantissa : Int)
        else (exponent + 1074) * hiddenBit + mantissa := by
  unfold parts at h
  dsimp only at h
  unfold hiddenBit at *
  split at h
  · split at h <;> cases h
  · split at h
    · cases h
      refine ⟨rfl, by omega, by omega, by omega, ?_⟩
      rw [if_pos (by omega)]
      omega
    · cases h
      refine ⟨rfl, by omega, by omega, by omega, ?_⟩
      rw [if_neg (by omega)]
      omega

/-- The sign and the magnitude of an infinite number are those of an infinity. -/
theorem of_parts_infinite {negative : Bool} (h : parts number = .infinite negative) :
    isNegative number = negative ∧ magnitude number = infinityMagnitude := by
  have hlt := magnitude_lt number
  unfold parts at h
  dsimp only at h
  unfold infinityMagnitude signBit hiddenBit at *
  split at h
  · split at h
    · cases h
      exact ⟨rfl, by omega⟩
    · cases h
  · split at h <;> cases h

/-- Numbers with the same parts are the same. -/
theorem eq_of_parts_eq (h : parts left = parts right) (hleft : isNotNumber left = false) :
    left = right := by
  cases hparts : parts left with
  | notNumber =>
      rw [is_not_number_iff.mpr hparts] at hleft
      cases hleft
  | infinite negative =>
      obtain ⟨hsign, hmagnitude⟩ := of_parts_infinite hparts
      obtain ⟨hotherSign, hotherMagnitude⟩ := of_parts_infinite (h.symm.trans hparts)
      exact eq_of_magnitude_eq (hsign.trans hotherSign.symm)
        (hmagnitude.trans hotherMagnitude.symm)
  | finite negative mantissa exponent =>
      obtain ⟨hsign, -, -, -, hmagnitude⟩ := of_parts_finite hparts
      obtain ⟨hotherSign, -, -, -, hotherMagnitude⟩ := of_parts_finite (h.symm.trans hparts)
      refine eq_of_magnitude_eq (hsign.trans hotherSign.symm) ?_
      rw [← hotherMagnitude] at hmagnitude
      exact_mod_cast hmagnitude

end Parts

/-! ## Numbers with a size -/

/-- The unpacked numbers that are neither zero nor without value, with digits that can be packed. -/
inductive Sized : UnpackedFloat → Prop
  | infinity (sign : Sign) : Sized (.infinity sign)
  | finite (sign : Sign) {mantissa : Nat} {exponent : Int} (hpos : 0 < mantissa)
      (hmantissa : mantissa < 2 * hiddenBit) (hexponent : -1074 ≤ exponent) :
      Sized (.finite sign mantissa exponent hpos)

section Sizes

variable {number : Float} {unpacked : UnpackedFloat}

/-- The size of a number does not depend on its sign. -/
theorem Sized.abs (h : Sized unpacked) : Sized unpacked.abs := by
  cases h with
  | infinity sign => exact .infinity _
  | finite sign hpos hmantissa hexponent => exact .finite _ hpos hmantissa hexponent

/-- A number has a size if it is a number and not zero. -/
theorem sized_iff :
    Sized number.toModel.unpack ↔ isNotNumber number = false ∧ isZero number = false := by
  have hparts := parts_eq number
  have hnumber : isNotNumber number = false ↔ parts number ≠ .notNumber := by
    rw [Ne, ← is_not_number_iff, Bool.not_eq_true]
  rw [hnumber]
  cases hunpacked : number.toModel.unpack with
  | notANumber =>
      rw [hunpacked] at hparts
      exact ⟨nofun, fun h => absurd hparts h.1⟩
  | infinity sign =>
      rw [hunpacked] at hparts
      obtain ⟨-, hmagnitude⟩ := of_parts_infinite hparts
      refine ⟨fun _ => ⟨by simp [hparts, partsOf], ?_⟩, fun _ => .infinity sign⟩
      rw [isZero, hmagnitude]
      rfl
  | zero sign =>
      rw [hunpacked] at hparts
      obtain ⟨-, -, -, -, hmagnitude⟩ := of_parts_finite hparts
      refine ⟨nofun, fun h => ?_⟩
      rw [if_pos (by decide)] at hmagnitude
      simp [isZero, Int.natCast_eq_zero.mp hmagnitude] at h
  | finite sign mantissa exponent hpos =>
      rw [hunpacked] at hparts
      obtain ⟨-, hmantissa, hexponent, -, hmagnitude⟩ := of_parts_finite hparts
      refine ⟨fun _ => ⟨by simp [hparts, partsOf], ?_⟩,
        fun _ => .finite sign hpos hmantissa hexponent⟩
      have hsome : magnitude number ≠ 0 := by
        unfold hiddenBit at hmagnitude
        split at hmagnitude <;> omega
      simp [isZero, hsome]

/-- Bits that are not those of a zero or of what is not a number unpack to a size. -/
theorem sized_unpack {bits : BitVec 64}
    (hfull : @unpackExponent Format.binary64 bits = -1#11 →
      @unpackMantissa Format.binary64 bits = 0#52)
    (hzero : @unpackExponent Format.binary64 bits = 0#11 →
      @unpackMantissa Format.binary64 bits ≠ 0#52) :
    Sized (UnpackedFloat.unpack Format.binary64 bits) := by
  have hfraction : (@unpackMantissa Format.binary64 bits).toNat < hiddenBit :=
    (@unpackMantissa Format.binary64 bits).isLt
  unfold UnpackedFloat.unpack
  dsimp only
  split
  · rename_i hexponent
    rw [if_pos (hfull hexponent)]
    exact .infinity _
  · split
    · rename_i hexponent
      rw [dif_neg (hzero hexponent)]
      refine .finite _ _ (by omega) ?_
      rw [hexponent]
      decide
    · rename_i hexponent
      rw [exponent_zero_iff] at hexponent
      refine .finite _ _ ?_ ?_
      · rw [hidden_append]
        omega
      · show -1074 ≤ ((@unpackExponent Format.binary64 bits).toNat : Int) - 1075
        omega

/-- Components have a size unless they are those of zero or of an undefined number. -/
theorem sized_components {sign : Sign} {exponent : BitVec 11} {fraction : BitVec 52}
    (hfull : exponent = -1#11 → fraction = 0#52) (hzero : exponent = 0#11 → fraction ≠ 0#52) :
    Sized (UnpackedFloat.unpack Format.binary64
      (packComponents Format.binary64 sign exponent fraction)) := by
  apply sized_unpack
  · rw [unpackExponent_packComponents, unpackMantissa_packComponents]
    exact hfull
  · rw [unpackExponent_packComponents, unpackMantissa_packComponents]
    exact hzero

/-- Packing keeps a size; what is too large becomes infinite. -/
theorem Sized.unpack_pack (h : Sized unpacked) : Sized (Float.Model.pack unpacked).unpack := by
  show Sized (UnpackedFloat.unpack Format.binary64 (UnpackedFloat.pack Format.binary64 unpacked))
  have hinfinite : ∀ sign, Sized (UnpackedFloat.unpack Format.binary64
      (packedInfinity Format.binary64 sign)) :=
    fun sign => sized_components (fun _ => rfl) (by decide)
  cases h with
  | infinity sign => exact hinfinite sign
  | @finite sign mantissa exponent hpos hmantissa hexponent =>
      unfold UnpackedFloat.pack
      dsimp only
      split
      · exact hinfinite sign
      · rename_i hfits
        have hbiased : (exponent + Format.binary64.exponentBias +
            (Format.binary64.mantissaBitsWithoutImplicit : Nat)).toNat =
              (exponent + 1075).toNat := by
          show (exponent + 1023 + 52).toNat = _
          rw [add_assoc]
          rfl
        rw [hbiased] at hfits ⊢
        split
        · -- the exponent is neither the least nor the greatest
          have hcode : (BitVec.ofNat 11 (exponent + 1075).toNat).toNat =
              (exponent + 1075).toNat := by
            rw [BitVec.toNat_ofNat, Nat.mod_eq_of_lt (by omega)]
          refine sized_components (fun hfull => ?_) fun hzero => ?_
          · rw [exponent_full_iff, hcode] at hfull
            omega
          · rw [exponent_zero_iff, hcode] at hzero
            omega
        · rename_i hshort
          have hsmall : mantissa < 2 ^ 52 := by
            have hlog : mantissa.log2 < 53 := (Nat.log2_lt (Nat.ne_of_gt hpos)).mpr hmantissa
            have hnormal : mantissa.log2 + 1 ≠ 53 := hshort
            exact (Nat.log2_lt (Nat.ne_of_gt hpos)).mp (by omega)
          refine sized_components (fun hfull => absurd hfull (by decide)) fun _ hzero => ?_
          rw [fraction_zero_iff, BitVec.toNat_ofNat, Nat.mod_eq_of_lt hsmall] at hzero
          omega

end Sizes

/-! ## Rounding -/

section Rounding

/-- Shifting a mantissa by some places divides it by so many twos. -/
theorem shift_mantissa (extended : ExtendedMantissa) (count : Nat) :
    (extended >>> count).mantissa = extended.mantissa / 2 ^ count := by
  induction count with
  | zero => simp [HShiftRight.hShiftRight, Nat.repeat]
  | succ count ih =>
      show (extended >>> count).mantissa / 2 = _
      rw [ih, Nat.div_div_eq_div_mul, Nat.pow_succ]

/-- Rounding a mantissa to the nearest one never makes it smaller. -/
theorem le_rounded_mantissa (extended : ExtendedMantissa) :
    extended.mantissa ≤ extended.roundedMantissa := by
  obtain ⟨mantissa, roundBit, stickyBit⟩ := extended
  cases roundBit <;> cases stickyBit <;>
    simp [ExtendedMantissa.roundedMantissa, ExtendedMantissa.accuracy,
      Accuracy.roundToNearestEven]

/-- Shifting a mantissa out to its target leaves some digits of it, and no more than can be
packed. -/
theorem shift_to_target {mantissa : Nat} {exponent : Int} (accuracy : Accuracy)
    (hpos : 0 < mantissa) (hexponent : -1074 ≤ exponent) :
    let shifted := shiftToTargetExponent Format.binary64 mantissa exponent accuracy
    0 < shifted.1.mantissa ∧ shifted.1.mantissa < 2 * hiddenBit ∧ -1074 ≤ shifted.2 := by
  intro shifted
  let count := (Format.binary64.targetExponent (totalExponent mantissa exponent) - exponent).toNat
  have hcount : count = mantissa.log2 - 52 := by
    have htarget : Format.binary64.targetExponent (totalExponent mantissa exponent) =
        max ((mantissa.log2 : Int) + 1 + exponent - 53) (-1074) := rfl
    show (Format.binary64.targetExponent (totalExponent mantissa exponent) - exponent).toNat = _
    rw [htarget]
    omega
  have hmantissa : shifted.1.mantissa = mantissa / 2 ^ count := by
    have hstart : (ExtendedMantissa.ofMantissaAndAccuracy mantissa accuracy).mantissa =
        mantissa := by
      cases accuracy with
      | exact => rfl
      | inexact order => cases order <;> rfl
    show (ExtendedMantissa.ofMantissaAndAccuracy mantissa accuracy >>> count).mantissa = _
    rw [shift_mantissa, hstart]
  have hleast : 2 ^ mantissa.log2 ≤ mantissa := Nat.log2_self_le (Nat.ne_of_gt hpos)
  have hmost : mantissa < 2 ^ (mantissa.log2 + 1) := Nat.lt_log2_self
  refine ⟨?_, ?_, ?_⟩
  · rw [hmantissa]
    apply Nat.div_pos _ (Nat.two_pow_pos count)
    exact (Nat.pow_le_pow_right (by decide) (by omega)).trans hleast
  · rw [hmantissa]
    apply (Nat.div_lt_iff_lt_mul (Nat.two_pow_pos count)).mpr
    have hlimit : 2 * hiddenBit = 2 ^ 53 := rfl
    rw [hlimit, ← Nat.pow_add]
    exact hmost.trans_le (Nat.pow_le_pow_right (by decide) (by omega))
  · show -1074 ≤ exponent + (count : Int)
    omega

/-- Rounding digits that lie where packed numbers have theirs gives a number with a size. -/
theorem sized_round_with_accuracy (sign : Sign) {mantissa : Nat} {exponent : Int}
    (accuracy : Accuracy) (hpos : 0 < mantissa) (hexponent : -1074 ≤ exponent) :
    Sized (roundWithAccuracy Format.binary64 sign mantissa exponent accuracy) := by
  obtain ⟨hfirst, -, hfirstExponent⟩ := shift_to_target accuracy hpos hexponent
  obtain ⟨hlast, hfits, hlastExponent⟩ := shift_to_target .exact
    (hfirst.trans_le (le_rounded_mantissa _)) hfirstExponent
  unfold roundWithAccuracy
  dsimp only
  rw [dif_neg (Nat.ne_of_gt hlast)]
  exact .finite sign hlast hfits hlastExponent

/-- Rounding does not make digits vanish that lie where packed numbers have theirs. -/
theorem sized_round (sign : Sign) {mantissa : Nat} {exponent : Int} (hpos : 0 < mantissa)
    (hexponent : -1074 ≤ exponent) :
    Sized (UnpackedFloat.round Format.binary64 sign mantissa exponent) := by
  have htarget : -1074 ≤ Format.binary64.targetExponent (totalExponent mantissa exponent) :=
    le_max_right _ _
  apply sized_round_with_accuracy
  · show 0 < mantissa <<< _
    rw [Nat.shiftLeft_eq]
    exact Nat.mul_pos hpos (Nat.two_pow_pos _)
  · show -1074 ≤ exponent - ((exponent - Format.binary64.targetExponent
      (totalExponent mantissa exponent)).toNat : Int)
    omega

/-- A mantissa other than zero stands for a number with a size. -/
theorem sized_normalize {mantissa exponent : Int} (zeroSign : Sign) (hmantissa : mantissa ≠ 0)
    (hexponent : -1074 ≤ exponent) :
    Sized (UnpackedFloat.normalize Format.binary64 mantissa exponent zeroSign) := by
  unfold UnpackedFloat.normalize
  split
  · rename_i hless
    have hneg : mantissa < 0 := Int.compare_eq_lt.mp hless
    exact sized_round _ (by omega) hexponent
  · rename_i hequal
    exact absurd (Int.compare_eq_eq.mp hequal) hmantissa
  · rename_i hgreater
    have hpos : 0 < mantissa := Int.compare_eq_gt.mp hgreater
    exact sized_round _ (by omega) hexponent

end Rounding

/-! ## Distances -/

section Distances

variable {left right : Float}

/-- A mantissa with a greater exponent is not equal to one with a lower exponent. -/
theorem ne_shift_of_lt {mantissa otherMantissa : Nat} {exponent otherExponent : Int}
    (hlt : exponent < otherExponent) (hmantissa : mantissa < 2 * hiddenBit)
    (hnormal : hiddenBit ≤ otherMantissa) :
    mantissa ≠ otherMantissa <<< (otherExponent - exponent).toNat := by
  intro heq
  obtain ⟨count, hcount⟩ : ∃ count, (otherExponent - exponent).toNat = count + 1 :=
    ⟨(otherExponent - exponent).toNat - 1, by omega⟩
  have hle : otherMantissa * 2 ≤ mantissa := by
    rw [heq, hcount, Nat.shiftLeft_eq, Nat.pow_succ, Nat.mul_comm (2 ^ count), ← Nat.mul_assoc]
    exact Nat.le_mul_of_pos_right _ (Nat.two_pow_pos count)
  omega

/-- Signs and mantissas that agree once they have been brought to one exponent have agreed
before. -/
theorem eq_of_aligned {sign otherSign : Sign} {mantissa otherMantissa : Nat}
    {exponent otherExponent : Int} (hpos : 0 < mantissa) (hotherPos : 0 < otherMantissa)
    (hmantissa : mantissa < 2 * hiddenBit) (hotherMantissa : otherMantissa < 2 * hiddenBit)
    (hnormal : -1074 < exponent → hiddenBit ≤ mantissa) (hexponent : -1074 ≤ exponent)
    (hotherNormal : -1074 < otherExponent → hiddenBit ≤ otherMantissa)
    (hotherExponent : -1074 ≤ otherExponent)
    (h : sign.apply (mantissa <<< (exponent - min exponent otherExponent).toNat : Nat) =
      otherSign.apply
        (otherMantissa <<< (otherExponent - min exponent otherExponent).toNat : Nat)) :
    sign = otherSign ∧ mantissa = otherMantissa ∧ exponent = otherExponent := by
  have hshift : ∀ {digits : Nat} (count : Nat), 0 < digits → 0 < digits <<< count := by
    intro digits count hdigits
    rw [Nat.shiftLeft_eq]
    exact Nat.mul_pos hdigits (Nat.two_pow_pos count)
  have hleft := hshift (exponent - min exponent otherExponent).toNat hpos
  have hright := hshift (otherExponent - min exponent otherExponent).toNat hotherPos
  have hsame : sign = otherSign ∧ mantissa <<< (exponent - min exponent otherExponent).toNat =
      otherMantissa <<< (otherExponent - min exponent otherExponent).toNat := by
    cases sign <;> cases otherSign <;> simp only [Sign.apply] at h <;>
      first
        | exact ⟨rfl, by omega⟩
        | omega
  obtain ⟨hsign, haligned⟩ := hsame
  rcases lt_trichotomy exponent otherExponent with hlt | rfl | hgt
  · rw [min_eq_left hlt.le, sub_self] at haligned
    exact absurd haligned (ne_shift_of_lt hlt hmantissa (hotherNormal (by omega)))
  · rw [min_self, sub_self] at haligned
    exact ⟨hsign, haligned, rfl⟩
  · rw [min_eq_right hgt.le, sub_self] at haligned
    exact absurd haligned.symm (ne_shift_of_lt hgt hotherMantissa (hnormal (by omega)))

/-- What a number unpacks to. -/
theorem unpack_cases {number : Float} (h : isNotNumber number = false) :
    (∃ sign, number.toModel.unpack = .infinity sign) ∨
    (isZero number = true ∧ ∃ sign, number.toModel.unpack = .zero sign) ∨
    ∃ sign mantissa exponent hpos, number.toModel.unpack = .finite sign mantissa exponent hpos ∧
      mantissa < 2 * hiddenBit ∧ -1074 ≤ exponent ∧ (-1074 < exponent → hiddenBit ≤ mantissa) := by
  have hparts := parts_eq number
  cases hunpacked : number.toModel.unpack with
  | notANumber =>
      rw [hunpacked] at hparts
      rw [is_not_number_iff.mpr hparts] at h
      cases h
  | infinity sign => exact Or.inl ⟨sign, rfl⟩
  | zero sign =>
      have hnone : ¬ Sized number.toModel.unpack := by
        rw [hunpacked]
        nofun
      rw [sized_iff] at hnone
      exact Or.inr (Or.inl ⟨by simpa [h] using hnone, sign, rfl⟩)
  | finite sign mantissa exponent hpos =>
      rw [hunpacked] at hparts
      obtain ⟨-, hmantissa, hexponent, hnormal, -⟩ := of_parts_finite hparts
      exact Or.inr (Or.inr ⟨sign, mantissa, exponent, hpos, rfl, hmantissa, hexponent, hnormal⟩)

/-- The difference of two different numbers has a size. -/
theorem difference_sized (hleft : isNotNumber left = false) (hright : isNotNumber right = false)
    (hne : left ≠ right) (hzeros : ¬ (isZero left = true ∧ isZero right = true)) :
    Sized (UnpackedFloat.sub Format.binary64 left.toModel.unpack right.toModel.unpack) := by
  have hunpacked : left.toModel.unpack ≠ right.toModel.unpack := by
    intro hsame
    exact hne (eq_of_parts_eq (by rw [parts_eq, parts_eq, hsame]) hleft)
  rcases unpack_cases hleft with ⟨sign, hl⟩ | ⟨hleftZero, sign, hl⟩ |
    ⟨sign, mantissa, exponent, hpos, hl, hmantissa, hexponent, hnormal⟩ <;>
  rcases unpack_cases hright with ⟨other, hr⟩ | ⟨hrightZero, other, hr⟩ |
    ⟨other, otherMantissa, otherExponent, hotherPos, hr, hotherMantissa, hotherExponent,
      hotherNormal⟩ <;>
  rw [hl, hr] at hunpacked ⊢
  · -- infinities of the same sign would be the same number
    cases sign <;> cases other
    · exact absurd rfl hunpacked
    · exact .infinity _
    · exact .infinity _
    · exact absurd rfl hunpacked
  · exact .infinity _
  · exact .infinity _
  · exact .infinity _
  · exact absurd ⟨hleftZero, hrightZero⟩ hzeros
  · exact .finite _ hotherPos hotherMantissa hotherExponent
  · exact .infinity _
  · exact .finite _ hpos hmantissa hexponent
  · apply sized_normalize
    · intro hzero
      obtain ⟨rfl, rfl, rfl⟩ := eq_of_aligned hpos hotherPos hmantissa hotherMantissa hnormal
        hexponent hotherNormal hotherExponent (sub_eq_zero.mp hzero)
      exact hunpacked rfl
    · exact le_min hexponent hotherExponent

/-- Numbers whose distance has no size are equal or zeros. -/
theorem eq_or_zeros_of_distance (hleft : isNotNumber left = false)
    (hright : isNotNumber right = false)
    (h : isNotNumber (left - right).abs = true ∨ isZero (left - right).abs = true) :
    left = right ∨ isZero left = true ∧ isZero right = true := by
  by_contra hdifferent
  rw [not_or] at hdifferent
  have hsized : Sized (left - right).abs.toModel.unpack :=
    (difference_sized hleft hright hdifferent.1 hdifferent.2).unpack_pack.abs.unpack_pack
  obtain ⟨hnumber, hsize⟩ := sized_iff.mp hsized
  rw [hnumber, hsize] at h
  simp at h

end Distances

/-! ## The largest of some sizes -/

section Largest

variable {largest size bound : Float}

/-- Whether a number is not below zero. -/
def IsSize (number : Float) : Prop := isNotNumber number = false ∧ isNegative number = false

/-- Zero is a size. -/
theorem is_size_zero : IsSize 0.0 := ⟨by decide +kernel, by decide +kernel⟩

/-- Without a sign, the components of a number leave the sign bit clear. -/
theorem components_positive_lt (exponent : BitVec 11) (fraction : BitVec 52) :
    (packComponents Format.binary64 .positive exponent fraction).toNat < signBit := by
  have hexponent : exponent.toNat <<< 52 < 2 ^ 63 := by
    have hlt := exponent.isLt
    rw [Nat.shiftLeft_eq]
    omega
  have hfraction : fraction.toNat < 2 ^ 63 := fraction.isLt.trans (by decide)
  show (0#1 ++ exponent ++ fraction).toNat < 2 ^ 63
  rw [BitVec.toNat_append, BitVec.toNat_append]
  simpa using Nat.or_lt_two_pow hexponent hfraction

/-- A size without sign has none. -/
theorem is_negative_abs (number : Float) : isNegative number.abs = false := by
  have hlt : (UnpackedFloat.pack Format.binary64 number.toModel.unpack.abs).toNat < signBit := by
    cases number.toModel.unpack with
    | notANumber => exact components_positive_lt _ _
    | infinity sign => exact components_positive_lt _ _
    | zero sign => exact components_positive_lt _ _
    | finite sign mantissa exponent hpos =>
        unfold UnpackedFloat.abs UnpackedFloat.pack
        dsimp only
        split
        · exact components_positive_lt _ _
        · split
          · exact components_positive_lt _ _
          · exact components_positive_lt _ _
  exact decide_eq_false (Nat.not_le.mpr hlt)

/-- A size is ordered by its magnitude. -/
theorem order_key_of_size (h : isNegative size = false) : orderKey size = magnitude size := by
  simp [orderKey, h]

/-- The larger of two sizes is one of them and not below either, where what is not a number does not
count. -/
theorem is_size_larger (hlargest : IsSize largest) (hsize : isNegative size = false) :
    IsSize (larger largest size) ∧ magnitude largest ≤ magnitude (larger largest size) ∧
      (isNotNumber size = true ∨ magnitude size ≤ magnitude (larger largest size)) := by
  unfold larger prefer
  rw [hlargest.1, if_neg (by decide)]
  by_cases hnumber : isNotNumber size = true
  · rw [if_pos hnumber]
    exact ⟨hlargest, le_rfl, Or.inl hnumber⟩
  · rw [if_neg hnumber]
    rw [Bool.not_eq_true] at hnumber
    have hge : (compare size largest).isGE = true ↔ magnitude largest ≤ magnitude size := by
      rw [compare, hnumber, hlargest.1, order_key_of_size hsize, order_key_of_size hlargest.2]
      simp [Std.isGE_compare]
    by_cases hwished : (compare size largest).isGE = true
    · rw [if_pos hwished]
      exact ⟨⟨hnumber, hsize⟩, hge.mp hwished, Or.inr le_rfl⟩
    · rw [if_neg hwished]
      rw [hge] at hwished
      exact ⟨hlargest, le_rfl, Or.inr (by omega)⟩

/-- A number that is zero is unpacked as zero with a sign. -/
theorem unpack_zero (h : isZero bound = true) : ∃ sign, bound.toModel.unpack = .zero sign := by
  have hnumber : isNotNumber bound = false := by
    have hmagnitude : magnitude bound = 0 := by simpa [isZero] using h
    rw [isNotNumber, hmagnitude]
    rfl
  have hnone : ¬ Sized bound.toModel.unpack := by simp [sized_iff, h]
  rcases unpack_cases hnumber with ⟨sign, hunpacked⟩ | ⟨-, hunpacked⟩ |
    ⟨sign, _, _, hpos, hunpacked, hmantissa, hexponent, -⟩
  · rw [hunpacked] at hnone
    exact absurd (.infinity sign) hnone
  · exact hunpacked
  · rw [hunpacked] at hnone
    exact absurd (.finite sign hpos hmantissa hexponent) hnone

/-- A size that is at most zero is zero. -/
theorem is_zero_of_le (hlargest : IsSize largest) (hbound : isZero bound = true)
    (h : largest ≤ bound) : isZero largest = true := by
  by_contra hsome
  have hsized : Sized largest.toModel.unpack :=
    sized_iff.mpr ⟨hlargest.1, by simpa using hsome⟩
  obtain ⟨sign, hzero⟩ := unpack_zero hbound
  have hle : (largest.toModel.unpack.compare bound.toModel.unpack).any (·.isLE) = true :=
    of_decide_eq_true h
  have hparts := parts_eq largest
  rw [hzero] at hle
  -- what has a size and no sign is greater than zero
  generalize largest.toModel.unpack = unpacked at *
  cases hsized with
  | infinity sign =>
      have hpositive := (of_parts_infinite hparts).1.symm.trans hlargest.2
      cases sign with
      | negative => cases hpositive
      | positive => cases hle
  | finite sign =>
      have hpositive := (of_parts_finite hparts).1.symm.trans hlargest.2
      cases sign with
      | negative => cases hpositive
      | positive => cases hle

end Largest

end Spreadsheet.Number
