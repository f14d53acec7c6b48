import Spreadsheet.Proofs.Number.WholePart

/-!
# Exact values

A finite number is a rational, `rational`. Integers below 2 ^ 53 are numbers without being rounded
(`parts_of_int`), so the whole part of a number that is rounded down is the floor of its rational,
as far as 64 bits go; this is the main theorem, `whole_part_floor`.
-/

namespace Spreadsheet.Number

open Float.Model (Format UnpackedFloat totalExponent)
open Float.Model.UnpackedFloat

/-! ## Digits that need no rounding -/

section Digits

variable {sign : Sign} {mantissa : Nat} {exponent : Int}

/-- The sign that is packed is the one that is read. -/
theorem sign_of_components (exponent : BitVec 11) (fraction : BitVec 52) :
    Sign.ofBitVec (@unpackSign Format.binary64
      (packComponents Format.binary64 sign exponent fraction)) = sign := by
  have hsign : @unpackSign Format.binary64
      (packComponents Format.binary64 sign exponent fraction) = sign.toBitVec := by
    show (sign.toBitVec ++ exponent ++ fraction).extractLsb' 63 1 = sign.toBitVec
    rw [BitVec.extractLsb'_append_eq_of_le (by decide),
      BitVec.extractLsb'_append_eq_of_le (by decide)]
    cases sign <;> rfl
  rw [hsign]
  cases sign <;> rfl

/-- Digits that fill the mantissa come back from packing, if the exponent is in range. -/
theorem unpack_pack_normal (hpos : 0 < mantissa) (hleast : hiddenBit ≤ mantissa)
    (hmost : mantissa < 2 * hiddenBit) (hlow : -1074 ≤ exponent) (hhigh : exponent ≤ 971) :
    (Float.Model.pack (.finite sign mantissa exponent hpos)).unpack =
      .finite sign mantissa exponent hpos := by
  have hbiased : (exponent + Format.binary64.exponentBias +
      (Format.binary64.mantissaBitsWithoutImplicit : Nat)).toNat = (exponent + 1075).toNat := by
    show (exponent + 1023 + 52).toNat = _
    rw [add_assoc]
    rfl
  have hlog : mantissa.log2 + 1 = Format.binary64.mantissaBits :=
    congrArg (· + 1) ((Nat.log2_eq_iff (Nat.ne_of_gt hpos)).mpr ⟨hleast, hmost⟩)
  have hlimit : ¬2 ^ Format.binary64.exponentBits ≤ (exponent + 1075).toNat + 1 := by
    show ¬2048 ≤ _
    omega
  have hcode : (BitVec.ofNat 11 (exponent + 1075).toNat).toNat = (exponent + 1075).toNat := by
    rw [BitVec.toNat_ofNat, Nat.mod_eq_of_lt (by omega)]
  have hfull : BitVec.ofNat 11 (exponent + 1075).toNat ≠ -1#11 := by
    rw [Ne, exponent_full_iff, hcode]
    omega
  have hzero : BitVec.ofNat 11 (exponent + 1075).toNat ≠ 0#11 := by
    rw [Ne, exponent_zero_iff, hcode]
    omega
  have hdigits : (1#1 ++ BitVec.ofNat 52 mantissa).toNat = mantissa := by
    rw [hidden_append, BitVec.toNat_ofNat]
    unfold hiddenBit at *
    omega
  show UnpackedFloat.unpack Format.binary64 (UnpackedFloat.pack Format.binary64 _) = _
  unfold UnpackedFloat.pack
  dsimp only
  rw [hbiased, if_neg hlimit, if_pos hlog]
  unfold UnpackedFloat.unpack
  simp only [unpackMantissa_packComponents, unpackExponent_packComponents, sign_of_components]
  rw [if_neg hfull, if_neg hzero]
  congr 1
  rw [hcode]
  show ((exponent + 1075).toNat : Int) - (1023 + 52) = exponent
  omega

/-- Shifting zeros out leaves nothing behind. -/
theorem shift_exact (mantissa places : Nat) :
    ExtendedMantissa.ofMantissaAndAccuracy (mantissa * 2 ^ places) .exact >>> places =
      .ofMantissaAndAccuracy mantissa .exact := by
  induction places generalizing mantissa with
  | zero =>
      rw [Nat.pow_zero, Nat.mul_one]
      rfl
  | succ places ih =>
      show (ExtendedMantissa.ofMantissaAndAccuracy (mantissa * 2 ^ (places + 1)) .exact >>>
        places).shiftRightOne = _
      rw [Nat.pow_succ, Nat.mul_comm (2 ^ places), ← Nat.mul_assoc, ih]
      simp [ExtendedMantissa.shiftRightOne, ExtendedMantissa.ofMantissaAndAccuracy]

/-- A mantissa of 53 bits has so many more after a shift to the left. -/
theorem log2_normal_shifted (places : Nat) (hleast : hiddenBit ≤ mantissa)
    (hmost : mantissa < 2 * hiddenBit) : (mantissa * 2 ^ places).log2 = 52 + places := by
  have hpos : 0 < 2 ^ places := Nat.two_pow_pos places
  have hsome : mantissa * 2 ^ places ≠ 0 :=
    Nat.ne_of_gt (Nat.mul_pos (Nat.lt_of_lt_of_le (by decide) hleast) hpos)
  refine (Nat.log2_eq_iff hsome).mpr ⟨?_, ?_⟩
  · rw [Nat.pow_add]
    exact Nat.mul_le_mul_right _ hleast
  · rw [show 52 + places + 1 = 53 + places by omega, Nat.pow_add]
    exact Nat.mul_lt_mul_of_pos_right hmost hpos

/-- Rounding keeps digits that fill the mantissa, whatever zeros follow them. -/
theorem round_exact (sign : Sign) (places : Nat) (hpos : 0 < mantissa)
    (hleast : hiddenBit ≤ mantissa) (hmost : mantissa < 2 * hiddenBit) (hlow : -1074 ≤ exponent) :
    roundWithAccuracy Format.binary64 sign (mantissa * 2 ^ places) (exponent - places) .exact =
      .finite sign mantissa exponent hpos := by
  have hshift : ∀ count : Nat, shiftToTargetExponent Format.binary64 (mantissa * 2 ^ count)
      (exponent - count) .exact = (.ofMantissaAndAccuracy mantissa .exact, exponent) := by
    intro count
    have hlog := log2_normal_shifted count hleast hmost
    have htarget : Format.binary64.targetExponent
        (totalExponent (mantissa * 2 ^ count) (exponent - count)) =
          max (((mantissa * 2 ^ count).log2 : Int) + 1 + (exponent - count) - 53) (-1074) := rfl
    have hcount : (max (((mantissa * 2 ^ count).log2 : Int) + 1 + (exponent - count) - 53) (-1074) -
        (exponent - count)).toNat = count := by
      rw [hlog]
      omega
    unfold shiftToTargetExponent shiftToExponent
    dsimp only
    rw [htarget, hcount, shift_exact, Int.sub_add_cancel]
  have hfixed : shiftToTargetExponent Format.binary64 mantissa exponent .exact =
      (.ofMantissaAndAccuracy mantissa .exact, exponent) := by
    simpa using hshift 0
  have hrounded : (ExtendedMantissa.ofMantissaAndAccuracy mantissa .exact).roundedMantissa =
      mantissa := rfl
  unfold roundWithAccuracy
  rw [hshift places]
  dsimp only
  rw [hrounded, hfixed]
  exact dif_neg (Nat.ne_of_gt hpos)

end Digits

/-! ## Integers -/

section Integers

/-- The digits of a positive integer below 2 ^ 53 fill the mantissa once zeros follow them. -/
theorem normal_of_count {count : Nat} (hpos : 0 < count) (h : count < 2 * hiddenBit) :
    count.log2 ≤ 52 ∧ hiddenBit ≤ count * 2 ^ (52 - count.log2) ∧
      count * 2 ^ (52 - count.log2) < 2 * hiddenBit := by
  have hlog : count.log2 < 53 := (Nat.log2_lt (Nat.ne_of_gt hpos)).mpr h
  have hleast : 2 ^ count.log2 ≤ count := Nat.log2_self_le (Nat.ne_of_gt hpos)
  have hmost : count < 2 ^ (count.log2 + 1) := Nat.lt_log2_self
  refine ⟨by omega, ?_, ?_⟩
  · calc hiddenBit = 2 ^ count.log2 * 2 ^ (52 - count.log2) := by
          rw [← Nat.pow_add, Nat.add_sub_cancel' (by omega)]
          rfl
      _ ≤ count * 2 ^ (52 - count.log2) := Nat.mul_le_mul_right _ hleast
  · calc count * 2 ^ (52 - count.log2)
        < 2 ^ (count.log2 + 1) * 2 ^ (52 - count.log2) :=
          Nat.mul_lt_mul_of_pos_right hmost (Nat.two_pow_pos _)
      _ = 2 * hiddenBit := by
          rw [← Nat.pow_add, show count.log2 + 1 + (52 - count.log2) = 53 by omega]
          rfl

/-- Positive integers below 2 ^ 53 are not rounded. -/
theorem round_of_count {count : Nat} (hpos : 0 < count) (h : count < 2 * hiddenBit)
    (hdigits : 0 < count * 2 ^ (52 - count.log2)) :
    UnpackedFloat.round Format.binary64 .positive count 0 =
      .finite .positive (count * 2 ^ (52 - count.log2)) (count.log2 - 52) hdigits := by
  obtain ⟨hlog, hleast, hmost⟩ := normal_of_count hpos h
  have htarget : Format.binary64.targetExponent (totalExponent count 0) =
      max ((count.log2 : Int) + 1 + 0 - 53) (-1074) := rfl
  have hcount : (0 - max ((count.log2 : Int) + 1 + 0 - 53) (-1074)).toNat = 52 - count.log2 := by
    omega
  unfold UnpackedFloat.round decreaseExponent
  dsimp only
  rw [htarget, hcount, Nat.shiftLeft_eq]
  have hrounded := round_exact .positive 0 hdigits hleast hmost
    (show -1074 ≤ (count.log2 : Int) - 52 by omega)
  rw [Nat.pow_zero, Nat.mul_one] at hrounded
  rw [← hrounded]
  congr 1
  omega

/-- Nor are they when they are made from words. -/
theorem unpack_of_word {count : Nat} (hpos : 0 < count) (h : count < 2 * hiddenBit)
    (hdigits : 0 < count * 2 ^ (52 - count.log2)) :
    count.toUInt64.toFloat.toModel.unpack =
      .finite .positive (count * 2 ^ (52 - count.log2)) (count.log2 - 52) hdigits := by
  obtain ⟨hlog, hleast, hmost⟩ := normal_of_count hpos h
  have hword : count.toUInt64.toNat = count := by
    rw [Nat.toUInt64, UInt64.toNat_ofNat']
    unfold hiddenBit at h
    omega
  show (Float.Model.pack
    (UnpackedFloat.normalize Format.binary64 (count.toUInt64.toNat : Int) 0 .positive)).unpack = _
  have hpositive : Ord.compare (count : Int) 0 = .gt := Int.compare_eq_gt.mpr (by omega)
  rw [hword, UnpackedFloat.normalize, hpositive]
  show (Float.Model.pack (UnpackedFloat.round Format.binary64 .positive count 0)).unpack = _
  rw [round_of_count hpos h hdigits]
  exact unpack_pack_normal hdigits hleast hmost (by omega) (by omega)

/-- Positive integers below 2 ^ 53 are numbers without being rounded. -/
theorem unpack_of_nat {count : Nat} (hpos : 0 < count) (h : count < 2 * hiddenBit)
    (hdigits : 0 < count * 2 ^ (52 - count.log2)) :
    (Float.ofNat count).toModel.unpack =
      .finite .positive (count * 2 ^ (52 - count.log2)) (count.log2 - 52) hdigits := by
  obtain ⟨hlog, hleast, hmost⟩ := normal_of_count hpos h
  have hone : Float.exactlyRepresentablePowersOfTen[0].toModel.unpack =
      .finite .positive hiddenBit (-52) (by decide) := rfl
  -- a small number is its word times one
  show (Float.ofScientific count false 0).toModel.unpack = _
  unfold Float.ofScientific
  rw [dif_pos ⟨h, by decide⟩, if_neg (by decide)]
  show (Float.Model.pack (mul Format.binary64 count.toUInt64.toFloat.toModel.unpack
    Float.exactlyRepresentablePowersOfTen[0].toModel.unpack)).unpack = _
  rw [unpack_of_word hpos h hdigits, hone]
  show (Float.Model.pack (roundWithAccuracy Format.binary64 .positive
    (count * 2 ^ (52 - count.log2) * hiddenBit) (count.log2 - 52 + -52) .exact)).unpack = _
  have hscaled := round_exact .positive 52 hdigits hleast hmost
    (show -1074 ≤ (count.log2 : Int) - 52 by omega)
  rw [show hiddenBit = 2 ^ 52 from rfl,
    show (count.log2 : Int) - 52 + -52 = count.log2 - 52 - (52 : Nat) by omega, hscaled]
  exact unpack_pack_normal hdigits hleast hmost (by omega) (by omega)

/-- The parts of an integer below 2 ^ 53 are the integer itself, with zeros behind the point. -/
theorem parts_of_int {amount : Int} (h : amount.natAbs < 2 * hiddenBit) :
    ∃ places : Nat, parts (Float.ofInt amount) =
      .finite (decide (amount < 0)) (amount.natAbs * 2 ^ places) (-places) := by
  cases amount with
  | ofNat count =>
      show ∃ places : Nat, parts (Float.ofNat count) = .finite _ (count * 2 ^ places) (-places)
      have hsign : decide (Int.ofNat count < 0) = false := by simp
      rw [hsign]
      rcases Nat.eq_zero_or_pos count with rfl | hpos
      · refine ⟨1074, ?_⟩
        rw [Nat.zero_mul]
        rfl
      · obtain ⟨hlog, hleast, -⟩ := normal_of_count hpos h
        refine ⟨52 - count.log2, ?_⟩
        rw [parts_eq, unpack_of_nat hpos h (Nat.lt_of_lt_of_le (by decide) hleast)]
        simp only [partsOf]
        congr 1
        omega
  | negSucc count =>
      have hbelow : count + 1 < 2 * hiddenBit := h
      have hpos : 0 < count + 1 := Nat.succ_pos count
      obtain ⟨hlog, hleast, hmost⟩ := normal_of_count hpos hbelow
      have hdigits : 0 < (count + 1) * 2 ^ (52 - (count + 1).log2) :=
        Nat.lt_of_lt_of_le (by decide) hleast
      have hunpacked : (Float.ofInt (.negSucc count)).toModel.unpack =
          .finite .negative ((count + 1) * 2 ^ (52 - (count + 1).log2)) ((count + 1).log2 - 52)
            hdigits := by
        show (Float.Model.pack (Float.ofNat (count + 1)).toModel.unpack.neg).unpack = _
        rw [unpack_of_nat hpos hbelow hdigits]
        exact unpack_pack_normal hdigits hleast hmost (by omega) (by omega)
      refine ⟨52 - (count + 1).log2, ?_⟩
      rw [parts_eq, hunpacked, decide_eq_true (Int.negSucc_lt_zero count)]
      simp only [partsOf, Int.natAbs_negSucc]
      congr 1
      omega

variable {number : Float} {amount : Int}

/-- A number is finite exactly if it has a mantissa and an exponent. -/
theorem is_finite_iff : isFinite number = true ↔
    ∃ negative mantissa exponent, parts number = .finite negative mantissa exponent := by
  have hlt := magnitude_lt number
  simp only [isFinite, decide_eq_true_eq]
  unfold infinityMagnitude signBit hiddenBit at *
  constructor
  · intro hfinite
    unfold parts
    dsimp only
    unfold hiddenBit
    rw [if_neg (by omega)]
    split <;> exact ⟨_, _, _, rfl⟩
  · rintro ⟨negative, mantissa, exponent, hparts⟩
    by_contra hlarge
    unfold parts at hparts
    dsimp only at hparts
    unfold hiddenBit at hparts
    rw [if_pos (by omega)] at hparts
    split at hparts <;> cases hparts

/-- Digits behind the point are cut off. -/
theorem whole_size_of_places (mantissa places : Nat) :
    wholeSize mantissa (-(places : Int)) = mantissa / 2 ^ places := by
  rw [whole_size_eq mantissa le_rfl, neg_add_cancel, Int.toNat_zero, Nat.pow_zero, Nat.mul_one]

/-- Integers of at most 53 bits are not clamped. -/
theorem clamp_of_small (h : amount.natAbs < 2 * hiddenBit) : clamp amount = amount := by
  simp only [clamp, minInteger, maxInteger]
  unfold hiddenBit at h
  omega

/-- Integers of at most 53 bits are finite as numbers. -/
theorem is_finite_of_int (h : amount.natAbs < 2 * hiddenBit) :
    isFinite (Float.ofInt amount) = true := by
  obtain ⟨places, hparts⟩ := parts_of_int h
  exact is_finite_iff.mpr ⟨_, _, _, hparts⟩

/-- Integers of at most 53 bits are their own whole part. -/
theorem whole_part_of_int (h : amount.natAbs < 2 * hiddenBit) :
    wholePart (Float.ofInt amount) = amount := by
  obtain ⟨places, hparts⟩ := parts_of_int h
  rw [whole_part_of_parts hparts, whole_size_of_places,
    Nat.mul_div_cancel _ (Nat.two_pow_pos places)]
  have hsigned : (if decide (amount < 0) = true then -(amount.natAbs : Int) else amount.natAbs) =
      amount := by
    simp only [decide_eq_true_eq]
    omega
  rw [hsigned, clamp_of_small h]

/-- A number is whole exactly if nothing remains behind the point. -/
theorem is_whole_of_parts {negative : Bool} {mantissa places : Nat}
    (h : parts number = .finite negative mantissa (-places)) :
    isWhole number = true ↔ 2 ^ places ∣ mantissa := by
  unfold isWhole
  rw [h]
  simp only [Bool.or_eq_true, decide_eq_true_eq, beq_iff_eq, neg_neg, Int.toNat_natCast]
  show 0 ≤ -(places : Int) ∨ mantissa % 2 ^ places = 0 ↔ _
  rw [← Nat.dvd_iff_mod_eq_zero]
  refine or_iff_right_of_imp fun hnone => ?_
  obtain rfl : places = 0 := by omega
  exact Nat.one_dvd mantissa

/-- A whole number is its own floor. -/
theorem floor_of_whole (h : isWhole number = true) : floor number = number := by
  unfold floor
  split
  · rw [if_pos h]
  · rfl

/-- Integers of at most 53 bits are their own floor. -/
theorem floor_of_int (h : amount.natAbs < 2 * hiddenBit) :
    floor (Float.ofInt amount) = Float.ofInt amount := by
  obtain ⟨places, hparts⟩ := parts_of_int h
  exact floor_of_whole ((is_whole_of_parts hparts).mpr (Nat.dvd_mul_left _ _))

end Integers

/-! ## Rationals -/

/-- The rational that a finite number is. -/
def rational (number : Float) : ℚ :=
  match parts number with
  | .finite negative mantissa exponent =>
    ((if negative then -mantissa else mantissa : Int) : ℚ) * 2 ^ exponent
  | _ => 0

section Rationals

variable {number : Float}

/-- The floor of an integer, shifted by some places, is the quotient by so many twos. -/
theorem floor_scaled (amount : Int) (places : Nat) :
    ⌊(amount : ℚ) * 2 ^ (-(places : Int))⌋ = amount / 2 ^ places := by
  have hdivided : (amount : ℚ) * 2 ^ (-(places : Int)) = amount / (2 ^ places : Nat) := by
    rw [zpow_neg, zpow_natCast, ← div_eq_mul_inv, Nat.cast_pow, Nat.cast_ofNat]
  rw [hdivided, Rat.floor_intCast_div_natCast, Nat.cast_pow, Nat.cast_ofNat]

/-- Digits behind the point go with the next integer below. -/
theorem floor_of_fraction {negative : Bool} {mantissa places : Nat}
    (h : parts number = .finite negative mantissa (-places)) (hfraction : ¬2 ^ places ∣ mantissa) :
    floor number =
      Float.ofInt ((if negative then -mantissa else mantissa : Int) / 2 ^ places) := by
  have hwhole := (is_whole_of_parts h).not.mpr hfraction
  have hpow : ((2 ^ places : Nat) : Int) = 2 ^ places := by push_cast; rfl
  unfold floor
  rw [h]
  dsimp only
  rw [if_neg hwhole, neg_neg, Int.toNat_natCast]
  show (if negative then Float.ofInt (-((mantissa / 2 ^ places : Nat) + 1 : Int))
    else Float.ofInt (mantissa / 2 ^ places : Nat)) = _
  cases negative with
  | false =>
      rw [if_neg (by decide), if_neg (by decide), Int.natCast_ediv, hpow]
  | true =>
      have hnot : ¬(2 ^ places : Int) ∣ mantissa := by
        rw [← hpow]
        exact_mod_cast hfraction
      have hsign : (2 ^ places : Int).sign = 1 := Int.sign_eq_one_of_pos (by positivity)
      rw [if_pos rfl, if_pos rfl, Int.neg_ediv, if_neg hnot, hsign, Int.natCast_ediv, hpow]
      congr 1
      ring

/-- A finite number is its mantissa, with its sign, scaled by its exponent. -/
theorem rational_of_parts {negative : Bool} {mantissa : Nat} {exponent : Int}
    (h : parts number = .finite negative mantissa exponent) :
    rational number = ((if negative then -mantissa else mantissa : Int) : ℚ) * 2 ^ exponent := by
  rw [rational, h]

/-- Where no digit stands behind the point there is nothing to round. -/
theorem whole_part_floor_of_shifted {negative : Bool} {mantissa places : Nat}
    (h : parts number = .finite negative mantissa places) :
    wholePart (floor number) = clamp ⌊rational number⌋ := by
  have hwhole : isWhole number = true := by
    rw [isWhole, h]
    simp
  have hsize : wholeSize mantissa places = mantissa * 2 ^ places := by
    simp [wholeSize]
  have hfloor : ⌊((if negative then -mantissa else mantissa : Int) : ℚ) * 2 ^ (places : Int)⌋ =
      (if negative then -mantissa else mantissa : Int) * 2 ^ places := by
    rw [zpow_natCast]
    exact_mod_cast Int.floor_intCast _
  rw [floor_of_whole hwhole, whole_part_of_parts h, hsize, rational_of_parts h, hfloor]
  congr 1
  cases negative <;> simp

/-- Digits behind the point are zeros, or they are rounded down. -/
theorem whole_part_floor_of_divided {negative : Bool} {mantissa places : Nat}
    (h : parts number = .finite negative mantissa (-places)) :
    wholePart (floor number) = clamp ⌊rational number⌋ := by
  rw [rational_of_parts h, floor_scaled]
  by_cases hwhole : 2 ^ places ∣ mantissa
  · rw [floor_of_whole ((is_whole_of_parts h).mpr hwhole), whole_part_of_parts h,
      whole_size_of_places]
    congr 1
    cases negative with
    | false => simp
    | true =>
        have hdvd : (2 ^ places : Int) ∣ mantissa := by exact_mod_cast hwhole
        simp [Int.neg_ediv_of_dvd hdvd]
  · rw [floor_of_fraction h hwhole]
    obtain ⟨-, hmantissa, -, -, -⟩ := of_parts_finite h
    have hsmall : ((if negative then -mantissa else mantissa : Int) / 2 ^ places).natAbs <
        2 * hiddenBit := by
      refine (Int.natAbs_ediv_le_natAbs _ _).trans_lt ?_
      cases negative <;> simpa using hmantissa
    rw [whole_part_of_int hsmall, clamp_of_small hsmall]

/-- The whole part of a finite number that is rounded down is the floor of its rational, brought
into the range of 64 bits. -/
theorem whole_part_floor (h : isFinite number = true) :
    wholePart (floor number) = clamp ⌊rational number⌋ := by
  obtain ⟨negative, mantissa, exponent, hparts⟩ := is_finite_iff.mp h
  rcases Int.eq_nat_or_neg exponent with ⟨places, rfl | rfl⟩
  · exact whole_part_floor_of_shifted hparts
  · exact whole_part_floor_of_divided hparts

end Rationals

end Spreadsheet.Number
