import Spreadsheet.Number.Binary

/-!
# Rounding in decimal

Rounding to decimal places works on a decimal reading of the number, so that halves are halves as
written and not as stored. The reading keeps the digits that a binary float can guarantee: a
coefficient below `2 ^ 52` unless the number is whole, always below `2 ^ 96`, and at most 28
places. A number without such a reading, or whose result has none, is left as it is.
-/

namespace Spreadsheet.Number

/-- What happens to the digits that are dropped. -/
inductive RoundingMode where
  | halfAwayFromZero
  | awayFromZero
  | towardZero
  deriving DecidableEq

/-- The decimal `coefficient / 10 ^ places`, with a sign. -/
structure FixedDecimal where
  negative : Bool
  coefficient : Nat
  places : Nat
  deriving Repr, DecidableEq

/-- Coefficients stay below this bound, `2 ^ 96`. -/
def coefficientLimit : Nat := 79228162514264337593543950336

/-- No decimal has more places than this. -/
def maxPlaces : Nat := 28

/-- Trades binary places for decimal ones: each factor of a half becomes a factor of five and a
tenth, unless the coefficient is even or too large for it, and then it is halved. -/
def tradeHalves : Nat → Nat → Int → Nat × Int
  | 0, coefficient, tens => (coefficient, tens)
  | count + 1, coefficient, tens =>
    if coefficient % 2 = 0 || coefficientLimit ≤ 5 * coefficient then
      tradeHalves count (coefficient / 2) (tens + 1)
    else tradeHalves count (5 * coefficient) tens

/-- Trades factors of two for decimal ones: each factor of two doubles the coefficient, or stays
with the power of ten while the coefficient is divided by five. A number that is too large has no
reading. -/
def tradeDoubles : Nat → Nat → Int → Option (Nat × Int)
  | 0, coefficient, tens => some (coefficient, tens)
  | count + 1, coefficient, tens =>
    if 2 * coefficient < coefficientLimit then tradeDoubles count (2 * coefficient) (tens - 1)
    else if (count + 1 : Int) < 2 * tens then none
    else tradeDoubles count (coefficient / 5) tens

/-- Drops the last digit, rounding its half up. -/
def dropDigit (coefficient : Nat) : Nat :=
  coefficient / 10 + (if 5 ≤ coefficient % 10 then 1 else 0)

/-- Drops surplus places one by one; a coefficient that vanishes on the way is plain zero. -/
def dropPlaces : Nat → Nat → Nat × Nat
  | 0, coefficient => (coefficient, maxPlaces)
  | count + 1, coefficient =>
    if coefficient < 10 then (0, 0) else dropPlaces count (dropDigit coefficient)

/-- Drops places until the coefficient fits the precision of the number. -/
def dropExcess : Nat → Nat → Nat × Nat
  | 0, coefficient => (coefficient, 0)
  | places + 1, coefficient =>
    if coefficient < hiddenBit then (coefficient, places + 1)
    else dropExcess places (dropDigit coefficient)

/-- Drops places that hold a zero. -/
def dropZeros : Nat → Nat → Nat × Nat
  | 0, coefficient => (coefficient, 0)
  | places + 1, coefficient =>
    if coefficient % 10 = 0 then dropZeros places (coefficient / 10) else (coefficient, places + 1)

/-- The decimal reading of a number. -/
def FixedDecimal.ofNumber (number : Float) : Option FixedDecimal :=
  match parts number with
  | .finite negative mantissa exponent =>
    let traded :=
      if exponent ≤ 0 then some (tradeHalves (-exponent).toNat mantissa exponent)
      else tradeDoubles exponent.toNat mantissa exponent
    traded.bind fun (coefficient, tens) =>
      if 0 < tens then
        let whole := coefficient * Nat.pow 10 tens.toNat
        if whole < coefficientLimit then some ⟨negative, whole, 0⟩ else none
      else
        let (coefficient, places) :=
          if -tens ≤ maxPlaces then (coefficient, (-tens).toNat)
          else dropPlaces ((-tens).toNat - maxPlaces) coefficient
        let (coefficient, places) := dropExcess places coefficient
        let (coefficient, places) := dropZeros places coefficient
        some ⟨negative, coefficient, places⟩
  | _ => none

/-- The quotient of a coefficient by `10 ^ drop`, rounded to a whole number. -/
def RoundingMode.divide (mode : RoundingMode) (coefficient drop : Nat) : Nat :=
  let unit := Nat.pow 10 drop
  let remainder := coefficient % unit
  let up : Bool := match mode with
    | .halfAwayFromZero => unit ≤ 2 * remainder
    | .awayFromZero => remainder != 0
    | .towardZero => false
  coefficient / unit + (if up then 1 else 0)

/-- Rounds to at most `places` places. A result of zero has no sign. -/
def FixedDecimal.roundTo (value : FixedDecimal) (places : Nat) (mode : RoundingMode) :
    FixedDecimal :=
  if value.places ≤ places then value
  else
    let coefficient := mode.divide value.coefficient (value.places - places)
    ⟨value.negative && coefficient != 0, coefficient, places⟩

/-- Divides by a power of ten. Places beyond the last are rounded, halves to even. -/
def FixedDecimal.shiftRight (value : FixedDecimal) (count : Nat) : FixedDecimal :=
  let places := value.places + count
  if places ≤ maxPlaces then { value with places := places }
  else
    let unit := Nat.pow 10 (places - maxPlaces)
    let quotient := value.coefficient / unit
    let twice := 2 * (value.coefficient % unit)
    let up := unit < twice || (twice = unit && quotient % 2 = 1)
    let coefficient := quotient + (if up then 1 else 0)
    { value with coefficient := coefficient, places := maxPlaces }

/-- Multiplies a whole decimal by a power of ten, unless it grows too large. -/
def FixedDecimal.shiftLeft (value : FixedDecimal) (count : Nat) : Option FixedDecimal :=
  let coefficient := value.coefficient * Nat.pow 10 count
  if coefficient < coefficientLimit then some { value with coefficient := coefficient } else none

/-- The float a decimal is read as: whole and fractional part are converted apart, and their sum is
brought back to the decimal's places. -/
def FixedDecimal.toNumber (value : FixedDecimal) : Float :=
  let sign (number : Float) := if value.negative then -number else number
  if value.places = 0 then
    Float.ofInt (if value.negative then -(value.coefficient : Int) else value.coefficient)
  else
    let unit := Nat.pow 10 value.places
    let fraction := Float.ofNat (value.coefficient % unit) / Float.ofNat unit
    let whole := Float.ofNat (value.coefficient / unit)
    if isZero fraction then sign whole
    else sign (roundHalfAway ((whole + fraction) * Float.ofNat unit) / Float.ofNat unit)

/-- Rounds a number to decimal places; negative places round to tens, hundreds and so on. -/
def round (number : Float) (places : Int) (mode : RoundingMode) : Float :=
  let rounded := (FixedDecimal.ofNumber number).bind fun value =>
    if 0 ≤ places then some (value.roundTo (min places.toNat maxPlaces) mode)
    else
      let count := min places.natAbs maxPlaces
      ((value.shiftRight count).roundTo 0 mode).shiftLeft count
  (rounded.map FixedDecimal.toNumber).getD number

end Spreadsheet.Number
