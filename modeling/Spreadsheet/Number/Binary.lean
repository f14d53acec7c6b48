/-!
# Numbers in binary

A number is a 64-bit binary float. `parts` reads its bits as a sign, a mantissa and an exponent,
and every rule that needs more than arithmetic is stated on them: the order of numbers, the
largest whole number below one, the whole part as a 64-bit integer. All of it is exact and works
on natural numbers.
-/

namespace Spreadsheet.Number

/-- What the bits of a number stand for; a finite one is `mantissa * 2 ^ exponent` up to sign. -/
inductive Parts where
  | notNumber
  | infinite (negative : Bool)
  | finite (negative : Bool) (mantissa : Nat) (exponent : Int)

/-- The highest of the 64 bits, which is the sign. -/
def signBit : Nat := 9223372036854775808

/-- The bit above the fraction, which is left out where it is always set. -/
def hiddenBit : Nat := 4503599627370496

/-- The sign bit marks numbers below zero, and one of the two zeros. -/
def isNegative (number : Float) : Bool := signBit ≤ number.toBits.toNat

/-- The bits below the sign bit; between numbers of one sign they order as the numbers do. -/
def magnitude (number : Float) : Nat := number.toBits.toNat % signBit

/-- The magnitude of infinity; only results that are not a number lie above it. -/
def infinityMagnitude : Nat := 2047 * hiddenBit

/-- A result that is not a number lies beyond infinity. -/
def isNotNumber (number : Float) : Bool := infinityMagnitude < magnitude number

/-- A finite number lies below infinity. -/
def isFinite (number : Float) : Bool := magnitude number < infinityMagnitude

/-- Both zeros have magnitude zero. -/
def isZero (number : Float) : Bool := magnitude number == 0

/-- Eleven bits of exponent and fifty-two of fraction; the smallest exponent has no implicit bit. -/
def parts (number : Float) : Parts :=
  let negative := isNegative number
  let biased : Nat := magnitude number / hiddenBit
  let fraction : Nat := magnitude number % hiddenBit
  if biased = 2047 then
    if fraction = 0 then .infinite negative else .notNumber
  else if biased = 0 then .finite negative fraction (-1074)
  else .finite negative (hiddenBit + fraction) (biased - 1075)

/-- Integers order as numbers do: both zeros are `0`, and a sign turns the order round. -/
def orderKey (number : Float) : Int :=
  if isNegative number then -(magnitude number : Int) else magnitude number

/-- Numbers compare by value; what is not a number is equal to everything. -/
def compare (left right : Float) : Ordering :=
  if isNotNumber left || isNotNumber right then .eq
  else Ord.compare (orderKey left) (orderKey right)

/-- One of two numbers: what is not a number gives way, and otherwise the right one is taken if
its order to the left one is as wished. -/
def prefer (wished : Ordering → Bool) (left right : Float) : Float :=
  if isNotNumber left then right
  else if isNotNumber right then left
  else if wished (compare right left) then right
  else left

/-- The smaller of two numbers, the right one if they are equal. -/
def smaller : Float → Float → Float := prefer Ordering.isLE

/-- The larger of two numbers, the right one if they are equal. -/
def larger : Float → Float → Float := prefer Ordering.isGE

/-- Whether a finite number has no digits after the point. -/
def isWhole (number : Float) : Bool :=
  match parts number with
  | .finite _ mantissa exponent => 0 ≤ exponent || mantissa % Nat.pow 2 (-exponent).toNat == 0
  | _ => false

/-- The largest whole number that is not greater. Whole numbers, infinities and what is not a number
stay as they are. -/
def floor (number : Float) : Float :=
  match parts number with
  | .finite negative mantissa exponent =>
    if isWhole number then number
    else
      let below := mantissa / Nat.pow 2 (-exponent).toNat
      if negative then Float.ofInt (-(below + 1 : Int)) else Float.ofNat below
  | _ => number

/-- The smallest whole number that is not less. -/
def ceiling (number : Float) : Float := -floor (-number)

/-- The least 64-bit integer. -/
def minInteger : Int := -9223372036854775808

/-- The greatest 64-bit integer. -/
def maxInteger : Int := 9223372036854775807

/-- The whole part as a 64-bit integer: digits after the point are cut off, numbers outside the
range give its nearer end, and what is not a number gives zero. -/
def wholePart (number : Float) : Int :=
  match parts number with
  | .notNumber => 0
  | .infinite negative => if negative then minInteger else maxInteger
  | .finite negative mantissa exponent =>
    let size : Int :=
      if 0 ≤ exponent then mantissa * Nat.pow 2 exponent.toNat
      else mantissa / Nat.pow 2 (-exponent).toNat
    max minInteger (min maxInteger (if negative then -size else size))

/-- The nearest whole number, halves away from zero. -/
def roundHalfAway (number : Float) : Float :=
  match parts number with
  | .finite negative mantissa exponent =>
    if isWhole number then number
    else
      let unit := Nat.pow 2 (-exponent).toNat
      let size := Float.ofNat ((2 * mantissa + unit) / (2 * unit))
      if negative then -size else size
  | _ => number

end Spreadsheet.Number
