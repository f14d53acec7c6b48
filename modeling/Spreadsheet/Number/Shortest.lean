import Spreadsheet.Number.Binary

/-!
# The shortest decimal of a number

Every finite number stands for the reals that round to it. `shortest` gives the decimal with the
fewest digits among them, the nearest one if several have that many, and the larger of two that are
equally near. The search compares naturals only.
-/

namespace Spreadsheet.Number

/-- The decimal `digits * 10 ^ exponent`. -/
structure Decimal where
  digits : Nat
  exponent : Int
  deriving Repr, DecidableEq

/-- A positive finite number `mantissa * 2 ^ exponent`, and whether its lower neighbour is only half
as far away as its upper one. -/
structure Positive where
  mantissa : Nat
  exponent : Int
  narrowBelow : Bool

/-- The gap below a power of two is half the gap above it, except at the bottom of the range. -/
def Positive.ofParts (mantissa : Nat) (exponent : Int) : Positive :=
  ⟨mantissa, exponent, mantissa == hiddenBit && exponent != -1074⟩

/-- A number on the grid of multiples of `10 ^ step` is `mantissa * up / down` grid steps. -/
structure Scale where
  up : Nat
  down : Nat

/-- The scale of a binary exponent on the grid of multiples of `10 ^ step`. -/
def Scale.ofGrid (exponent step : Int) : Scale :=
  ⟨Nat.pow 2 exponent.toNat * Nat.pow 10 (-step).toNat,
    Nat.pow 2 (-exponent).toNat * Nat.pow 10 step.toNat⟩

/-- Whether `count` grid steps round to the number: they lie between the points halfway to its
neighbours, which belong to it exactly if its mantissa is even. -/
def Positive.standsFor (value : Positive) (scale : Scale) (count : Nat) : Bool :=
  -- everything is taken four times, so that half of a narrow gap is whole
  let lower := (4 * value.mantissa - (if value.narrowBelow then 1 else 2)) * scale.up
  let upper := (4 * value.mantissa + 2) * scale.up
  let point := 4 * count * scale.down
  if value.mantissa % 2 = 0 then lower ≤ point && point ≤ upper else lower < point && point < upper

/-- The nearer of the two grid points around the number that stand for it, if one does; the upper
one on a tie. -/
def Positive.onGrid (value : Positive) (step : Int) : Option Decimal :=
  let scale := Scale.ofGrid value.exponent step
  let below := value.mantissa * scale.up / scale.down
  let nearerBelow := 2 * value.mantissa * scale.up < (2 * below + 1) * scale.down
  match value.standsFor scale below, value.standsFor scale (below + 1) with
  | true, true => some ⟨if nearerBelow then below else below + 1, step⟩
  | true, false => some ⟨below, step⟩
  | false, true => some ⟨below + 1, step⟩
  | false, false => none

/-- Whether a number is less than `10 ^ power`. -/
def Positive.below (value : Positive) (power : Int) : Bool :=
  let scale := Scale.ofGrid value.exponent power
  value.mantissa * scale.up < scale.down

/-- The least power of ten above the number. The binary logarithm, scaled by `log 2`, misses it by
at most two steps. -/
def Positive.power (value : Positive) : Int :=
  let estimate := Int.fdiv ((value.mantissa.log2 + value.exponent) * 30103) 100000
  ([estimate - 1, estimate, estimate + 1, estimate + 2].find? value.below).getD (estimate + 3)

/-- All digits of the number, without rounding. -/
def Positive.exact (value : Positive) : Decimal :=
  if 0 ≤ value.exponent then ⟨value.mantissa * Nat.pow 2 value.exponent.toNat, 0⟩
  else ⟨value.mantissa * Nat.pow 5 (-value.exponent).toNat, value.exponent⟩

/-- Moves up to `limit` zeros at the end of the digits into the exponent. -/
def Decimal.strip : Nat → Decimal → Decimal
  | 0, decimal => decimal
  | limit + 1, decimal =>
    if decimal.digits % 10 = 0 && decimal.digits ≠ 0 then
      strip limit ⟨decimal.digits / 10, decimal.exponent + 1⟩
    else decimal

/-- The shortest decimal that stands for a positive number; seventeen digits always do. -/
def Positive.shortest (value : Positive) : Decimal :=
  let power := value.power
  let found := (List.range 17).findSome? fun (count : Nat) => value.onGrid (power - (count + 1))
  (found.getD value.exact).strip 400

end Spreadsheet.Number
