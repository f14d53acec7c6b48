import Spreadsheet.Number.Binary

/-!
# Seeds of chance

The functions of chance are functions of a seed. Every operand of a formula gets a seed of its
own, so two calls in one formula draw apart, and the same seed draws the same.
-/

namespace Spreadsheet

/-- Where a random draw comes from. -/
structure Seed where
  state : UInt64
  deriving DecidableEq, Repr, Inhabited

namespace Seed

/-- The distance between the states of neighbouring seeds, the golden ratio of the 64-bit
integers. -/
def stride : UInt64 := 0x9E3779B97F4A7C15

/-- Spreads every bit of the state over the whole word. -/
def mixed (seed : Seed) : UInt64 :=
  let once := (seed.state ^^^ (seed.state >>> 30)) * 0xBF58476D1CE4E5B9
  let twice := (once ^^^ (once >>> 27)) * 0x94D049BB133111EB
  twice ^^^ (twice >>> 31)

/-- The seed of one operand among several. -/
def child (seed : Seed) (index : Nat) : Seed :=
  ⟨(⟨seed.state + stride * (UInt64.ofNat index + 1)⟩ : Seed).mixed⟩

/-- A number from zero up to but not including one. -/
def unit (seed : Seed) : Float := Float.ofNat (seed.mixed >>> 11).toNat / 9007199254740992.0

/-- An integer between two bounds, both included. -/
def between (seed : Seed) (low high : Int) : Int :=
  low + seed.mixed.toNat % (high - low + 1)

end Seed

end Spreadsheet
