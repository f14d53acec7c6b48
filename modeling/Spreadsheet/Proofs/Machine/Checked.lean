import Mathlib
import Spreadsheet.Evaluation.Seed

/-!
# Operations that can stop a machine

Integers of a machine have a size. A difference of unsigned ones must not fall below zero, a result
must fit its type, an index must have an element, and a random draw needs a number to draw. Here
are these operations, each with what stops it, and `Follows`, which compares a computation that
uses them with one over unbounded integers.
-/

namespace Spreadsheet.Machine

/-- What stops a machine. -/
inductive Trap where
  /-- A difference of unsigned integers lies below zero. -/
  | belowZero
  /-- An integer does not fit its type. -/
  | overflow
  /-- A list has no element at an index. -/
  | outOfBounds
  /-- A random draw has no number to draw from. -/
  | emptyRange
  deriving DecidableEq, Repr

/-- A computation that has a result unless it is stopped. -/
abbrev Checked := Except Trap

/-- A computation that may be stopped, and that may fail in its own way as well. -/
abbrev Guarded (ε : Type) := ExceptT ε Checked

/-! ## The operations -/

/-- The difference of two unsigned integers. -/
def minus (left right : Nat) : Checked Nat :=
  if right ≤ left then .ok (left - right) else .error .belowZero

/-- An integer with a sign, of 64 bits. -/
def signed (amount : Int) : Checked Int :=
  if -2 ^ 63 ≤ amount ∧ amount < 2 ^ 63 then .ok amount else .error .overflow

/-- An integer without a sign, of some number of bits. -/
def unsigned (bits amount : Nat) : Checked Nat :=
  if amount < 2 ^ bits then .ok amount else .error .overflow

/-- The position after one among `length` elements. What has an element in memory can be counted
up to and including that element, and beyond the last one the count need not fit. -/
def following (length position : Nat) : Checked Nat :=
  if position < length then .ok (position + 1) else .error .overflow

/-- The element at an index. -/
def element {α : Type} (items : List α) (index : Nat) : Checked α :=
  (items[index]?).elim (.error .outOfBounds) .ok

/-- A random integer between two bounds, both included. -/
def draw (seed : Seed) (low high : Int) : Checked Int :=
  if high < low then .error .emptyRange else .ok (seed.between low high)

section Operations

variable {left right amount length position : Nat} {integer low high : Int}

/-- A difference is taken where it does not lie below zero. -/
theorem minus_eq (h : right ≤ left) : minus left right = .ok (left - right) := if_pos h

/-- An integer of 64 bits fits. -/
theorem signed_eq (hlow : -2 ^ 63 ≤ integer) (hhigh : integer < 2 ^ 63) :
    signed integer = .ok integer :=
  if_pos ⟨hlow, hhigh⟩

/-- An integer of few enough bits fits. -/
theorem unsigned_eq {bits : Nat} (h : amount < 2 ^ bits) : unsigned bits amount = .ok amount :=
  if_pos h

/-- An element that there is can be counted. -/
theorem following_eq (h : position < length) : following length position = .ok (position + 1) :=
  if_pos h

/-- An element that there is can be read. -/
theorem element_eq {α : Type} {items : List α} {item : α} (h : items[position]? = some item) :
    element items position = .ok item := by
  rw [element, h]
  rfl

/-- A number is drawn where there is one between the bounds. -/
theorem draw_eq (seed : Seed) (h : low ≤ high) :
    draw seed low high = .ok (seed.between low high) :=
  if_neg (Int.not_lt.mpr h)

end Operations

/-! ## Following a computation that is never stopped -/

/-- A computation that may be stopped follows one that is not: it comes to the same result, unless
it is stopped in a way that is expected where the other one fails. -/
def Follows {τ ε α : Type} (expected : τ → ε → Prop) (stopping : ExceptT ε (Except τ) α)
    (plain : Except ε α) : Prop :=
  stopping.run = .ok plain ∨
    ∃ stop fault, expected stop fault ∧ stopping.run = .error stop ∧ plain = .error fault

/-- No way to be stopped is expected. -/
def Never {τ ε : Type} (_ : τ) (_ : ε) : Prop := False

namespace Follows

variable {τ ε α β : Type} {expected : τ → ε → Prop} {fault : ε} {result : α}
variable {stopping : ExceptT ε (Except τ) α} {plain : Except ε α}
variable {next : α → ExceptT ε (Except τ) β} {plainNext : α → Except ε β}

/-- A result follows itself. -/
theorem pure (result : α) :
    Follows expected (Pure.pure result : ExceptT ε (Except τ) α) (Pure.pure result) :=
  Or.inl rfl

/-- A failure follows itself. -/
theorem throw (fault : ε) :
    Follows expected (MonadExcept.throw fault : ExceptT ε (Except τ) α)
      (MonadExcept.throw fault) :=
  Or.inl rfl

/-- What comes after a failure does not matter. -/
theorem refuse (fault : ε) :
    Follows expected (MonadExcept.throw fault >>= next) (MonadExcept.throw fault >>= plainNext) :=
  Or.inl rfl

/-- A computation without operations that stop follows itself. -/
theorem same (plain : Except ε α) :
    Follows expected (liftM plain : ExceptT ε (Except τ) α) plain :=
  Or.inl rfl

/-- An operation that is not stopped follows its result. -/
theorem value {operation : Except τ α} (h : operation = .ok result) :
    Follows expected (liftM operation : ExceptT ε (Except τ) α) (Pure.pure result) := by
  subst h
  exact Or.inl rfl

/-- An operation that is not stopped leaves the rest to follow. -/
theorem step {operation : Except τ α} {rest : Except ε β} (h : operation = .ok result)
    (hnext : Follows expected (next result) rest) :
    Follows expected (liftM operation >>= next) rest := by
  subst h
  exact hnext

/-- Two computations in a row follow two others if each of them does. -/
theorem bind (h : Follows expected stopping plain)
    (hnext : ∀ result, plain = .ok result → Follows expected (next result) (plainNext result)) :
    Follows expected (stopping >>= next) (plain >>= plainNext) := by
  rcases h with h | ⟨stop, fault, hexpected, h, rfl⟩
  · cases plain with
    | error fault =>
        left
        rw [ExceptT.run_bind, h]
        rfl
    | ok result =>
        rcases hnext result rfl with hrest | ⟨stop, fault, hexpected, hrest, hplain⟩
        · left
          rw [ExceptT.run_bind, h]
          exact hrest
        · refine Or.inr ⟨stop, fault, hexpected, ?_, hplain⟩
          rw [ExceptT.run_bind, h]
          exact hrest
  · refine Or.inr ⟨stop, fault, hexpected, ?_, rfl⟩
    rw [ExceptT.run_bind, h]
    rfl

/-- Applying a computation to each item of a list follows, if it does for each of them. -/
theorem mapM {items : List β} {apply : β → ExceptT ε (Except τ) α}
    {plainApply : β → Except ε α}
    (h : ∀ item ∈ items, Follows expected (apply item) (plainApply item)) :
    Follows expected (items.mapM apply) (items.mapM plainApply) := by
  induction items with
  | nil => exact .pure []
  | cons item rest ih =>
      rw [List.mapM_cons, List.mapM_cons]
      refine .bind (h item List.mem_cons_self) fun first _ => ?_
      exact .bind (ih fun other hother => h other (List.mem_cons_of_mem _ hother))
        fun others _ => .pure _

/-- What is never stopped has the result that it follows. -/
theorem run_eq (h : Follows Never stopping plain) : stopping.run = .ok plain := by
  rcases h with h | ⟨_, _, hnever, -⟩
  · exact h
  · exact hnever.elim

end Follows

end Spreadsheet.Machine
