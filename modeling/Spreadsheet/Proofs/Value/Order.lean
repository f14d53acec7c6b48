import Mathlib.Data.String.Basic
import Spreadsheet.Value

/-!
# The order of values

Values that are not blank are ordered by kind and then within their kind. A blank has no place of
its own in that order: it counts as zero beside a number, as the empty text beside a text and as
false beside a logical value. So the order turns round when its sides are exchanged, but a blank can
join two values that compare the other way round. The main theorem,
`compare_preorder_unless_joined`, says exactly when.
-/

namespace Spreadsheet

/-! ## Texts and numbers -/

/-- Comparing numbers the other way round turns the answer round. -/
theorem Number.compare_swap (left right : Float) :
    Number.compare left right = (Number.compare right left).swap := by
  unfold Number.compare
  rw [Bool.or_comm]
  split
  · rfl
  · exact Std.OrientedOrd.eq_swap

/-- Not being greater is transitive over numbers, if the one in the middle is defined. -/
theorem Number.compare_trans {first second third : Float}
    (isNumber : Number.isNotNumber second = false)
    (left : (Number.compare first second).isLE) (right : (Number.compare second third).isLE) :
    (Number.compare first third).isLE := by
  unfold Number.compare at *
  split
  · rfl
  · rename_i numbers
    rw [Bool.or_eq_true, not_or, Bool.not_eq_true, Bool.not_eq_true] at numbers
    rw [isNumber, numbers.1] at left
    rw [isNumber, numbers.2] at right
    exact Std.TransOrd.isLE_trans left right

/-- Lower case takes no character away. -/
theorem Text.lower_eq_empty_iff {text : String} : Text.lower text = "" ↔ text = "" := by
  rw [← String.toList_eq_nil_iff, ← String.toList_eq_nil_iff, Text.lower, String.toList_ofList]
  cases text.toList with
  | nil => exact ⟨fun _ => rfl, fun _ => rfl⟩
  | cons char rest =>
      rw [Text.lowerFrom, List.append_eq_nil_iff]
      refine ⟨fun none => absurd none.1 ?_, nofun⟩
      unfold Text.lowerChar
      split
      · exact List.cons_ne_nil _ _
      · split <;> [skip; split] <;> exact List.cons_ne_nil _ _

/-- No text comes before the empty one. -/
theorem compare_empty_text (text : String) :
    Ord.compare "" text = if text = "" then .eq else .lt := by
  split
  · rename_i blank
    rw [blank]
    exact Std.ReflOrd.compare_self
  · rename_i filled
    show compareOfLessAndEq "" text = .lt
    have before : "" < text := by
      rw [String.lt_iff_toList_lt]
      cases chars : text.toList with
      | nil => exact absurd (String.toList_eq_nil_iff.mp chars) filled
      | cons char rest => exact List.nil_lt_cons char rest
    exact if_pos before

namespace Value

/-- Whether the value is the result of a calculation that is not a number. -/
def isNotNumber : Value → Bool
  | number amount => Number.isNotNumber amount
  | _ => false

/-! ## Turning a comparison round -/

/-- Comparing values the other way round turns the answer round. -/
theorem compare_swap (left right : Value) : left.compare right = (right.compare left).swap := by
  cases left with
  | empty =>
      cases right with
      | number amount => exact Number.compare_swap _ _
      | text | logical => exact Std.OrientedOrd.eq_swap
      | empty | error | array => rfl
  | number amount =>
      cases right with
      | number | empty => exact Number.compare_swap _ _
      | text | logical | error | array => rfl
  | text content =>
      cases right with
      | text | empty => exact Std.OrientedOrd.eq_swap
      | number | logical | error | array => rfl
  | logical truth =>
      cases right with
      | logical | empty => exact Std.OrientedOrd.eq_swap
      | number | text | error | array => rfl
  | error fault =>
      cases right with
      | error => exact Std.OrientedOrd.eq_swap
      | empty | number | text | logical | array => rfl
  | array rows => cases right <;> rfl

/-! ## Values that are not blank -/

/-- Two values of one kind, of which none is blank. -/
inductive SameKind : Value → Value → Prop
  | number {left right : Float} : SameKind (number left) (number right)
  | text {left right : String} : SameKind (text left) (text right)
  | logical {left right : Bool} : SameKind (logical left) (logical right)
  | error {left right : ErrorValue} : SameKind (error left) (error right)
  | array {left right : List (List Value)} : SameKind (array left) (array right)

section Filled

variable {left right first second third : Value}

/-- That values are of one kind goes both ways. -/
theorem SameKind.symm (h : SameKind left right) : SameKind right left := by
  cases h <;> constructor

/-- Values of the kind of a third one are of one kind. -/
theorem SameKind.trans (left : SameKind first second) (right : SameKind second third) :
    SameKind first third := by
  cases left <;> cases right <;> constructor

/-- Of two values that are not blank the one of the lower kind is less. -/
theorem compare_of_rank_lt (leftFilled : left ≠ empty) (rightFilled : right ≠ empty)
    (h : left.rank < right.rank) : left.compare right = .lt := by
  cases left <;> cases right <;> first | contradiction | rfl

/-- Of two values that are not blank one that is not greater is of no higher kind. -/
theorem rank_le_of_is_le (leftFilled : left ≠ empty) (rightFilled : right ≠ empty)
    (h : (left.compare right).isLE) : left.rank ≤ right.rank := by
  by_contra above
  rw [compare_swap, compare_of_rank_lt rightFilled leftFilled (Nat.lt_of_not_le above)] at h
  exact absurd h nofun

/-- Values that are not blank and of one rank are of one kind. -/
theorem same_kind_of_rank_eq (leftFilled : left ≠ empty) (rightFilled : right ≠ empty)
    (h : left.rank = right.rank) : SameKind left right := by
  cases left <;> cases right <;> first | contradiction | constructor | cases h

/-- Not being greater is transitive over values of one kind, if the one in the middle is defined. -/
theorem SameKind.is_le_trans (secondNumber : second.isNotNumber = false)
    (firstKind : SameKind first second) (thirdKind : SameKind second third)
    (left : (first.compare second).isLE) (right : (second.compare third).isLE) :
    (first.compare third).isLE := by
  cases firstKind with
  | number => cases thirdKind with | number => exact Number.compare_trans secondNumber left right
  | text =>
      cases thirdKind with
      | text => exact @Std.TransOrd.isLE_trans String _ _ _ _ _ left right
  | logical =>
      cases thirdKind with
      | logical => exact @Std.TransOrd.isLE_trans Bool _ _ _ _ _ left right
  | error =>
      cases thirdKind with
      | error => exact @Std.TransOrd.isLE_trans Nat _ _ _ _ _ left right
  | array => cases thirdKind with | array => rfl

/-- Not being greater is transitive over values that are not blank, if the one in the middle is
defined. -/
theorem is_le_trans_of_filled (secondNumber : second.isNotNumber = false)
    (firstFilled : first ≠ empty) (secondFilled : second ≠ empty) (thirdFilled : third ≠ empty)
    (left : (first.compare second).isLE) (right : (second.compare third).isLE) :
    (first.compare third).isLE := by
  have upToSecond := rank_le_of_is_le firstFilled secondFilled left
  have fromSecond := rank_le_of_is_le secondFilled thirdFilled right
  by_cases below : first.rank < third.rank
  · rw [compare_of_rank_lt firstFilled thirdFilled below]
    rfl
  · have firstKind := same_kind_of_rank_eq firstFilled secondFilled (by omega)
    have thirdKind := same_kind_of_rank_eq secondFilled thirdFilled (by omega)
    exact firstKind.is_le_trans secondNumber thirdKind left right

end Filled

/-! ## Blanks -/

/-- What a blank counts as beside another value. -/
def blankBeside : Value → Value
  | text _ => text ""
  | logical _ => logical false
  | _ => number 0.0

section Blank

variable {value other first second third : Value}

/-- What a blank counts as is never blank. -/
theorem blank_beside_filled (value : Value) : value.blankBeside ≠ empty := by
  cases value <;> exact nofun

/-- What a blank counts as is never undefined. -/
theorem blank_beside_is_number (value : Value) : value.blankBeside.isNotNumber = false := by
  have zero : (number 0.0).isNotNumber = false := by decide +kernel
  cases value with
  | text | logical => rfl
  | empty | number | error | array => exact zero

/-- A blank counts as the same beside values of one rank. -/
theorem blank_beside_eq_of_rank_eq (h : value.rank = other.rank) :
    value.blankBeside = other.blankBeside := by
  cases value <;> cases other <;> first | rfl | cases h

/-- A blank compares with a value as what it counts as beside it. -/
theorem compare_blank_left (value : Value) :
    empty.compare value = value.blankBeside.compare value := by
  cases value with
  | text content =>
      show Ord.compare "" content = Ord.compare (Text.lower "") (Text.lower content)
      rw [show Text.lower "" = "" from rfl, compare_empty_text, compare_empty_text]
      simp only [Text.lower_eq_empty_iff]
  | _ => rfl

/-- A value compares with a blank as with what the blank counts as beside it. -/
theorem compare_blank_right (value : Value) :
    value.compare empty = value.compare value.blankBeside := by
  rw [compare_swap, compare_blank_left, ← compare_swap]

/-- A blank comes before everything but the numbers below zero. -/
theorem blank_is_le_of_rank_pos (h : 0 < value.rank) : (empty.compare value).isLE := by
  cases value with
  | text content =>
      show (Ord.compare "" content).isLE
      rw [compare_empty_text]
      split <;> rfl
  | logical truth => cases truth <;> rfl
  | error | array => rfl
  | empty | number => exact absurd h (Nat.lt_irrefl 0)

/-- Two values that a blank stands between compare by rank, unless their ranks are equal. -/
theorem is_le_iff_through_blank (firstFilled : first ≠ empty) (thirdFilled : third ≠ empty)
    (left : (first.compare empty).isLE) (right : (empty.compare third).isLE) :
    (first.compare third).isLE ↔ ¬third.rank < first.rank := by
  rw [compare_blank_right] at left
  rw [compare_blank_left] at right
  obtain below | equal | above := Nat.lt_trichotomy first.rank third.rank
  · rw [compare_of_rank_lt firstFilled thirdFilled below]
    exact ⟨fun _ => Nat.lt_asymm below, fun _ => rfl⟩
  · rw [blank_beside_eq_of_rank_eq equal] at left
    have joined := is_le_trans_of_filled (blank_beside_is_number third) firstFilled
      (blank_beside_filled third) thirdFilled left right
    exact ⟨fun _ => equal ▸ Nat.lt_irrefl _, fun _ => joined⟩
  · rw [compare_swap, compare_of_rank_lt thirdFilled firstFilled above]
    exact ⟨nofun, fun within => absurd above within⟩

/-- A value that is no larger than one of its own kind is no larger than a blank if that one is. -/
theorem is_le_blank_iff (secondNumber : second.isNotNumber = false) (firstFilled : first ≠ empty)
    (secondFilled : second ≠ empty) (left : (first.compare second).isLE)
    (right : (second.compare empty).isLE) :
    (first.compare empty).isLE ↔
      ¬(first.rank < second.rank ∧ first.blankBeside.compare first = .lt) := by
  rw [compare_blank_right] at right ⊢
  obtain below | equal := Nat.lt_or_eq_of_le (rank_le_of_is_le firstFilled secondFilled left)
  · rw [compare_swap]
    cases first.blankBeside.compare first <;> simp [below]
  · rw [← blank_beside_eq_of_rank_eq equal] at right
    have joined := is_le_trans_of_filled secondNumber firstFilled secondFilled
      (blank_beside_filled first) left right
    exact ⟨fun _ outside => absurd outside.1 (equal ▸ Nat.lt_irrefl _), fun _ => joined⟩

/-- What a blank comes before, everything after it comes after the blank. -/
theorem blank_is_le_trans (secondFilled : second ≠ empty) (thirdFilled : third ≠ empty)
    (secondNumber : second.isNotNumber = false) (left : (empty.compare second).isLE)
    (right : (second.compare third).isLE) : (empty.compare third).isLE := by
  obtain zero | positive := Nat.eq_zero_or_pos third.rank
  · have upToThird := rank_le_of_is_le secondFilled thirdFilled right
    have equal : second.rank = third.rank := by omega
    rw [compare_blank_left] at left ⊢
    rw [blank_beside_eq_of_rank_eq equal] at left
    exact is_le_trans_of_filled secondNumber (blank_beside_filled third) secondFilled thirdFilled
      left right
  · exact blank_is_le_of_rank_pos positive

end Blank

/-! ## The law -/

/-- A blank counts as one thing beside one value and as another beside the next: it stands between
two values of which the second is of a lower kind, or it comes after two values of different kinds,
of which the first is larger than what the blank counts as beside it. -/
def Joined (first second third : Value) : Prop :=
  (second = empty ∧ third ≠ empty ∧ third.rank < first.rank) ∨
    (third = empty ∧ first.rank < second.rank ∧ first.blankBeside.compare first = .lt)

/-- The order turns round with its sides. It passes from one value over a second, which is not the
failure of a calculation, to a third unless a blank has joined them. -/
theorem compare_preorder_unless_joined {first second third : Value}
    (secondNumber : second.isNotNumber = false) :
    second.compare first = (first.compare second).swap ∧
      ((first.compare second).isLE → (second.compare third).isLE →
        ((first.compare third).isLE ↔ ¬Joined first second third)) := by
  refine ⟨compare_swap second first, fun left right => ?_⟩
  by_cases thirdBlank : third = empty
  · subst thirdBlank
    by_cases secondBlank : second = empty
    · subst secondBlank
      simp [Joined, left, rank]
    · by_cases firstBlank : first = empty
      · subst firstBlank
        have itself : (blankBeside empty).compare empty = .eq := by decide +kernel
        simp [Joined, secondBlank, itself]
        rfl
      · rw [is_le_blank_iff secondNumber firstBlank secondBlank left right]
        simp [Joined, secondBlank]
  · by_cases secondBlank : second = empty
    · subst secondBlank
      by_cases firstBlank : first = empty
      · subst firstBlank
        simp [Joined, right, thirdBlank, rank]
      · rw [is_le_iff_through_blank firstBlank thirdBlank left right]
        simp [Joined, thirdBlank]
    · have passes : (first.compare third).isLE := by
        by_cases firstBlank : first = empty
        · subst firstBlank
          exact blank_is_le_trans secondBlank thirdBlank secondNumber left right
        · exact is_le_trans_of_filled secondNumber firstBlank secondBlank thirdBlank left right
      simp [Joined, passes, secondBlank, thirdBlank]

/-- A number below another one, which is below a text, is below that text. -/
theorem compare_preorder_unless_joined_of_numbers_and_text :
    (number 2.0).isNotNumber = false ∧ ((number 1.0).compare (text "a")).isLE :=
  have isNumber : (number 2.0).isNotNumber = false := by decide +kernel
  have below : ((number 1.0).compare (number 2.0)).isLE := by decide +kernel
  have law := @compare_preorder_unless_joined (number 1.0) (number 2.0) (text "a") isNumber
  ⟨isNumber, (law.2 below rfl).mpr (by simp [Joined])⟩

/-- The empty text is equal to a blank, a blank is equal to zero, and the empty text is larger than
zero. -/
theorem compare_not_transitive :
    ¬∀ first second third : Value, first.isNotNumber = false → second.isNotNumber = false →
      third.isNotNumber = false → (first.compare second).isLE → (second.compare third).isLE →
      (first.compare third).isLE :=
  fun passes =>
    have isNumber : (number 0.0).isNotNumber = false := by decide +kernel
    have equal : (empty.compare (number 0.0)).isLE := by decide +kernel
    nomatch passes (text "") empty (number 0.0) rfl rfl isNumber rfl equal

end Value

end Spreadsheet
