import Spreadsheet.Proofs.Formula.Precedence

/-!
# The room of the parser

Every call takes one unit of room, and ten units for each token are enough: between two tokens the
parser passes the levels once. The main theorem, `expression_unhindered`, says that with enough room
an expression is read in the same way whatever room is left over, and never for lack of room.
-/

namespace Spreadsheet.Formula

variable {α β : Type}

/-- Whether two computations end alike, and not for lack of room. -/
def Unhindered (result other : Except SyntaxError α) : Prop :=
  result = other ∧ result ≠ .error .noRoom

/-- A value is the same with more room. -/
theorem unhindered_ok (value : α) : Unhindered (.ok value) (.ok value) :=
  ⟨rfl, nofun⟩

/-- A failure is the same with more room, if it is not for want of it. -/
theorem unhindered_error {failure : SyntaxError} (h : failure ≠ .noRoom) :
    Unhindered (.error failure : Except SyntaxError α) (.error failure) :=
  ⟨rfl, fun hsame => h (Except.error.inj hsame)⟩

/-- Two steps in a row are unhindered if the first one is and the second one is after its value. -/
theorem Unhindered.bind {first other : Except SyntaxError α}
    {goOn goOther : α → Except SyntaxError β}
    (h : Unhindered first other)
    (hnext : ∀ value, first = .ok value → Unhindered (goOn value) (goOther value)) :
    Unhindered (first >>= goOn) (other >>= goOther) := by
  obtain ⟨rfl, hroom⟩ := h
  cases first with
  | ok value => exact hnext value rfl
  | error failure =>
      exact ⟨rfl, fun hsame => hroom (congrArg Except.error (Except.error.inj hsame))⟩

/-- Expecting a symbol does not depend on room. -/
theorem expect_unhindered (sign : Symbol) (tokens : List Token) :
    Unhindered (expect sign tokens) (expect sign tokens) := by
  unfold expect
  split
  · split
    · exact unhindered_ok _
    · exact unhindered_error (by simp)
  · exact unhindered_error (by simp)

/-- Reading a reference does not depend on room. -/
theorem reference_unhindered (sheet : String) (tokens : List Token) :
    Unhindered (reference sheet tokens) (reference sheet tokens) := by
  unfold reference
  split
  · exact unhindered_ok _
  · exact unhindered_error (by simp)
  · exact unhindered_ok _
  · exact unhindered_error (by simp)

/-- Joining the corners of a range does not depend on room. -/
theorem join_range_unhindered (left right : Expr) :
    Unhindered (joinRange left right) (joinRange left right) := by
  unfold joinRange
  split
  · refine .bind ?_ fun _ _ => unhindered_ok _
    unfold commonSheet
    split
    · split
      · exact unhindered_ok _
      · exact unhindered_error (by simp)
    · exact unhindered_ok _
  · exact unhindered_error (by simp)

/-- Making an array of its rows does not depend on room. -/
theorem array_of_rows_unhindered (rows : List (List Expr)) :
    Unhindered (arrayOfRows rows) (arrayOfRows rows) := by
  unfold arrayOfRows
  split
  · exact unhindered_ok _
  · exact unhindered_error (by simp)

/-- The calls that may go by from an expression of a level to its first token. -/
def Level.reserve : Level → Nat
  | comparison => 8
  | concatenation => 7
  | additive => 6
  | multiplicative => 5
  | power => 4
  | sign => 3

/-- With room for what is left, more room makes no difference. -/
structure Roomy (room extra : Nat) : Prop where
  expression : ∀ {level tokens}, 10 * tokens.length + level.reserve ≤ room →
    Unhindered (expression room level tokens) (expression (extra + room) level tokens)
  operations : ∀ {level left tokens}, 10 * tokens.length + 1 ≤ room →
    Unhindered (operations room level left tokens) (operations (extra + room) level left tokens)
  range : ∀ {tokens}, 10 * tokens.length + 2 ≤ room →
    Unhindered (range room tokens) (range (extra + room) tokens)
  primary : ∀ {tokens}, 10 * tokens.length + 1 ≤ room →
    Unhindered (primary room tokens) (primary (extra + room) tokens)
  arguments : ∀ {tokens}, 10 * tokens.length + 10 ≤ room →
    Unhindered (arguments room tokens) (arguments (extra + room) tokens)
  operands : ∀ {tokens}, 10 * tokens.length + 9 ≤ room →
    Unhindered (moreArguments room tokens) (moreArguments (extra + room) tokens)
  rows : ∀ {tokens}, 10 * tokens.length + 9 ≤ room →
    Unhindered (arrayRows room tokens) (arrayRows (extra + room) tokens)

section Steps

variable {room extra : Nat} (ih : Roomy room extra)
include ih

/-- One more unit of room lets an expression be read without hindrance. -/
theorem expression_unhindered_succ {level : Level} {tokens : List Token}
    (h : 10 * tokens.length + level.reserve ≤ room + 1) :
    Unhindered (expression (room + 1) level tokens)
      (expression (extra + room + 1) level tokens) := by
  have hleft : ∀ level : Level, 10 * tokens.length + level.next.reserve ≤ room →
      Unhindered
        (expression room level.next tokens >>= fun found =>
          operations room level found.1 found.2)
        (expression (extra + room) level.next tokens >>= fun found =>
          operations (extra + room) level found.1 found.2) := by
    intro level h
    refine (ih.expression h).bind fun found hfound => ih.operations ?_
    have hshort := ((sound room).expression hfound).length_lt
    omega
  cases level with
  | sign =>
      unfold expression
      simp only [Level.reserve] at h
      split
      · rename_i rest
        simp only [List.length_cons] at h
        exact (ih.expression (by simp only [Level.reserve]; omega)).bind
          fun found _ => unhindered_ok _
      · rename_i rest
        simp only [List.length_cons] at h
        exact ih.expression (by simp only [Level.reserve]; omega)
      · exact (ih.range (by omega)).bind fun found _ => unhindered_ok _
  | power =>
      rw [expression, expression]
      refine (ih.expression (by simp only [Level.reserve] at h ⊢; omega)).bind
        fun found hfound => ?_
      have hshort := ((sound room).expression hfound).length_lt
      dsimp only
      split
      · rename_i rest hrest
        rw [hrest, List.length_cons] at hshort
        exact (ih.expression (by simp only [Level.reserve] at h ⊢; omega)).bind
          fun _ _ => unhindered_ok _
      · exact unhindered_ok _
  | comparison => exact hleft .comparison (Nat.le_of_succ_le_succ h)
  | concatenation => exact hleft .concatenation (Nat.le_of_succ_le_succ h)
  | additive => exact hleft .additive (Nat.le_of_succ_le_succ h)
  | multiplicative => exact hleft .multiplicative (Nat.le_of_succ_le_succ h)

/-- One more unit of room lets operations be read without hindrance. -/
theorem operations_unhindered_succ {level : Level} {left : Expr} {tokens : List Token}
    (h : 10 * tokens.length + 1 ≤ room + 1) :
    Unhindered (operations (room + 1) level left tokens)
      (operations (extra + room + 1) level left tokens) := by
  rw [operations, operations]
  split
  · exact unhindered_ok _
  · rename_i operator rest hoperator
    obtain ⟨sign, -, rfl⟩ := take_operator_eq_some_iff.mp hoperator
    rw [List.length_cons] at h
    have hreserve : level.next.reserve ≤ 7 := by cases level <;> decide
    refine (ih.expression (by omega)).bind fun found hfound => ih.operations ?_
    have hshort := ((sound room).expression hfound).length_lt
    omega

/-- One more unit of room lets a range be read without hindrance. -/
theorem range_unhindered_succ {tokens : List Token} (h : 10 * tokens.length + 2 ≤ room + 1) :
    Unhindered (range (room + 1) tokens) (range (extra + room + 1) tokens) := by
  rw [range, range]
  refine (ih.primary (by omega)).bind fun found hfound => ?_
  have hshort := ((sound room).primary hfound).length_lt
  dsimp only
  split
  · rename_i rest hrest
    rw [hrest, List.length_cons] at hshort
    refine (ih.primary (by omega)).bind fun _ _ => ?_
    exact (join_range_unhindered _ _).bind fun _ _ => unhindered_ok _
  · exact unhindered_ok _

/-- One more unit of room lets a primary expression be read without hindrance. -/
theorem primary_unhindered_succ {tokens : List Token} (h : 10 * tokens.length + 1 ≤ room + 1) :
    Unhindered (primary (room + 1) tokens) (primary (extra + room + 1) tokens) := by
  cases tokens with
  | nil => exact unhindered_error (by simp)
  | cons token rest =>
      rw [List.length_cons] at h
      unfold primary
      split
      · exact unhindered_ok _
      · exact unhindered_ok _
      · exact unhindered_ok _
      · exact unhindered_ok _
      · exact unhindered_ok _
      · exact reference_unhindered _ _
      · split
        · rw [List.length_cons] at h
          exact (ih.arguments (by omega)).bind fun _ _ => unhindered_ok _
        · exact unhindered_ok _
      · refine (ih.expression (by simp only [Level.reserve]; omega)).bind fun _ _ => ?_
        exact (expect_unhindered _ _).bind fun _ _ => unhindered_ok _
      · split
        · exact unhindered_error (by simp)
        · refine (ih.rows (by omega)).bind fun _ _ => ?_
          exact (array_of_rows_unhindered _).bind fun _ _ => unhindered_ok _
      · exact unhindered_error (by simp)

/-- One more unit of room lets arguments be read without hindrance. -/
theorem arguments_unhindered_succ {tokens : List Token} (h : 10 * tokens.length + 10 ≤ room + 1) :
    Unhindered (arguments (room + 1) tokens) (arguments (extra + room + 1) tokens) := by
  unfold arguments
  split
  · exact unhindered_ok _
  · exact ih.operands (by omega)

/-- One more unit of room lets further arguments be read without hindrance. -/
theorem more_arguments_unhindered_succ {tokens : List Token}
    (h : 10 * tokens.length + 9 ≤ room + 1) :
    Unhindered (moreArguments (room + 1) tokens) (moreArguments (extra + room + 1) tokens) := by
  rw [moreArguments, moreArguments]
  refine (ih.expression (by simp only [Level.reserve]; omega)).bind fun found hfound => ?_
  have hshort := ((sound room).expression hfound).length_lt
  dsimp only
  split
  · rename_i rest hrest
    rw [hrest, List.length_cons] at hshort
    exact (ih.operands (by omega)).bind fun _ _ => unhindered_ok _
  · exact (expect_unhindered _ _).bind fun _ _ => unhindered_ok _

/-- One more unit of room lets the rows of an array be read without hindrance. -/
theorem array_rows_unhindered_succ {tokens : List Token} (h : 10 * tokens.length + 9 ≤ room + 1) :
    Unhindered (arrayRows (room + 1) tokens) (arrayRows (extra + room + 1) tokens) := by
  rw [arrayRows, arrayRows]
  refine (ih.expression (by simp only [Level.reserve]; omega)).bind fun found hfound => ?_
  have hshort := ((sound room).expression hfound).length_lt
  dsimp only
  split
  · rename_i rest hrest
    rw [hrest, List.length_cons] at hshort
    exact (ih.rows (by omega)).bind fun _ _ => unhindered_ok _
  · rename_i rest hrest
    rw [hrest, List.length_cons] at hshort
    exact (ih.rows (by omega)).bind fun _ _ => unhindered_ok _
  · exact unhindered_ok _
  · exact unhindered_error (by simp)

end Steps

/-- Whatever the room is, tokens that it is enough for are read without hindrance. -/
theorem roomy (room extra : Nat) : Roomy room extra := by
  induction room with
  | zero =>
      have hreserve : ∀ level : Level, 0 < level.reserve := by
        intro level
        cases level <;> decide
      refine ⟨?_, by omega, by omega, by omega, by omega, by omega, by omega⟩
      intro level tokens h
      have := hreserve level
      omega
  | succ room ih =>
      exact ⟨expression_unhindered_succ ih, operations_unhindered_succ ih, range_unhindered_succ ih,
        primary_unhindered_succ ih, arguments_unhindered_succ ih, more_arguments_unhindered_succ ih,
        array_rows_unhindered_succ ih⟩

/-- Ten calls for each token, and ten more, are enough for an expression. -/
theorem expression_unhindered {room other : Nat} {tokens : List Token} (level : Level)
    (hroom : roomFor tokens ≤ room) (hother : room ≤ other) :
    Unhindered (expression room level tokens) (expression other level tokens) := by
  obtain ⟨extra, rfl⟩ := Nat.exists_eq_add_of_le' hother
  refine (roomy room extra).expression ?_
  have hreserve : level.reserve ≤ 8 := by cases level <;> decide
  unfold roomFor at hroom
  omega

end Spreadsheet.Formula
