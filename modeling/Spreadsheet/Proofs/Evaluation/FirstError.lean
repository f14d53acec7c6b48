import Spreadsheet.Proofs.Aggregate.Arrays

/-!
# Errors among operands

An expression made of operators has leaves, which are expressions of any other kind. Where leaves
are single values, no operator loses an error value: it hands on that of its left operand, then that
of its right one, and only then finds something wrong itself. The main theorem,
`evaluate_first_error`, says so of whole expressions: the error value that comes out is that of the
first subexpression which has one, from left to right and operands before their operator.
-/

namespace Spreadsheet

/-! ## Single values -/

namespace Value

variable {value : Value} {fault : ErrorValue}

/-- A value that is no array is a single value already. -/
theorem scalar_single (h : value.isArray = false) : value.scalar = value := by
  cases value with
  | array rows => cases h
  | empty | number | text | logical | error => rfl

/-- The error of a value is the one that the value is. -/
theorem error_eq_some_iff : value.error? = some fault ↔ value = .error fault := by
  cases value with
  | error found => exact Option.some_inj.trans (error.injEq found fault).symm.to_iff
  | empty | number | text | logical | array => exact iff_of_false nofun nofun

/-- A value is an error exactly if it has one. -/
theorem is_error_iff : value.isError = true ↔ value.error?.isSome = true := by
  cases value with
  | error found => exact iff_of_true rfl rfl
  | empty | number | text | logical | array => exact iff_of_false nofun nofun

end Value

namespace Evaluation

open Formula (Expr BinaryOperator UnaryOperator)

/-! ## One operator -/

/-- Settling a result gives no array unless the result is one. -/
theorem is_array_settle {result : Except ErrorValue Value}
    (h : ∀ value, result = .ok value → value.isArray = false) :
    (settle result).isArray = false := by
  cases result with
  | error fault => rfl
  | ok value => exact h value rfl

/-- Operators between two operands give single values. -/
theorem is_array_combine (operator : BinaryOperator) (left right : Value) :
    (combine operator left right).isArray = false := by
  unfold combine
  split
  · rfl
  · rfl
  · refine is_array_settle fun value hvalue => ?_
    unfold combineValues at hvalue
    split at hvalue
    · cases hvalue
      rfl
    · split at hvalue
      · obtain ⟨first, -, hvalue⟩ := bind_eq_ok_iff.mp hvalue
        obtain ⟨second, -, hvalue⟩ := bind_eq_ok_iff.mp hvalue
        cases hvalue
        rfl
      · obtain ⟨first, -, hvalue⟩ := bind_eq_ok_iff.mp hvalue
        obtain ⟨second, -, hvalue⟩ := bind_eq_ok_iff.mp hvalue
        obtain ⟨amount, -, hvalue⟩ := bind_eq_ok_iff.mp hvalue
        cases hvalue
        rfl

/-- Operators on one operand give single values. -/
theorem is_array_transform (operator : UnaryOperator) (value : Value) :
    (transform operator value).isArray = false := by
  refine is_array_settle fun result hresult => ?_
  obtain ⟨amount, -, rfl⟩ := except_map_eq_ok_iff.mp hresult
  rfl

/-- The error value of the left operand comes before that of the right one, and both before any of
the operator's own. -/
theorem error_combine (operator : BinaryOperator) (left right : Value) :
    left.error?.or (right.error?.or (combine operator left right).error?) =
      (combine operator left right).error? := by
  unfold combine
  cases left.error? with
  | some fault => rfl
  | none =>
      cases right.error? with
      | some fault => rfl
      | none => rfl

/-- The error value of an operand comes before any of the operator's own. -/
theorem error_transform (operator : UnaryOperator) (value : Value) :
    value.error?.or (transform operator value).error? = (transform operator value).error? := by
  cases value with
  | error fault => rfl
  | empty | number | text | logical | array => rfl

/-! ## Operators over leaves -/

/-- An expression as operators over leaves. A leaf may be any expression, a call or a name say. -/
inductive OperatorTree where
  | leaf (tree : Expr)
  | binary (operator : BinaryOperator) (left right : OperatorTree)
  | unary (operator : UnaryOperator) (operand : OperatorTree)

namespace OperatorTree

/-- The expression itself. -/
def expression : OperatorTree → Expr
  | leaf tree => tree
  | binary operator left right => .binary operator left.expression right.expression
  | unary operator operand => .unary operator operand.expression

/-- Whether the whole expression is a leaf. -/
def isLeaf : OperatorTree → Bool
  | leaf _ => true
  | binary _ _ _ | unary _ _ => false

/-- The subexpressions down to the leaves, from left to right and operands before their operator,
each with the seed that it is evaluated with. -/
def parts : OperatorTree → Seed → List (OperatorTree × Seed)
  | leaf tree, seed => [(leaf tree, seed)]
  | binary operator left right, seed =>
    left.parts (seed.child 0) ++
      (right.parts (seed.child 1) ++ [(binary operator left right, seed)])
  | unary operator operand, seed => operand.parts (seed.child 0) ++ [(unary operator operand, seed)]

end OperatorTree

/-- A subexpression has a value while some definitions are in progress. -/
def Gives (context : Context) (inProgress : List NameKey) (part : OperatorTree × Seed)
    (value : Value) : Prop :=
  evaluateDuring context inProgress part.1.expression part.2 = .ok value

/-- The error value that a subexpression has for its value. -/
def errorOf (context : Context) (inProgress : List NameKey) (part : OperatorTree × Seed) :
    Option ErrorValue :=
  (evaluateDuring context inProgress part.1.expression part.2).toOption.bind Value.error?

/-- The leaves of an expression are single values. -/
def SingleLeaves (context : Context) (inProgress : List NameKey) (tree : OperatorTree)
    (seed : Seed) : Prop :=
  ∀ part ∈ tree.parts seed, part.1.isLeaf = true →
    ∃ value, Gives context inProgress part value ∧ value.isArray = false

section Trees

variable {context : Context} {inProgress : List NameKey} {seed : Seed}

/-- An operator between two subexpressions combines what they are worth. -/
theorem Gives.binary {left right : OperatorTree} {first second : Value} (operator : BinaryOperator)
    (hleft : Gives context inProgress (left, seed.child 0) first)
    (hright : Gives context inProgress (right, seed.child 1) second) :
    Gives context inProgress (.binary operator left right, seed)
      (combine operator first.scalar second.scalar) := by
  rw [Gives, OperatorTree.expression, evaluateDuring, evaluateWith]
  exact bind_eq_ok_iff.mpr ⟨first, hleft, bind_eq_ok_iff.mpr ⟨second, hright, rfl⟩⟩

/-- An operator on one subexpression transforms what it is worth. -/
theorem Gives.unary {operand : OperatorTree} {value : Value} (operator : UnaryOperator)
    (h : Gives context inProgress (operand, seed.child 0) value) :
    Gives context inProgress (.unary operator operand, seed) (transform operator value) := by
  rw [Gives, OperatorTree.expression, evaluateDuring, evaluateWith]
  exact bind_eq_ok_iff.mpr ⟨value, h, rfl⟩

/-- The error value of a subexpression is that of its value. -/
theorem Gives.error_of {part : OperatorTree × Seed} {value : Value}
    (h : Gives context inProgress part value) : errorOf context inProgress part = value.error? := by
  rw [errorOf, h]
  rfl

/-- A subexpression has an error value exactly if it is worth that error. -/
theorem error_of_eq_some_iff {part : OperatorTree × Seed} {fault : ErrorValue} :
    errorOf context inProgress part = some fault ↔
      Gives context inProgress part (.error fault) := by
  rw [errorOf, Option.bind_eq_some_iff]
  constructor
  · intro ⟨value, hvalue, hfault⟩
    rw [Value.error_eq_some_iff.mp hfault] at hvalue
    exact to_option_eq_some_iff.mp hvalue
  · intro h
    exact ⟨_, to_option_eq_some_iff.mpr h, rfl⟩

/-- Over leaves that are single values every subexpression has a value, and the first error value
among theirs is that of the whole expression. -/
theorem gives_parts {tree : OperatorTree} (h : SingleLeaves context inProgress tree seed) :
    ∃ value, Gives context inProgress (tree, seed) value ∧ value.isArray = false ∧
      (∀ part ∈ tree.parts seed, ∃ value, Gives context inProgress part value) ∧
      (tree.parts seed).findSome? (errorOf context inProgress) = value.error? := by
  -- what the operands' parts have for errors stands before what the operator makes of them
  induction tree generalizing seed with
  | leaf tree =>
      obtain ⟨value, hvalue, hsingle⟩ := h _ List.mem_cons_self rfl
      refine ⟨value, hvalue, hsingle, List.forall_mem_singleton.mpr ⟨value, hvalue⟩, ?_⟩
      rw [OperatorTree.parts, List.findSome?_singleton, hvalue.error_of]
  | binary operator left right ihLeft ihRight =>
      rw [SingleLeaves, OperatorTree.parts, List.forall_mem_append, List.forall_mem_append] at h
      obtain ⟨hleft, hright, -⟩ := h
      obtain ⟨first, hfirst, hfirstSingle, hfirsts, hfirstError⟩ := ihLeft hleft
      obtain ⟨second, hsecond, hsecondSingle, hseconds, hsecondError⟩ := ihRight hright
      have hvalue := Gives.binary operator hfirst hsecond
      rw [Value.scalar_single hfirstSingle, Value.scalar_single hsecondSingle] at hvalue
      refine ⟨_, hvalue, is_array_combine _ _ _, ?_, ?_⟩
      · rw [OperatorTree.parts, List.forall_mem_append, List.forall_mem_append]
        exact ⟨hfirsts, hseconds, List.forall_mem_singleton.mpr ⟨_, hvalue⟩⟩
      · rw [OperatorTree.parts, List.findSome?_append, List.findSome?_append,
          List.findSome?_singleton, hfirstError, hsecondError, hvalue.error_of, error_combine]
  | unary operator operand ih =>
      rw [SingleLeaves, OperatorTree.parts, List.forall_mem_append] at h
      obtain ⟨value, hoperand, -, hvalues, herror⟩ := ih h.1
      have hvalue := Gives.unary operator hoperand
      refine ⟨_, hvalue, is_array_transform _ _, ?_, ?_⟩
      · rw [OperatorTree.parts, List.forall_mem_append]
        exact ⟨hvalues, List.forall_mem_singleton.mpr ⟨_, hvalue⟩⟩
      · rw [OperatorTree.parts, List.findSome?_append, List.findSome?_singleton, herror,
          hvalue.error_of, error_transform]

/-- Where leaves are single values, an expression of operators has a single value. It is an error
value exactly if some subexpression has one, a leaf say; and then it is that of the first such
subexpression, from left to right and operands before their operator. -/
theorem evaluate_first_error {tree : OperatorTree}
    (h : SingleLeaves context inProgress tree seed) :
    ∃ value, evaluateDuring context inProgress tree.expression seed = .ok value ∧
      value.isArray = false ∧
      (value.isError = true ↔
        ∃ part ∈ tree.parts seed, ∃ fault, Gives context inProgress part (.error fault)) ∧
      ∀ fault, value = .error fault →
        ∃ before part after, tree.parts seed = before ++ part :: after ∧
          Gives context inProgress part (.error fault) ∧
          ∀ earlier ∈ before, ∃ plain, Gives context inProgress earlier plain ∧
            plain.isError = false := by
  obtain ⟨value, hvalue, hsingle, hparts, herror⟩ := gives_parts h
  refine ⟨value, hvalue, hsingle, ?_, ?_⟩
  · rw [Value.is_error_iff, ← herror, List.findSome?_isSome_iff]
    simp only [Option.isSome_iff_exists, error_of_eq_some_iff]
  · intro fault hfault
    rw [Value.error_eq_some_iff.mpr hfault, List.findSome?_eq_some_iff] at herror
    obtain ⟨before, part, after, hsplit, hpart, hbefore⟩ := herror
    refine ⟨before, part, after, hsplit, error_of_eq_some_iff.mp hpart, fun earlier hearlier => ?_⟩
    obtain ⟨plain, hplain⟩ := hparts earlier (hsplit ▸ List.mem_append_left _ hearlier)
    refine ⟨plain, hplain, ?_⟩
    rw [← Bool.not_eq_true, Value.is_error_iff, ← hplain.error_of, hbefore earlier hearlier]
    exact Bool.false_ne_true

end Trees

/-- The formula `=-(1/0)&(NA()<"x"%)`: the quotient is an error before the call is, and the percent
mark finds one after both. -/
theorem evaluate_first_error_of_quotient :
    let tree : OperatorTree := .binary .concat
      (.unary .negate (.binary .divide (.leaf (.number 1.0)) (.leaf (.number 0.0))))
      (.binary .lessThan (.leaf (.call "NA" [])) (.unary .percent (.leaf (.text "x"))))
    SingleLeaves (.bare default) [] tree default ∧
      evaluateDuring (.bare default) [] tree.expression default = .ok (.error .divisionByZero) ∧
      ∃ before part after, tree.parts default = before ++ part :: after ∧
        Gives (.bare default) [] part (.error .divisionByZero) ∧
        ∀ earlier ∈ before, ∃ plain, Gives (.bare default) [] earlier plain ∧
          plain.isError = false := by
  intro tree
  have hleaves : SingleLeaves (.bare default) [] tree default := by
    simp only [tree, SingleLeaves, OperatorTree.parts, OperatorTree.isLeaf, List.forall_mem_append,
      List.forall_mem_singleton]
    exact ⟨⟨⟨fun _ => ⟨.number 1.0, rfl, rfl⟩, fun _ => ⟨.number 0.0, rfl, rfl⟩, nofun⟩, nofun⟩,
      ⟨fun _ => ⟨.error .notAvailable, rfl, rfl⟩, ⟨fun _ => ⟨.text "x", rfl, rfl⟩, nofun⟩, nofun⟩,
      nofun⟩
  have hvalue : evaluateDuring (.bare default) [] tree.expression default =
      .ok (.error .divisionByZero) := rfl
  obtain ⟨value, hgiven, -, -, hfirst⟩ := evaluate_first_error hleaves
  exact ⟨hleaves, hvalue, hfirst _ (Except.ok.inj (hgiven.symm.trans hvalue))⟩

end Evaluation

end Spreadsheet
