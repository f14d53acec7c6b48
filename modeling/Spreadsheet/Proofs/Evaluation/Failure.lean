import Spreadsheet.Proofs.Evaluation.Locality
import Spreadsheet.Proofs.Evaluation.Waiting

/-!
# How evaluation fails

Evaluating a formula fails if a name is needed for its own value, if a number is to be drawn from
none, or if a result is to be looked up by what is not a number: lookups always walk over the kind
of source that they have, and there is always room for the definitions in progress. The main
theorem, `failure_of_evaluate`, says where such a name, such a draw and such a lookup come from.
-/

namespace Spreadsheet

open Dependency (Mention)
open Formula (Expr FormulaError)
open Lookup (Direction Source Request LookupError MatchMode)

namespace Lookup

/-- Whether a lookup has a result, an error value counting as one. Where steps may be missing that
lead to it, the number of the result may not be a number instead. -/
def Answers {α : Type} (missing : Prop) (result : Except LookupError α) : Prop :=
  ∀ failure, result = .error failure →
    (∃ fault, failure = .cell fault) ∨ failure = .indexNotNumber ∧ missing

section Answers

variable {α β : Type} {missing : Prop}

/-- A result is an answer. -/
theorem answers_ok (value : α) : Answers missing (.ok value) := by
  intro failure h
  cases h

/-- An error value is an answer. -/
theorem answers_cell (fault : ErrorValue) :
    Answers missing (.error (.cell fault) : Except LookupError α) := by
  intro failure h
  cases h
  exact Or.inl ⟨fault, rfl⟩

/-- Lookups that answer one after another answer together. -/
theorem Answers.bind {first : Except LookupError α} {goOn : α → Except LookupError β}
    (hfirst : Answers missing first)
    (h : ∀ result, first = .ok result → Answers missing (goOn result)) :
    Answers missing (first >>= goOn) := by
  cases first with
  | ok result => exact h result rfl
  | error failure =>
      intro found hfound
      obtain rfl := Except.error.inj hfound
      exact hfirst _ rfl

/-- Where nothing is missing, no answer is that it is. -/
theorem Answers.ne {result : Except LookupError α} (h : Answers False result) :
    result ≠ .error .indexNotNumber := by
  intro hresult
  rcases h _ hresult with ⟨fault, hfault⟩ | ⟨-, hmissing⟩
  · cases hfault
  · exact hmissing

/-- What is made of an answer is an answer. -/
theorem Answers.map {result : Except LookupError α} (h : Answers missing result) (f : α → β) :
    Answers missing (result.map f) := by
  cases result with
  | ok value => exact answers_ok _
  | error failure =>
      intro found hfound
      obtain rfl := Except.error.inj hfound
      exact h _ rfl

/-- A request is refused with error values only. -/
theorem answers_request (value : Value) (index : Nat) (source : Source) (approximate : Bool) :
    Answers missing (Request.of value index source approximate) := by
  cases value with
  | error | array => exact answers_cell _
  | _ => exact answers_ok _

/-- A walk is over the kind of source that it has. -/
theorem answers_navigate (direction : Direction) (request : Request) (context : Context) :
    Answers missing (navigate direction request context) := by
  obtain ⟨value, index, source, approximate⟩ := request
  cases source with
  | array elements =>
      simp only [navigate, overArray]
      split
      · exact answers_cell _
      · exact answers_ok _
  | range address =>
      cases direction <;> simp only [navigate, overRange] <;> split_ifs <;>
        first | exact answers_ok _ | exact answers_cell _

/-- A search fails as its walk does. -/
theorem answers_search (direction : Direction) (request : Request) (mode : MatchMode)
    (context : Context) : Answers missing (search direction request mode context) :=
  (answers_navigate direction request context).bind fun _ _ => answers_ok _

end Answers

end Lookup

namespace Builtin

open Lookup (Answers Hit LookupError answers_ok answers_cell answers_request answers_search)

/-- The failures with which a call of a function breaks off. -/
inductive BreaksOff (name : String) : FormulaError → Prop
  /-- The number of a result is not a number. -/
  | index (hname : name = "VLOOKUP" ∨ name = "HLOOKUP") : BreaksOff name .indexNotNumber
  /-- There is no number to draw. -/
  | draw (hname : name = "RANDBETWEEN") : BreaksOff name .emptyDraw

variable {missing : Prop}

/-- A coercion is refused with error values only. -/
theorem answers_coerced {α : Type} (result : Except ErrorValue α) :
    Answers missing (coerced result) := by
  cases result with
  | ok value => exact answers_ok value
  | error fault => exact answers_cell fault

/-- Steps to a result are missing only where its number is not a number. -/
theorem answers_result_index {amount : Float}
    (h : Number.isNotNumber amount = true → missing) : Answers missing (resultIndex amount) := by
  intro failure hfailure
  unfold resultIndex at hfailure
  split at hfailure
  next hnumber =>
    cases hfailure
    exact Or.inr ⟨rfl, h hnumber⟩
  next => cases hfailure

/-- An operand that was not given is an error value. -/
theorem answers_operand_at (operands : List Operand) (index : Nat) :
    Answers missing (operandAt operands index) := by
  unfold operandAt
  cases operands[index]? with
  | none => exact answers_cell _
  | some operand => exact answers_ok _

/-- What is neither a row nor a column is refused with an error value. -/
theorem answers_vector (operand : Operand) : Answers missing (vector operand) := by
  cases operand <;> simp only [vector] <;> split_ifs <;>
    first | exact answers_ok _ | exact answers_cell _

/-- A search answers with what was found, or that nothing was. -/
theorem answers_hit {α : Type} (value : Hit → α) (hit : Option Hit) :
    Answers missing (match hit with
      | some found => return value found
      | none => fail .notAvailable : Except LookupError α) := by
  cases hit with
  | none => exact answers_cell _
  | some found => exact answers_ok _

section References

variable (context : Context) (operands : List Operand)

/-- A lookup in a table answers unless the number of its result is not a number. -/
theorem answers_table_lookup
    (h : ∀ amount, resultNumber ((valueAt context operands 2).getD .empty) = .ok amount →
      Number.isNotNumber amount = true → missing) (along : Direction) :
    Answers missing (tableLookup along context operands) := by
  simp only [tableLookup]
  refine (answers_operand_at _ _).bind fun operand _ =>
    (answers_coerced _).bind fun number hnumber => ?_
  have hindex : Answers missing (resultIndex number) :=
    answers_result_index (h number (map_error_eq_ok_iff.mp hnumber))
  split
  · exact (answers_coerced _).bind fun approximate _ => hindex.bind fun _ _ =>
      (answers_request _ _ _ _).bind fun _ _ =>
        (answers_search _ _ _ _).bind fun hit _ => answers_hit _ hit
  · exact hindex.bind fun _ _ => (answers_request _ _ _ _).bind fun _ _ =>
      (answers_search _ _ _ _).bind fun hit _ => answers_hit _ hit

/-- The position of a key is an answer, also if there is none. -/
theorem answers_position : Answers missing (position context operands) := by
  simp only [position]
  split
  · refine ((answers_coerced _).map _).bind fun number _ => ?_
    exact (answers_operand_at _ _).bind fun operand _ => (answers_vector _).bind fun found _ =>
      (answers_request _ _ _ _).bind fun request _ =>
        (answers_search _ _ _ _).bind fun hit _ => answers_hit _ hit
  · exact (answers_operand_at _ _).bind fun operand _ => (answers_vector _).bind fun found _ =>
      (answers_request _ _ _ _).bind fun request _ =>
        (answers_search _ _ _ _).bind fun hit _ => answers_hit _ hit

/-- A lookup in a vector answers. -/
theorem answers_vector_lookup : Answers missing (vectorLookup context operands) := by
  unfold vectorLookup
  refine (answers_operand_at _ _).bind fun keys _ => ?_
  refine (answers_request _ _ _ _).bind fun request _ => ?_
  refine (answers_search _ _ _ _).bind fun hit _ => ?_
  cases hit with
  | none => exact answers_cell _
  | some hit =>
      cases operands[2]? with
      | none => exact answers_ok _
      | some results =>
          dsimp only
          split
          · exact answers_ok _
          · exact answers_cell _

/-- A number of a cell is an answer. -/
theorem answers_place (pick : Position → Nat) : Answers missing (place pick context operands) := by
  cases operands with
  | nil => exact answers_ok _
  | cons first rest => cases first <;> first | exact answers_ok _ | exact answers_cell _

/-- A dimension is an answer. -/
theorem answers_dimension (pick : Nat × Nat → Nat) :
    Answers missing (dimension pick context operands) :=
  (answers_operand_at _ _).bind fun _ _ => answers_ok _

end References

/-- A function is found by its name in upper case. -/
theorem name_of_find {word : String} {function : Builtin} (h : find? word = some function) :
    function.name = Text.upper word := by
  unfold find? at h
  simpa using List.find?_some h

/-- A draw between bounds is volatile, in whatever case its name is written. -/
theorem is_volatile_name_of_upper {word : String} (h : Text.upper word = "RANDBETWEEN") :
    isVolatileName word = true := by
  unfold isVolatileName find?
  rw [h]
  rfl

/-- A draw without bounds always has a number. -/
theorem random_ne_error (seed : Seed) (operands : List Value) (failure : FormulaError) :
    random seed operands ≠ .error failure := by
  simp [random]

/-- A draw between bounds fails only if there is nothing to draw. -/
theorem random_between_eq_error {seed : Seed} {operands : List Value} {failure : FormulaError}
    (h : randomBetween seed operands = .error failure) : failure = .emptyDraw := by
  unfold randomBetween at h
  split at h
  · cases h
  · dsimp only at h
    split at h
    · cases h
      rfl
    · cases h

/-- Functions over references, and functions of chance, break off as their names say and fail in no
other way. -/
theorem all_answering {function : Builtin} (h : function ∈ all) :
    match function.body with
    | .references apply => ∀ context operands,
        Answers (BreaksOff function.name .indexNotNumber) (apply context operands)
    | .chance apply => ∀ seed operands failure, apply seed operands = .error failure →
        BreaksOff function.name failure
    | _ => True := by
  simp only [all, List.mem_append] at h
  rcases h with ((((h | h) | h) | h) | h) | h
  · revert function
    simp only [numeric, List.forall_mem_cons, ofValues, ofChance]
    refine ⟨trivial, trivial, trivial, trivial, trivial, trivial, trivial, trivial, trivial,
      trivial, trivial, trivial, trivial, trivial, trivial, trivial, trivial, ?_, ?_, by simp⟩
    · exact fun seed operands failure h => absurd h (random_ne_error seed operands failure)
    · intro seed operands failure h
      obtain rfl := random_between_eq_error h
      exact .draw rfl
  · revert function
    simp [logical, ofValues, intercepting]
  · revert function
    simp [inspecting, ofValues, intercepting]
  · revert function
    simp [textual, ofValues]
  · revert function
    simp only [tabular, List.forall_mem_cons]
    exact ⟨fun _ _ => answers_table_lookup _ _ (fun _ _ _ => .index (Or.inl rfl)) _,
      fun _ _ => answers_table_lookup _ _ (fun _ _ _ => .index (Or.inr rfl)) _,
      answers_position, answers_vector_lookup, fun _ _ => answers_place _ _ _,
      fun _ _ => answers_place _ _ _, fun _ _ => answers_dimension _ _ _,
      fun _ _ => answers_dimension _ _ _, trivial, trivial, by simp⟩
  · revert function
    simp [calendrical, ofPlace, ofMoment]

end Builtin

namespace Evaluation

/-- Whether a result is missing only because a name is needed for its own value, or because no steps
lead to it. -/
def Tame {α : Type} (result : Except FormulaError α) : Prop :=
  ∀ failure, result = .error failure →
    (∃ name, failure = .circularName name) ∨ failure = .indexNotNumber

/-- Whether a result, if it is missing, is missing for one of some reasons. -/
def FailsOnly {α : Type} (reasons : FormulaError → Prop) (result : Except FormulaError α) : Prop :=
  ∀ failure, result = .error failure → reasons failure

section Rules

variable {α β : Type} {reasons : FormulaError → Prop}

/-- What has a result does not fail. -/
theorem fails_only_ok (value : α) : FailsOnly reasons (.ok value) := by
  intro failure h
  cases h

/-- A failure is a failure for its own reason. -/
theorem fails_only_error {failure : FormulaError} (hreason : reasons failure) :
    FailsOnly reasons (.error failure : Except FormulaError α) := by
  intro found h
  cases h
  exact hreason

/-- What fails for some reasons one after another fails for them altogether. -/
theorem FailsOnly.bind {first : Except FormulaError α} {goOn : α → Except FormulaError β}
    (hfirst : FailsOnly reasons first) (h : ∀ result, FailsOnly reasons (goOn result)) :
    FailsOnly reasons (first >>= goOn) := by
  cases first with
  | ok result => exact h result
  | error failure => exact fails_only_error (hfirst failure rfl)

/-- What is made of a result fails as the result does. -/
theorem FailsOnly.map {result : Except FormulaError α} (h : FailsOnly reasons result) (f : α → β) :
    FailsOnly reasons (result.map f) := by
  cases result with
  | ok value => exact fails_only_ok _
  | error failure => exact fails_only_error (h failure rfl)

/-- A lookup that answers fails only where steps to its result are missing. -/
theorem fails_only_settle {missing : Prop} {result : Except LookupError Value}
    (h : Lookup.Answers missing result) (hmissing : missing → reasons .indexNotNumber) :
    FailsOnly reasons (Lookup.settle result) := by
  cases result with
  | ok value => exact fails_only_ok value
  | error failure =>
      obtain ⟨fault, rfl⟩ | ⟨rfl, hindex⟩ := h failure rfl
      · exact fails_only_ok _
      · exact fails_only_error (hmissing hindex)

/-- A call with values as its operands fails only as calls of the function break off. -/
theorem fails_only_apply_values {function : Builtin} (hmem : function ∈ Builtin.all)
    (hbreaks : ∀ failure, Builtin.BreaksOff function.name failure → reasons failure)
    (context : Context) (seed : Seed) (operands : Operands Value) :
    FailsOnly reasons (applyValues function context seed operands) := by
  have hanswers := Builtin.all_answering hmem
  cases operands with
  | error fault => exact fails_only_ok _
  | ok values =>
      cases hbody : function.body with
      | values apply | located apply =>
          simp only [applyValues, hbody]
          exact fails_only_ok _
      | chance apply =>
          simp only [hbody] at hanswers
          simp only [applyValues, hbody]
          exact fun failure h => hbreaks failure (hanswers seed values failure h)
      | references apply =>
          simp only [hbody] at hanswers
          simp only [applyValues, hbody]
          exact fails_only_settle (hanswers _ _) (hbreaks _)

/-- A call with references among its operands fails only as calls of the function break off. -/
theorem fails_only_apply_references {function : Builtin} (hmem : function ∈ Builtin.all)
    (hbreaks : ∀ failure, Builtin.BreaksOff function.name failure → reasons failure)
    (context : Context) (seed : Seed) (operands : Operands Operand) :
    FailsOnly reasons (applyReferences function context seed operands) := by
  have hanswers := Builtin.all_answering hmem
  cases operands with
  | error fault => exact fails_only_ok _
  | ok found =>
      cases hbody : function.body with
      | references apply =>
          simp only [hbody] at hanswers
          simp only [applyReferences, hbody]
          exact fails_only_settle (hanswers _ _) (hbreaks _)
      | values | located | chance =>
          simp only [applyReferences, hbody]
          exact fails_only_apply_values hmem hbreaks context seed _

end Rules

section Trees

variable {safe : Mention → Prop} {reasons : FormulaError → Prop} {book : Workbook} {home : Nat}
  {context : Context} {resolve : Resolver}

/-- Whether calls of safe functions and safe names fail for some reasons only. -/
structure Explained (safe : Mention → Prop) (reasons : FormulaError → Prop) (book : Workbook)
    (home : Nat) (resolve : Resolver) : Prop where
  call : ∀ word, safe (.function word) →
    ∀ failure, Builtin.BreaksOff (Text.upper word) failure → reasons failure
  name : ∀ (sheet : Option String) (name : String),
    (∀ on, placeOf book.sheetIndex home sheet = some on → safe (.name on name)) →
    ∀ seed : Seed, FailsOnly reasons (resolve sheet name seed)

mutual

/-- An expression with safe mentions fails for the reasons for which safe names and calls do. -/
theorem fails_only_evaluate_with (h : Explained safe reasons book home resolve) (tree : Expr)
    (htree : ∀ mention ∈ tree.mentions book.sheetIndex home, safe mention) (seed : Seed) :
    FailsOnly reasons (evaluateWith context resolve tree seed) := by
  cases tree with
  | number | text | logical | error | cell =>
      simp only [evaluateWith]
      exact fails_only_ok _
  | range sheet area =>
      simp only [evaluateWith]
      cases context.rangeAddress sheet area <;> exact fails_only_ok _
  | name sheet name =>
      simp only [evaluateWith]
      exact h.name sheet name (fun on hon => htree _ (by simp [Expr.mentions, hon])) seed
  | binary operator first second =>
      simp only [Expr.mentions, List.forall_mem_append] at htree
      simp only [evaluateWith]
      exact (fails_only_evaluate_with h first htree.1 _).bind fun _ =>
        (fails_only_evaluate_with h second htree.2 _).bind fun _ => fails_only_ok _
  | unary operator operand =>
      simp only [Expr.mentions] at htree
      simp only [evaluateWith]
      exact (fails_only_evaluate_with h operand htree _).bind fun _ => fails_only_ok _
  | call name operands =>
      simp only [Expr.mentions, List.forall_mem_cons] at htree
      simp only [evaluateWith]
      cases hfind : Builtin.find? name with
      | none => exact fails_only_ok _
      | some function =>
          have hmem := Builtin.mem_of_find hfind
          have hfunction : ∀ failure, Builtin.BreaksOff function.name failure →
              reasons failure := by
            rw [Builtin.name_of_find hfind]
            exact h.call name htree.1
          dsimp only
          split_ifs
          · exact fails_only_ok _
          · exact (fails_only_operand_references h _ operands htree.2 _).bind fun _ =>
              fails_only_apply_references hmem hfunction _ _ _
          · exact (fails_only_operand_values h _ operands htree.2 _).bind fun _ =>
              fails_only_apply_values hmem hfunction _ _ _
  | array rows =>
      simp only [Expr.mentions] at htree
      simp only [evaluateWith]
      exact (fails_only_evaluate_rows h rows htree seed).bind fun _ => fails_only_ok _

/-- The same of operands that are evaluated. -/
theorem fails_only_operand_values (h : Explained safe reasons book home resolve)
    (intercepts : Bool) (trees : List Expr)
    (htrees : ∀ mention ∈ Expr.mentionsAll book.sheetIndex home trees, safe mention)
    (seed : Seed) : FailsOnly reasons (operandValues context resolve intercepts trees seed) := by
  cases trees with
  | nil =>
      simp only [operandValues]
      exact fails_only_ok _
  | cons tree rest =>
      simp only [Expr.mentionsAll, List.forall_mem_append] at htrees
      simp only [operandValues]
      refine (fails_only_evaluate_with h tree htrees.1 _).bind fun value => ?_
      split
      · exact fails_only_ok _
      · exact (fails_only_operand_values h intercepts rest htrees.2 _).bind fun _ => fails_only_ok _

/-- The same of operands that are references or evaluated. -/
theorem fails_only_operand_references (h : Explained safe reasons book home resolve)
    (intercepts : Bool) (trees : List Expr)
    (htrees : ∀ mention ∈ Expr.mentionsAll book.sheetIndex home trees, safe mention)
    (seed : Seed) :
    FailsOnly reasons (operandReferences context resolve intercepts trees seed) := by
  cases trees with
  | nil =>
      simp only [operandReferences]
      exact fails_only_ok _
  | cons tree rest =>
      simp only [Expr.mentionsAll, List.forall_mem_append] at htrees
      -- the other operands come after one that is a reference as after one that is evaluated
      have hrest : ∀ operand : Operand, FailsOnly reasons (
          match if intercepts then none else operand.value?.bind Value.error? with
          | some fault => pure (Except.error fault)
          | none => do
            let others ← operandReferences context resolve intercepts rest (seed.child 1)
            pure (others.map (operand :: ·))) := by
        intro operand
        split
        · exact fails_only_ok _
        · exact (fails_only_operand_references h intercepts rest htrees.2 _).bind fun _ =>
            fails_only_ok _
      simp only [operandReferences]
      cases referenceOperand context tree with
      | some operand => exact hrest operand
      | none => exact ((fails_only_evaluate_with h tree htrees.1 _).map _).bind hrest

/-- The same of the rows of an array constant. -/
theorem fails_only_evaluate_rows (h : Explained safe reasons book home resolve)
    (rows : List (List Expr))
    (hrows : ∀ mention ∈ Expr.mentionsRows book.sheetIndex home rows, safe mention)
    (seed : Seed) : FailsOnly reasons (evaluateRows context resolve rows seed) := by
  cases rows with
  | nil =>
      simp only [evaluateRows]
      exact fails_only_ok _
  | cons row rest =>
      simp only [Expr.mentionsRows, List.forall_mem_append] at hrows
      simp only [evaluateRows]
      exact (fails_only_evaluate_row h row hrows.1 _).bind fun _ =>
        (fails_only_evaluate_rows h rest hrows.2 _).bind fun _ => fails_only_ok _

/-- The same of one row of an array constant. -/
theorem fails_only_evaluate_row (h : Explained safe reasons book home resolve) (trees : List Expr)
    (htrees : ∀ mention ∈ Expr.mentionsAll book.sheetIndex home trees, safe mention)
    (seed : Seed) : FailsOnly reasons (evaluateRow context resolve trees seed) := by
  cases trees with
  | nil =>
      simp only [evaluateRow]
      exact fails_only_ok _
  | cons tree rest =>
      simp only [Expr.mentionsAll, List.forall_mem_append] at htrees
      simp only [evaluateRow]
      exact (fails_only_evaluate_with h tree htrees.1 _).bind fun _ =>
        (fails_only_evaluate_row h rest htrees.2 _).bind fun _ => fails_only_ok _

end

end Trees

/-- The workbook of a context, without sheets if there is none. -/
def bookOf (context : Context) : Workbook := context.workbook.getD .empty

/-- Whether the expression of a definition, seen from a sheet, needs another definition. -/
def Uses (book : Workbook) (home : Nat) (definition next : DefinedName) : Prop :=
  ∃ tree sheet name, definition.parsed = .ok tree ∧
    .name sheet name ∈ tree.mentions book.sheetIndex home ∧
    book.names.get name sheet = some next

/-- Why an expression of a sheet may have no value: it leads to a name whose definition needs
itself, directly or through other definitions, or to a call that breaks off. -/
inductive Failure (book : Workbook) (home : Nat) (tree : Expr) : FormulaError → Prop
  | circular {sheet : Nat} {name : String} {definition : DefinedName}
      (hleads : tree.LeadsTo book home (.name sheet name))
      (hget : book.names.get name sheet = some definition)
      (hcycle : Relation.TransGen (Uses book home) definition definition) :
      Failure book home tree (.circularName definition.name)
  | call {word : String} {failure : FormulaError}
      (hleads : tree.LeadsTo book home (.function word))
      (hbreaks : Builtin.BreaksOff (Text.upper word) failure) : Failure book home tree failure

section Definitions

variable {context : Context} {root tree : Expr} {inProgress : List NameKey}

/-- Whether every definition in progress needs those that an expression needs. -/
def Nested (context : Context) (inProgress : List NameKey) (tree : Expr) : Prop :=
  ∀ definition next : DefinedName, ∀ sheet name,
    (bookOf context).names.entries[definition.key]? = some definition →
    definition.key ∈ inProgress →
    .name sheet name ∈ tree.mentions (bookOf context).sheetIndex context.sheet →
    (bookOf context).names.get name sheet = some next →
      Relation.TransGen (Uses (bookOf context) context.sheet) definition next

/-- What is nested stays so when a definition that the expression needs joins. -/
theorem Nested.join (h : Nested context inProgress tree) {definition : DefinedName} {inner : Expr}
    {sheet : Nat} {name : String}
    (hmention : .name sheet name ∈ tree.mentions (bookOf context).sheetIndex context.sheet)
    (hget : (bookOf context).names.get name sheet = some definition)
    (hparsed : definition.parsed = .ok inner) :
    Nested context (definition.key :: inProgress) inner := by
  intro outer next on word houter hkey hinner hnext
  have huses : Uses (bookOf context) context.sheet definition next :=
    ⟨inner, on, word, hparsed, hinner, hnext⟩
  rcases List.mem_cons.mp hkey with hsame | hbefore
  · have hentry := NameTable.get_key_of_get hget
    rw [← hsame, houter] at hentry
    obtain rfl := Option.some.inj hentry
    exact .single huses
  · exact (h outer definition sheet name houter hbefore hmention hget).tail huses

/-- Resolving a name fails only as the definitions do that are not in progress. -/
theorem explained_name_value {evaluateDefinition : DefinedName → Expr → Seed → Outcome}
    (htree : ∀ mention ∈ tree.mentions (bookOf context).sheetIndex context.sheet,
      root.LeadsTo (bookOf context) context.sheet mention)
    (hnested : Nested context inProgress tree)
    (hevaluate : ∀ definition inner seed, definition.key ∈ waiting context inProgress →
      (∀ mention ∈ inner.mentions (bookOf context).sheetIndex context.sheet,
        root.LeadsTo (bookOf context) context.sheet mention) →
      Nested context (definition.key :: inProgress) inner →
      FailsOnly (Failure (bookOf context) context.sheet root)
        (evaluateDefinition definition inner seed)) :
    Explained (· ∈ tree.mentions (bookOf context).sheetIndex context.sheet)
      (Failure (bookOf context) context.sheet root) (bookOf context) context.sheet
      (nameValue context inProgress evaluateDefinition) := by
  refine ⟨fun word hword _ hbreaks => .call (htree _ hword) hbreaks, ?_⟩
  intro sheet name hname seed
  unfold nameValue
  cases hfound : context.definition sheet name with
  | error fault => exact fails_only_ok _
  | ok found =>
      cases found with
      | none => exact fails_only_ok _
      | some definition =>
          obtain ⟨workbook, index, hworkbook, hindex, hget⟩ := get_of_definition hfound
          obtain rfl : bookOf context = workbook := by simp [bookOf, hworkbook]
          have hmention := hname index (place_of_sheet_index hworkbook hindex)
          dsimp only
          split
          · exact fails_only_ok _
          · split
            · rename_i hkey
              refine fails_only_error (.circular (htree _ hmention) hget ?_)
              exact hnested definition definition index name (NameTable.get_key_of_get hget)
                (List.contains_iff_mem.mp hkey) hmention hget
            · rename_i hkey
              cases hparsed : definition.parsed with
              | error refusal => exact fails_only_ok _
              | ok inner =>
                  refine hevaluate definition inner seed ?_ ?_ (hnested.join hmention hget hparsed)
                  · exact mem_waiting_of_definition hfound (by simpa using hkey)
                  · intro mention hinner
                    obtain ⟨first, hfirst, hleads⟩ := htree _ hmention
                    exact ⟨first, hfirst,
                      hleads.tail ⟨index, name, definition, inner, rfl, hget, hparsed, hinner⟩⟩

/-- The same of names that are resolved with room for the definitions that are not in progress. -/
theorem explained_resolve_name (room : Nat) (hroom : (waiting context inProgress).length ≤ room)
    (htree : ∀ mention ∈ tree.mentions (bookOf context).sheetIndex context.sheet,
      root.LeadsTo (bookOf context) context.sheet mention)
    (hnested : Nested context inProgress tree) :
    Explained (· ∈ tree.mentions (bookOf context).sheetIndex context.sheet)
      (Failure (bookOf context) context.sheet root) (bookOf context) context.sheet
      (resolveName context room inProgress) := by
  induction room generalizing inProgress tree with
  | zero =>
      refine explained_name_value htree hnested fun definition inner seed hwaiting => ?_
      have := List.length_pos_of_mem hwaiting
      omega
  | succ room ih =>
      refine explained_name_value htree hnested ?_
      intro definition inner seed hwaiting hinner hjoined
      have hless := waiting_cons_length_lt hwaiting
      exact fails_only_evaluate_with (ih (by omega) hinner hjoined) inner (fun _ h => h) seed

end Definitions

/-- An expression that has no value leads to a name that is needed for its own value, or to a call
that breaks off. -/
theorem failure_of_evaluate {context : Context} {tree : Expr} {seed : Seed} {failure : FormulaError}
    (h : evaluate context tree seed = .error failure) :
    Failure (bookOf context) context.sheet tree failure := by
  have hleads : ∀ mention ∈ tree.mentions (bookOf context).sheetIndex context.sheet,
      tree.LeadsTo (bookOf context) context.sheet mention :=
    fun mention hmention => ⟨mention, hmention, .refl⟩
  have hnested : Nested context [] tree := fun _ _ _ _ _ hkey => (List.not_mem_nil hkey).elim
  have hexplained := explained_resolve_name (roomForNames context)
    (waiting_length_le context []) hleads hnested
  exact fails_only_evaluate_with hexplained tree (fun _ h => h) seed failure h

/-- An expression that leads to no volatile function has a value, unless a name is needed for its
own value or no steps lead to a result that is looked up. -/
theorem evaluate_steady {book : Workbook} {home : Nat} {tree : Expr} (h : tree.Steady book home)
    (position : Position) (moment : Moment) (seed : Seed) :
    Tame (evaluate (.ofCell book home position moment) tree seed) := by
  intro failure hfailure
  cases failure_of_evaluate hfailure with
  | circular => exact Or.inl ⟨_, rfl⟩
  | call hleads hbreaks =>
      cases hbreaks with
      | index => exact Or.inr rfl
      | draw hname =>
          have hvolatile := Builtin.is_volatile_name_of_upper hname
          rw [h _ hleads] at hvolatile
          cases hvolatile

end Evaluation

end Spreadsheet
