import Spreadsheet.Proofs.Evaluation.Agreement
import Spreadsheet.Proofs.Evaluation.Mentions

/-!
# What evaluation depends on

The main theorem, `evaluate_congr`: an expression has the same value in two workbooks that show the
same at every cell it leads to, if they have the same sheets, names and dates. The moment and the
seed of chance matter only to expressions that lead to a volatile function.
-/

namespace Spreadsheet

open Dependency (Mention)
open Formula (Expr)

/-- Whether two workbooks have the same sheets by name, the same defined names and the same dates.
Their cells may differ. -/
structure Workbook.SameFrame (left right : Workbook) : Prop where
  sheetNames : left.sheets.map Worksheet.name = right.sheets.map Worksheet.name
  names : left.names = right.names
  dateSystem : left.dateSystem = right.dateSystem

namespace Context

/-- Without the name of a sheet, the sheet of the cell is meant. -/
theorem sheet_index_none (book : Workbook) (home : Nat) (position : Position) (moment : Moment) :
    (ofCell book home position moment).sheetIndex none =
      if home < book.sheetCount then .ok home else .error .reference := rfl

/-- The name of a sheet means the sheet of the workbook with that name. -/
theorem sheet_index_some (book : Workbook) (home : Nat) (position : Position) (moment : Moment)
    (name : String) : (ofCell book home position moment).sheetIndex (some name) =
      (book.sheetIndex name).elim (.error .reference) .ok := rfl

end Context

namespace Workbook.SameFrame

variable {left right : Workbook} (h : left.SameFrame right)
include h

/-- That workbooks have the same frame goes both ways. -/
theorem symm : right.SameFrame left := ⟨h.sheetNames.symm, h.names.symm, h.dateSystem.symm⟩

/-- Workbooks with the frame of a third one have the same frame. -/
theorem trans {last : Workbook} (hlast : right.SameFrame last) : left.SameFrame last :=
  ⟨h.sheetNames.trans hlast.sheetNames, h.names.trans hlast.names,
    h.dateSystem.trans hlast.dateSystem⟩

/-- Workbooks with the same frame have equally many sheets. -/
theorem sheet_count : left.sheetCount = right.sheetCount := by
  simpa [sheetCount] using congrArg List.length h.sheetNames

/-- Workbooks with the same frame have the same sheets under the same names. -/
theorem sheet_index : left.sheetIndex = right.sheetIndex := by
  have hfind : ∀ (book : Workbook) (name : String), book.sheetIndex name =
      (book.sheets.map Worksheet.name).findIdx?
        fun found => Text.lower found == Text.lower name := by
    intro book name
    rw [sheetIndex, List.findIdx?_map]
    rfl
  funext name
  rw [hfind, hfind, h.sheetNames]

/-- Contexts of one cell in two such workbooks agree on the cells that show the same. -/
theorem agree {covered : Nat → Position → Prop} (sheet : Nat) (position : Position)
    (moment other : Moment)
    (hshown : ∀ sheet position, covered sheet position →
      left.shown sheet position = right.shown sheet position) :
    (Context.ofCell left sheet position moment).Agree covered
      (.ofCell right sheet position other) := by
  have hindex : (Context.ofCell left sheet position moment).sheetIndex =
      (Context.ofCell right sheet position other).sheetIndex := by
    funext name
    cases name with
    | none => rw [Context.sheet_index_none, Context.sheet_index_none, h.sheet_count]
    | some name => rw [Context.sheet_index_some, Context.sheet_index_some, h.sheet_index]
  refine ⟨rfl, rfl, h.dateSystem, hindex, ?_, ?_, ?_⟩
  · funext sheet
    simp [Context.hasSheet, Context.ofCell, h.sheet_count]
  · funext sheet name
    simp only [Context.definition, hindex]
    simp [Context.ofCell, h.names]
  · intro sheet position hcovered
    simp [Context.shown, Context.ofCell, hshown sheet position hcovered]

/-- Names lead to the same mentions. -/
theorem mention_leads_to : Mention.LeadsTo left = Mention.LeadsTo right := by
  funext home mention next
  simp only [Mention.LeadsTo, h.names, h.sheet_index]

/-- In workbooks with the same frame an expression leads to the same mentions. -/
theorem leads_to : Expr.LeadsTo left = Expr.LeadsTo right := by
  funext home tree mention
  simp only [Expr.LeadsTo, h.mention_leads_to, h.sheet_index]

/-- The same is read off tokens. -/
theorem mentions_on : Dependency.mentionsOn left = Dependency.mentionsOn right := by
  funext home tokens
  simp only [Dependency.mentionsOn, h.sheet_index]

/-- In workbooks with the same frame a definition mentions the same. -/
theorem mentions_of : Dependency.mentionsOf left = Dependency.mentionsOf right := by
  funext home key
  simp only [Dependency.mentionsOf, h.mentions_on, h.names]

/-- In workbooks with the same frame mentions reach the same definitions. -/
theorem definitions_reached :
    Dependency.definitionsReached left = Dependency.definitionsReached right := by
  have hin : Dependency.definitionsIn left = Dependency.definitionsIn right := by
    funext found
    simp only [Dependency.definitionsIn, h.names]
  funext home found
  simp only [Dependency.definitionsReached, hin, h.mentions_of, h.names]

/-- In workbooks with the same frame a formula has the same references. -/
theorem references (home : Nat) (tokens : List Formula.Token) :
    Dependency.References.ofTokens left home tokens =
      Dependency.References.ofTokens right home tokens := by
  simp only [Dependency.References.ofTokens, h.definitions_reached, h.mentions_on, h.mentions_of]

end Workbook.SameFrame

/-- Whether evaluation may come across a mention when only some cells are covered, and functions
of moment and chance only if those are the same. -/
def Dependency.Mention.Allowed (covered : Nat → Position → Prop) (same : Prop) : Mention → Prop
  | .cell sheet position => covered sheet position
  | .range sheet area => SheetRange.Within covered ⟨sheet, area⟩
  | .name .. => True
  | .function word => Builtin.isVolatileName word = false ∨ same

namespace Evaluation

variable {covered : Nat → Position → Prop} {same : Prop} {left right : Context}
  {seed other : Seed}

/-- A function of values cannot tell contexts apart that agree, unless it is volatile. -/
theorem apply_values_congr {function : Builtin} (hmem : function ∈ Builtin.all)
    (hagree : left.Agree covered right) (hmoment : same → left.moment = right.moment)
    (hseed : same → seed = other) (hfunction : function.isVolatile = false ∨ same)
    (operands : Operands Value) :
    applyValues function left seed operands = applyValues function right other operands := by
  have hlocal := Builtin.all_local hmem
  unfold Builtin.Local at hlocal
  cases operands with
  | error fault => rfl
  | ok values =>
      cases hbody : function.body with
      | values apply => simp only [applyValues, hbody]
      | located apply =>
          simp only [hbody] at hlocal
          simp only [applyValues, hbody,
            hlocal covered left right hagree (hfunction.imp_right hmoment)]
      | chance apply =>
          simp only [hbody] at hlocal
          simp only [applyValues, hbody, hseed (hfunction.resolve_left (by simp [hlocal]))]
      | references apply =>
          simp only [hbody] at hlocal
          simp only [applyValues, hbody]
          rw [hlocal covered left right hagree]
          intro operand hoperand
          obtain ⟨value, -, rfl⟩ := List.mem_map.mp hoperand
          exact trivial

/-- A function of references cannot tell contexts apart that agree on its operands, unless it is
volatile. -/
theorem apply_references_congr {function : Builtin} (hmem : function ∈ Builtin.all)
    (hagree : left.Agree covered right) (hmoment : same → left.moment = right.moment)
    (hseed : same → seed = other) (hfunction : function.isVolatile = false ∨ same)
    {operands : Operands Operand}
    (hoperands : ∀ found, operands = .ok found → ∀ operand ∈ found, operand.Within covered) :
    applyReferences function left seed operands =
      applyReferences function right other operands := by
  cases operands with
  | error fault => rfl
  | ok found =>
      have hwithin := hoperands found rfl
      have hvalues : found.map left.operandValue = found.map right.operandValue :=
        List.map_congr_left fun operand hoperand => hagree.operand_value (hwithin operand hoperand)
      cases hbody : function.body with
      | references apply =>
          have hlocal := Builtin.all_local hmem
          simp only [Builtin.Local, hbody] at hlocal
          simp only [applyReferences, hbody, hlocal covered left right hagree found hwithin]
      | values | located | chance =>
          simp only [applyReferences, hbody, hvalues]
          exact apply_values_congr hmem hagree hmoment hseed hfunction _

/-- The sheet that a context finds for a reference is where the reference lies. -/
theorem place_of_sheet_index {context : Context} {book : Workbook}
    (hworkbook : context.workbook = some book) {sheet : Option String} {index : Nat}
    (h : context.sheetIndex sheet = .ok index) :
    placeOf book.sheetIndex context.sheet sheet = some index := by
  cases sheet with
  | none =>
      simp only [Context.sheetIndex, hworkbook] at h
      split at h
      · exact congrArg some (Except.ok.inj h)
      · cases h
  | some name =>
      simp only [Context.sheetIndex, hworkbook] at h
      cases hfound : book.sheetIndex name with
      | none => simp [hfound] at h
      | some found => simpa [placeOf, hfound] using h

/-- What the congruence of evaluation rests on: contexts that agree on the cells that safe mentions
allow. What a safe name leads to is safe. -/
structure Alike (covered : Nat → Position → Prop) (same : Prop) (safe : Mention → Prop)
    (book : Workbook) (left right : Context) : Prop where
  workbook : left.workbook = some book
  allowed : ∀ mention, safe mention → mention.Allowed covered same
  closed : ∀ mention next, safe mention → mention.LeadsTo book left.sheet next → safe next
  agree : left.Agree covered right
  moment : same → left.moment = right.moment

/-- Whether two resolvers agree on safe names. -/
def ResolveAlike (same : Prop) (safe : Mention → Prop) (book : Workbook) (home : Nat)
    (resolve other : Resolver) : Prop :=
  ∀ (sheet : Option String) (name : String),
    (∀ on, placeOf book.sheetIndex home sheet = some on → safe (.name on name)) →
    ∀ seed otherSeed : Seed, (same → seed = otherSeed) →
      resolve sheet name seed = other sheet name otherSeed

section Trees

variable {safe : Mention → Prop} {book : Workbook} {resolve otherResolve : Resolver}

/-- The range that an expression names by itself is covered if its mentions are safe. -/
theorem Alike.direct_range_within
    (h : Alike covered same safe book left right) {tree : Expr}
    (htree : ∀ mention ∈ tree.mentions book.sheetIndex left.sheet, safe mention)
    {address : SheetRange} (hrange : directRange left tree = some (.ok address)) :
    address.Within covered := by
  cases tree with
  | cell sheet corner =>
      simp only [directRange, Context.rangeAddress, Option.some.injEq, except_map_eq_ok_iff]
        at hrange
      obtain ⟨index, hindex, rfl⟩ := hrange
      intro found hfound
      obtain rfl := (CellRange.contains_single corner found).mp hfound
      exact h.allowed _ (htree (.cell index corner.position)
        (by simp [Expr.mentions, place_of_sheet_index h.workbook hindex]))
  | range sheet area =>
      simp only [directRange, Context.rangeAddress, Option.some.injEq, except_map_eq_ok_iff]
        at hrange
      obtain ⟨index, hindex, rfl⟩ := hrange
      intro found hfound
      have hwithin := h.allowed _ (htree (.range index area.unmarked)
        (by simp [Expr.mentions, place_of_sheet_index h.workbook hindex]))
      exact hwithin found (by simpa using hfound)
  | _ => simp [directRange] at hrange

/-- The range that a name stands for is covered if the name is safe. -/
theorem Alike.named_range_within
    (h : Alike covered same safe book left right) {sheet : Option String}
    {name : String}
    (hname : ∀ on, placeOf book.sheetIndex left.sheet sheet = some on → safe (.name on name))
    {address : SheetRange} (hrange : namedRange left sheet name = some address) :
    address.Within covered := by
  simp only [namedRange, bind, Option.bind_eq_some_iff, to_option_eq_some_iff] at hrange
  obtain ⟨found, hfound, definition, rfl, tree, htree, range, hdirect, rfl⟩ := hrange
  simp only [Context.definition, except_map_eq_ok_iff, h.workbook, Option.bind_some] at hfound
  obtain ⟨index, hindex, hfound⟩ := hfound
  refine h.direct_range_within (fun mention hmention => ?_) hdirect
  exact h.closed _ _ (hname index (place_of_sheet_index h.workbook hindex))
    ⟨index, name, definition, tree, rfl, hfound, htree, hmention⟩

/-- An operand that is a reference is covered if the mentions of its expression are safe. -/
theorem Alike.reference_operand_within
    (h : Alike covered same safe book left right) {tree : Expr}
    (htree : ∀ mention ∈ tree.mentions book.sheetIndex left.sheet, safe mention)
    {operand : Operand} (hoperand : referenceOperand left tree = some operand) :
    operand.Within covered := by
  cases tree with
  | name sheet name =>
      obtain ⟨address, haddress, rfl⟩ := Option.map_eq_some_iff.mp hoperand
      refine h.named_range_within (fun on hon => ?_) haddress
      exact htree _ (by simp [Expr.mentions, hon])
  | cell | range =>
      simp only [referenceOperand, Option.map_eq_some_iff] at hoperand
      obtain ⟨found, hfound, rfl⟩ := hoperand
      cases found with
      | error fault => exact trivial
      | ok address => exact h.direct_range_within htree hfound
  | _ => simp [referenceOperand, directRange] at hoperand

/-- Operands are found one after the other, up to an error value that stops them. -/
theorem operands_cons_eq_ok {fault : Option ErrorValue}
    {others : Except Formula.FormulaError (Operands Operand)} {operand : Operand}
    {found : List Operand}
    (h : (match fault with
      | some fault => pure (Except.error fault)
      | none => do return (← others).map (operand :: ·)) = Except.ok (Except.ok found)) :
    ∃ tail, others = .ok (.ok tail) ∧ operand :: tail = found := by
  cases fault with
  | some fault => cases h
  | none =>
      obtain ⟨result, rfl, hresult⟩ := bind_eq_ok_iff.mp h
      obtain ⟨tail, rfl, hfound⟩ := except_map_eq_ok_iff.mp (Except.ok.inj hresult)
      exact ⟨tail, rfl, hfound⟩

/-- The operands of a call are covered if all that their trees mention is. -/
theorem Alike.operand_references_within
    (h : Alike covered same safe book left right) {intercepts : Bool}
    {trees : List Expr}
    (htrees : ∀ mention ∈ Expr.mentionsAll book.sheetIndex left.sheet trees, safe mention)
    {seed : Seed} {found : List Operand}
    (hfound : operandReferences left resolve intercepts trees seed = .ok (.ok found)) :
    ∀ operand ∈ found, operand.Within covered := by
  induction trees generalizing seed found with
  | nil =>
      obtain rfl : [] = found := by simpa [operandReferences] using hfound
      simp
  | cons tree rest ih =>
      simp only [Expr.mentionsAll, List.forall_mem_append] at htrees
      cases hreference : referenceOperand left tree with
      | some operand =>
          simp only [operandReferences, hreference] at hfound
          obtain ⟨tail, hrest, rfl⟩ := operands_cons_eq_ok hfound
          exact List.forall_mem_cons.mpr
            ⟨h.reference_operand_within htrees.1 hreference, ih htrees.2 hrest⟩
      | none =>
          simp only [operandReferences, hreference] at hfound
          obtain ⟨operand, hoperand, hfound⟩ := bind_eq_ok_iff.mp hfound
          obtain ⟨value, -, rfl⟩ := except_map_eq_ok_iff.mp hoperand
          obtain ⟨tail, hrest, rfl⟩ := operands_cons_eq_ok hfound
          exact List.forall_mem_cons.mpr ⟨trivial, ih htrees.2 hrest⟩

/-- Contexts that agree read a reference as the same range. -/
theorem direct_range_congr (hagree : left.Agree covered right) (tree : Expr) :
    directRange left tree = directRange right tree := by
  cases tree <;> simp only [directRange, Context.rangeAddress, hagree.sheetIndex]

/-- Contexts that agree read an operand as the same reference. -/
theorem reference_operand_congr (hagree : left.Agree covered right) (tree : Expr) :
    referenceOperand left tree = referenceOperand right tree := by
  have hdirect : directRange left = directRange right := funext (direct_range_congr hagree)
  cases tree <;> simp only [referenceOperand, namedRange, hagree.definition, hdirect]

mutual

/-- An expression with safe mentions has one value in contexts that agree, given that safe names
have. -/
theorem evaluate_with_congr
    (h : Alike covered same safe book left right)
    (hresolve : ResolveAlike same safe book left.sheet resolve otherResolve) (tree : Expr)
    (htree : ∀ mention ∈ tree.mentions book.sheetIndex left.sheet, safe mention)
    (seed other : Seed) (hseed : same → seed = other) :
    evaluateWith left resolve tree seed = evaluateWith right otherResolve tree other := by
  have hchild : ∀ index, same → seed.child index = other.child index :=
    fun index hsame => congrArg (Seed.child · index) (hseed hsame)
  cases tree with
  | number | text | logical | error => rfl
  | cell sheet address =>
      simp only [evaluateWith, Context.cellValue, h.agree.sheetIndex]
      cases hindex : right.sheetIndex sheet with
      | error fault => rfl
      | ok index =>
          rw [← h.agree.sheetIndex] at hindex
          have hshown := h.agree.shown _ _ (h.allowed _ (htree (.cell index address.position)
            (by simp [Expr.mentions, place_of_sheet_index h.workbook hindex])))
          simp only [hshown]
  | range sheet area =>
      have hdirect := direct_range_congr h.agree (.range sheet area)
      simp only [directRange, Option.some.injEq] at hdirect
      simp only [evaluateWith, hdirect]
      cases haddress : right.rangeAddress sheet area with
      | error fault => rfl
      | ok address =>
          have hwithin := h.direct_range_within htree
            (by rw [directRange, hdirect, haddress] : directRange left _ = some (.ok address))
          simp only [h.agree.range_values hwithin]
  | name sheet name =>
      simp only [evaluateWith]
      refine hresolve sheet name (fun on hon => ?_) seed other hseed
      exact htree _ (by simp [Expr.mentions, hon])
  | binary operator first second =>
      simp only [Expr.mentions, List.forall_mem_append] at htree
      simp only [evaluateWith, evaluate_with_congr h hresolve first htree.1 _ _ (hchild 0),
        evaluate_with_congr h hresolve second htree.2 _ _ (hchild 1)]
  | unary operator operand =>
      simp only [Expr.mentions] at htree
      simp only [evaluateWith, evaluate_with_congr h hresolve operand htree _ _ (hchild 0)]
  | call name operands =>
      simp only [Expr.mentions, List.forall_mem_cons] at htree
      simp only [evaluateWith]
      cases hfind : Builtin.find? name with
      | none => rfl
      | some function =>
          have hmem := Builtin.mem_of_find hfind
          have hfunction : function.isVolatile = false ∨ same := by
            simpa [Mention.Allowed, Builtin.isVolatileName, hfind] using h.allowed _ htree.1
          -- whichever operands the function takes, they are alike on both sides
          have hvalues := operand_values_congr h hresolve function.intercepts operands htree.2 _ _
            (hchild 0)
          have hreferences := operand_references_congr h hresolve function.intercepts operands
            htree.2 _ _ (hchild 0)
          simp only [hvalues, apply_values_congr hmem h.agree h.moment hseed hfunction,
            ← hreferences]
          congr 2
          refine bind_congr_of_ok fun found hfound => ?_
          refine apply_references_congr hmem h.agree h.moment hseed hfunction ?_
          rintro operands rfl
          exact h.operand_references_within htree.2 hfound
  | array rows =>
      simp only [Expr.mentions] at htree
      simp only [evaluateWith, evaluate_rows_congr h hresolve rows htree seed other hseed]

/-- The same of operands that are evaluated. -/
theorem operand_values_congr
    (h : Alike covered same safe book left right)
    (hresolve : ResolveAlike same safe book left.sheet resolve otherResolve) (intercepts : Bool)
    (trees : List Expr)
    (htrees : ∀ mention ∈ Expr.mentionsAll book.sheetIndex left.sheet trees, safe mention)
    (seed other : Seed) (hseed : same → seed = other) :
    operandValues left resolve intercepts trees seed =
      operandValues right otherResolve intercepts trees other := by
  have hchild : ∀ index, same → seed.child index = other.child index :=
    fun index hsame => congrArg (Seed.child · index) (hseed hsame)
  cases trees with
  | nil => rfl
  | cons tree rest =>
      simp only [Expr.mentionsAll, List.forall_mem_append] at htrees
      simp only [operandValues, evaluate_with_congr h hresolve tree htrees.1 _ _ (hchild 0),
        operand_values_congr h hresolve intercepts rest htrees.2 _ _ (hchild 1)]

/-- The same of operands that are references or evaluated. -/
theorem operand_references_congr
    (h : Alike covered same safe book left right)
    (hresolve : ResolveAlike same safe book left.sheet resolve otherResolve) (intercepts : Bool)
    (trees : List Expr)
    (htrees : ∀ mention ∈ Expr.mentionsAll book.sheetIndex left.sheet trees, safe mention)
    (seed other : Seed) (hseed : same → seed = other) :
    operandReferences left resolve intercepts trees seed =
      operandReferences right otherResolve intercepts trees other := by
  have hchild : ∀ index, same → seed.child index = other.child index :=
    fun index hsame => congrArg (Seed.child · index) (hseed hsame)
  cases trees with
  | nil => rfl
  | cons tree rest =>
      simp only [Expr.mentionsAll, List.forall_mem_append] at htrees
      simp only [operandReferences, reference_operand_congr h.agree,
        evaluate_with_congr h hresolve tree htrees.1 _ _ (hchild 0),
        operand_references_congr h hresolve intercepts rest htrees.2 _ _ (hchild 1)]

/-- The same of the rows of an array constant. -/
theorem evaluate_rows_congr
    (h : Alike covered same safe book left right)
    (hresolve : ResolveAlike same safe book left.sheet resolve otherResolve)
    (rows : List (List Expr))
    (hrows : ∀ mention ∈ Expr.mentionsRows book.sheetIndex left.sheet rows, safe mention)
    (seed other : Seed) (hseed : same → seed = other) :
    evaluateRows left resolve rows seed = evaluateRows right otherResolve rows other := by
  have hchild : ∀ index, same → seed.child index = other.child index :=
    fun index hsame => congrArg (Seed.child · index) (hseed hsame)
  cases rows with
  | nil => rfl
  | cons row rest =>
      simp only [Expr.mentionsRows, List.forall_mem_append] at hrows
      simp only [evaluateRows, evaluate_row_congr h hresolve row hrows.1 _ _ (hchild 0),
        evaluate_rows_congr h hresolve rest hrows.2 _ _ (hchild 1)]

/-- The same of one row of an array constant. -/
theorem evaluate_row_congr
    (h : Alike covered same safe book left right)
    (hresolve : ResolveAlike same safe book left.sheet resolve otherResolve) (trees : List Expr)
    (htrees : ∀ mention ∈ Expr.mentionsAll book.sheetIndex left.sheet trees, safe mention)
    (seed other : Seed) (hseed : same → seed = other) :
    evaluateRow left resolve trees seed = evaluateRow right otherResolve trees other := by
  have hchild : ∀ index, same → seed.child index = other.child index :=
    fun index hsame => congrArg (Seed.child · index) (hseed hsame)
  cases trees with
  | nil => rfl
  | cons tree rest =>
      simp only [Expr.mentionsAll, List.forall_mem_append] at htrees
      simp only [evaluateRow, evaluate_with_congr h hresolve tree htrees.1 _ _ (hchild 0),
        evaluate_row_congr h hresolve rest htrees.2 _ _ (hchild 1)]

end

/-- Resolving names in contexts that agree, given what is done with their definitions. -/
theorem name_value_congr (h : Alike covered same safe book left right) (inProgress : List NameKey)
    {evaluateDefinition otherEvaluate : DefinedName → Expr → Seed → Outcome}
    (hevaluate : ∀ (definition : DefinedName) (tree : Expr),
      (∀ mention ∈ tree.mentions book.sheetIndex left.sheet, safe mention) →
      ∀ seed other : Seed, (same → seed = other) →
        evaluateDefinition definition tree seed = otherEvaluate definition tree other) :
    ResolveAlike same safe book left.sheet (nameValue left inProgress evaluateDefinition)
      (nameValue right inProgress otherEvaluate) := by
  intro sheet name hname seed other hseed
  simp only [nameValue, ← h.agree.definition]
  cases hfound : left.definition sheet name with
  | error fault => rfl
  | ok found =>
      cases found with
      | none => rfl
      | some definition =>
          cases hparsed : definition.parsed with
          | error failure => simp only [hparsed]
          | ok tree =>
              simp only [Context.definition, except_map_eq_ok_iff, h.workbook,
                Option.bind_some] at hfound
              obtain ⟨index, hindex, hfound⟩ := hfound
              have hsafe : ∀ mention ∈ tree.mentions book.sheetIndex left.sheet, safe mention :=
                fun mention hmention => h.closed _ _
                  (hname index (place_of_sheet_index h.workbook hindex))
                  ⟨index, name, definition, tree, rfl, hfound, hparsed, hmention⟩
              simp only [hparsed, hevaluate definition tree hsafe seed other hseed]

/-- Resolving names in contexts that agree. -/
theorem resolve_name_congr (h : Alike covered same safe book left right) (room : Nat)
    (inProgress : List NameKey) :
    ResolveAlike same safe book left.sheet (resolveName left room inProgress)
      (resolveName right room inProgress) := by
  induction room generalizing inProgress with
  | zero => exact name_value_congr h inProgress fun _ _ _ _ _ _ => rfl
  | succ room ih =>
      refine name_value_congr h inProgress fun definition tree htree => ?_
      exact evaluate_with_congr h (ih _) tree htree

end Trees

/-- An expression has the same value in two workbooks that show the same at every cell that it
leads to. Moment and seed may differ if it leads to no volatile function. -/
theorem evaluate_congr {book other : Workbook} (hframe : book.SameFrame other) {home : Nat}
    {position : Position} {tree : Expr}
    (hshown : ∀ mention, tree.LeadsTo book home mention → ∀ sheet position,
      mention.Covers sheet position → book.shown sheet position = other.shown sheet position)
    (moment otherMoment : Moment) (seed otherSeed : Seed)
    (hchance : tree.Steady book home ∨ moment = otherMoment ∧ seed = otherSeed) :
    evaluate (.ofCell book home position moment) tree seed =
      evaluate (.ofCell other home position otherMoment) tree otherSeed := by
  -- the cells that count are those which mentions cover, and safe is what the tree leads to
  let covered (sheet : Nat) (position : Position) : Prop :=
    ∃ mention, tree.LeadsTo book home mention ∧ mention.Covers sheet position
  have hagree : (Context.ofCell book home position moment).Agree covered
      (.ofCell other home position otherMoment) :=
    hframe.agree home position moment otherMoment fun sheet position hcovered =>
      hshown _ hcovered.choose_spec.1 _ _ hcovered.choose_spec.2
  have halike : Alike covered (moment = otherMoment ∧ seed = otherSeed) (tree.LeadsTo book home)
      book (.ofCell book home position moment) (.ofCell other home position otherMoment) := by
    refine ⟨rfl, ?_, ?_, hagree, And.left⟩
    · intro mention hmention
      cases mention with
      | cell sheet position => exact ⟨_, hmention, rfl, rfl⟩
      | range sheet area => exact fun position hposition => ⟨_, hmention, rfl, hposition⟩
      | name => exact trivial
      | function name => exact hchance.imp_left fun hsteady => hsteady name hmention
    · rintro mention next ⟨first, hfirst, hleads⟩ hnext
      exact ⟨first, hfirst, hleads.tail hnext⟩
  have hroom : roomForNames (.ofCell book home position moment) =
      roomForNames (.ofCell other home position otherMoment) := by
    simp [roomForNames, Context.ofCell, hframe.names]
  rw [evaluate, evaluateDuring, evaluate, evaluateDuring, ← hroom]
  exact evaluate_with_congr halike (resolve_name_congr halike _ _) tree
    (fun mention hmention => ⟨mention, hmention, .refl⟩) _ _ And.right

end Evaluation

end Spreadsheet
