import Spreadsheet.Proofs.Dependency.Expansion
import Spreadsheet.Proofs.Evaluation.InPlace
import Spreadsheet.Proofs.Formula.Tokens

/-!
# Using defined names

What may be defined as a name is decided by one rule, what is read as a name by two others: where
words end, and which words are addresses or logical values. The main theorem,
`defined_name_resolves`, says that every name that can be defined is read as a name, and that
evaluation and the search for references both look up the definition that it has on the sheet, in
whatever case it is written.
-/

namespace Spreadsheet

open Formula (Token tokens parse Tokenized)

/-! ## Names as words -/

/-- A character that a name may have may stand in a word. -/
theorem word_char_of_name_char {char : Char} (h : isNameChar char = true) :
    Formula.isWordChar char = true := by
  simp only [isNameChar, Bool.or_eq_true] at h
  simp only [Formula.isWordChar, Bool.or_eq_true]
  tauto

/-- A character that a name may start with may start a word. -/
theorem word_start_of_name_start {char : Char} (h : isNameStart char = true) :
    Formula.isWordStart char = true := by
  simp only [isNameStart, Bool.or_eq_true] at h
  simp only [Formula.isWordStart, Bool.or_eq_true]
  tauto

/-- What it takes to be defined as a name. -/
theorem check_name_eq_ok_iff {name : String} : checkName name = .ok () ↔
    (∃ first rest, name.toList = first :: rest ∧ isNameStart first = true ∧
      ∀ char ∈ rest, isNameChar char = true) ∧
    isAddress name = false ∧ isLogicalWord name = false := by
  unfold checkName isUsableName
  cases name.toList with
  | nil => simp
  | cons first rest => simp [and_assoc]

/-- A word that is neither an address nor a logical value is a name. -/
theorem read_word_of_name {name : String} (haddress : isAddress name = false)
    (hlogical : isLogicalWord name = false) :
    Formula.readWord name.toList = .identifier name := by
  obtain ⟨htrue, hfalse⟩ := Bool.or_eq_false_iff.mp hlogical
  unfold Formula.readWord
  rw [String.ofList_toList]
  dsimp only
  rw [htrue, hfalse]
  unfold isAddress at haddress
  cases hparse : Address.parse name with
  | ok address =>
      rw [hparse] at haddress
      cases haddress
  | error refusal => rfl

/-- A name that can be defined is one token. -/
theorem tokens_of_name {name : String} (h : checkName name = .ok ()) :
    tokens name = .ok [.identifier name] := by
  obtain ⟨⟨first, rest, hchars, hfirst, hrest⟩, haddress, hlogical⟩ := check_name_eq_ok_iff.mp h
  have hstart := word_start_of_name_start hfirst
  have hword : ∀ char ∈ name.toList, Formula.isWordChar char = true := by
    rw [hchars]
    exact List.forall_mem_cons.mpr ⟨Formula.word_char_of_start hstart, fun char hchar =>
      word_char_of_name_char (hrest char hchar)⟩
  have htrim : Text.trimChars name.toList = name.toList :=
    Text.trim_chars_eq_self fun char hchar => Formula.not_blank_of_word_char (hword char hchar)
  have hequals : name.toList.head? ≠ some '=' := by
    rw [hchars]
    rintro heq
    obtain rfl := Option.some.inj heq
    exact absurd hstart (by decide)
  have htake := Formula.take_word_of_ends hword Formula.ends_word_nil
  rw [List.append_nil, read_word_of_name haddress hlogical, hchars] at htake
  rw [Formula.tokens_eq_ok_iff, Formula.body_eq_self htrim hequals, hchars]
  have htoken : Formula.takeToken 0 first rest = .ok (.identifier name, []) :=
    htake ▸ Formula.take_token_of_word_start hstart 0 rest
  refine .cons_of_not_blank ?_ htoken (.nil rfl)
  exact Formula.not_blank_of_word_char (Formula.word_char_of_start hstart)

/-- A name that can be defined is an expression by itself. -/
theorem parse_of_name {name : String} (h : checkName name = .ok ()) :
    parse name = .ok (.name none name) :=
  bind_eq_ok_iff.mpr ⟨_, tokens_of_name h, rfl⟩

/-! ## The definition that a name has -/

/-- Whether a definition is that of a name on a sheet: the sheet's own, or the workbook's if the
sheet has none. -/
def Workbook.Defines (book : Workbook) (home : Nat) (name : String) (definition : DefinedName) :
    Prop :=
  book.names.getExact name (.sheet home) = some definition ∨
    book.names.getExact name (.sheet home) = none ∧
      book.names.getExact name .workbook = some definition

/-- A workbook defines a name for a sheet exactly if its table has that definition. -/
theorem Workbook.defines_iff {book : Workbook} {home : Nat} {name : String}
    {definition : DefinedName} :
    book.Defines home name definition ↔ book.names.get name home = some definition := by
  unfold Defines NameTable.get
  cases book.names.getExact name (.sheet home) <;> simp

/-- Spellings with the same lower case have the same definition. -/
theorem NameTable.get_of_lower {left right : String} (h : Text.lower left = Text.lower right)
    (table : NameTable) (home : Nat) : table.get left home = table.get right home := by
  unfold get getExact NameKey.of
  rw [h]

/-- A name without a sheet before it has the definition that it has on the sheet of the formula. -/
theorem Context.definition_of_get (context : Context) {book : Workbook} {name : String}
    {definition : DefinedName} (hbook : context.workbook = some book)
    (hsheet : context.sheet < book.sheetCount)
    (h : book.names.get name context.sheet = some definition) :
    context.definition none name = .ok (some definition) := by
  have hindex : context.sheetIndex none = .ok context.sheet := by
    unfold sheetIndex
    rw [hbook]
    exact if_pos hsheet
  rw [Context.definition, hindex, hbook]
  exact congrArg Except.ok h

namespace Evaluation

open Formula (FormulaError)

variable {context : Context} {inProgress : List NameKey} {definition : DefinedName}

/-- Two results that end a computation in the same way are the same. -/
theorem halting_injective {α : Type} {left right : Except FormulaError α}
    (h : halting left = halting right) : left = right := by
  unfold halting at h
  split at h <;> split at h <;> cases h <;> rfl

/-- A computation comes to one result. -/
theorem Leaves.unique {α : Type} {running : Running α} {left right : Except FormulaError α}
    (hleft : Leaves running inProgress left) (hright : Leaves running inProgress right) :
    left = right := by
  have hsame : (halting left).map (fun found => (found, inProgress)) =
      (halting right).map fun found => (found, inProgress) := hleft.symm.trans hright
  refine halting_injective ?_
  cases hfirst : halting left with
  | error halt =>
      rw [hfirst] at hsame
      exact (except_map_eq_error_iff.mp hsame.symm).symm
  | ok found =>
      rw [hfirst] at hsame
      obtain ⟨other, hother, heq⟩ := except_map_eq_ok_iff.mp hsame.symm
      obtain ⟨rfl, -⟩ := Prod.mk.inj heq
      exact hother.symm

/-- Room beyond that for the definitions that are not in progress does not count. -/
theorem resolve_name_room {room other : Nat} (hroom : (waiting context inProgress).length ≤ room)
    (hother : (waiting context inProgress).length ≤ other) :
    resolveName context room inProgress = resolveName context other inProgress := by
  funext sheet name seed
  exact (leaves_resolve room room hroom hroom sheet name seed).unique
    (leaves_resolve room other hroom hother sheet name seed)

/-- The value that a definition has by itself while some definitions are in progress: its constant,
or what its expression gives with the definition among them. -/
def definitionValue (context : Context) (inProgress : List NameKey) (definition : DefinedName)
    (seed : Seed) : Outcome :=
  match definition.constant with
  | some value => .ok value
  | none =>
    if inProgress.contains definition.key then .error (.circularName definition.name)
    else match definition.parsed with
      | .error _ => .ok (.error .name)
      | .ok tree => evaluateDuring context (definition.key :: inProgress) tree seed

/-- A name has the value of its definition. -/
theorem evaluate_name_eq {sheet : Option String} {name : String}
    (h : context.definition sheet name = .ok (some definition)) (inProgress : List NameKey)
    (seed : Seed) :
    evaluateDuring context inProgress (.name sheet name) seed =
      definitionValue context inProgress definition seed := by
  -- the definition is not in progress before anything is, so there is room for it
  have hpositive := List.length_pos_of_mem (mem_waiting_of_definition h List.not_mem_nil)
  obtain ⟨room, hroom⟩ : ∃ room, roomForNames context = room + 1 :=
    Nat.exists_eq_succ_of_ne_zero fun hnone => by
      have := waiting_length_le context []
      omega
  unfold definitionValue
  rw [evaluateDuring, evaluateWith, hroom, resolveName, nameValue, h]
  dsimp only
  cases definition.constant with
  | some value => rfl
  | none =>
      dsimp only
      split
      · rfl
      · rename_i hfree
        cases definition.parsed with
        | error refusal => rfl
        | ok tree =>
            have hless := waiting_cons_length_lt
              (mem_waiting_of_definition h (by simpa using hfree))
            have hbound := waiting_length_le context inProgress
            show evaluateWith context _ tree seed = evaluateWith context _ tree seed
            rw [resolve_name_room (by omega) (waiting_length_le context _)]

end Evaluation

/-! ## Evaluation and the search for references -/

namespace Dependency

variable {book : Workbook} {name : String} {definition : DefinedName}

/-- A name that no sheet is named before is mentioned on the sheet of the formula. -/
theorem mentions_on_identifier (home : Nat) {rest : List Token} (h : startsCall rest = false) :
    mentionsOn book home (.identifier name :: rest) =
      .name home name :: mentionsOn book home rest := by
  rw [mentionsOn, mentions, h]
  rfl

/-- A name with a definition puts the key of it before those of the other mentions. -/
theorem definitions_in_cons_name {sheet : Nat} (h : book.names.get name sheet = some definition)
    (found : List Mention) :
    definitionsIn book (.name sheet name :: found) =
      definition.key :: definitionsIn book found :=
  List.filterMap_cons_some (by simp [h])

end Dependency

open Dependency (Scanner definitionsIn mentionsOn startsCall)
open Evaluation (evaluateDuring definitionValue)

/-- Every name that can be defined can be used. It is read as one token and as a name without a
sheet. If it is defined on the sheet of a formula, or in the workbook and not on this sheet,
evaluation gives it the value of this definition, and the search for references puts this definition
on its stack, under every spelling that could be defined and has the same lower case. -/
theorem defined_name_resolves (name : String) (h : checkName name = .ok ()) :
    tokens name = .ok [.identifier name] ∧ parse name = .ok (.name none name) ∧
    ∀ (book : Workbook) (home : Nat) (definition : DefinedName),
      book.Defines home name definition →
      ∀ spelling : String, checkName spelling = .ok () → Text.lower spelling = Text.lower name →
        tokens spelling = .ok [.identifier spelling] ∧ parse spelling = .ok (.name none spelling) ∧
        (home < book.sheetCount → ∀ (position : Position) (moment : Moment),
          let context := Context.ofCell book home position moment
          context.definition none spelling = .ok (some definition) ∧
          ∀ inProgress seed, evaluateDuring context inProgress (.name none spelling) seed =
            definitionValue context inProgress definition seed) ∧
        book.names.entries[definition.key]? = some definition ∧
        ∀ rest : List Token, startsCall rest = false →
          let written := mentionsOn book home (.identifier spelling :: rest)
          definitionsIn book written =
            definition.key :: definitionsIn book (mentionsOn book home rest) ∧
          ∀ (identify : NameKey → UInt64) (scanner : Scanner),
            scanner.takeAll book identify written =
              Scanner.takeAll book identify
                { scanner with names := scanner.names.notice .stack identify definition.key }
                (mentionsOn book home rest) := by
  refine ⟨tokens_of_name h, parse_of_name h, ?_⟩
  intro book home definition hdefines spelling hspelling hlower
  have hget : book.names.get spelling home = some definition := by
    rw [NameTable.get_of_lower hlower]
    exact Workbook.defines_iff.mp hdefines
  refine ⟨tokens_of_name hspelling, parse_of_name hspelling, ?_, NameTable.get_key_of_get hget, ?_⟩
  · intro hhome position moment context
    have hdefinition := context.definition_of_get rfl hhome hget
    exact ⟨hdefinition, Evaluation.evaluate_name_eq hdefinition⟩
  · intro rest hrest written
    have hwritten : written = .name home spelling :: mentionsOn book home rest :=
      Dependency.mentions_on_identifier home hrest
    rw [hwritten]
    refine ⟨Dependency.definitions_in_cons_name hget _, fun identify scanner => ?_⟩
    rw [Scanner.takeAll, List.foldl_cons, Scanner.take, hget]
    rfl

/-- A name that begins like an address, defined in the workbook and once more on its second
sheet. -/
theorem defined_name_resolves_in_scopes :
    let shared : DefinedName := ⟨"A1_x", .workbook, "=B1", none⟩
    let own : DefinedName := ⟨"a1_x", .sheet 1, "=C1", none⟩
    let book : Workbook := { Workbook.empty with
      sheets := [.blank "Sheet1", .blank "Sheet2"]
      names := (NameTable.empty.insert shared).insert own }
    tokens "A1_X" = .ok [.identifier "A1_X"] ∧
      (Context.ofCell book 0 ⟨0, 0⟩ default).definition none "A1_X" = .ok (some shared) ∧
      definitionsIn book (mentionsOn book 0 [.identifier "A1_X"]) = [shared.key] ∧
      (Context.ofCell book 1 ⟨0, 0⟩ default).definition none "A1_X" = .ok (some own) ∧
      definitionsIn book (mentionsOn book 1 [.identifier "A1_X"]) = [own.key] := by
  intro shared own book
  have hname : checkName "A1_x" = .ok () := by decide +kernel
  have hspelling : checkName "A1_X" = .ok () := by decide +kernel
  have hlower : Text.lower "A1_X" = Text.lower "A1_x" := by decide +kernel
  have hshared : book.Defines 0 "A1_x" shared := Or.inr (by decide +kernel)
  have hown : book.Defines 1 "A1_x" own := Or.inl (by decide +kernel)
  have hresolves := (defined_name_resolves "A1_x" hname).2.2 book
  obtain ⟨htokens, -, hfirst, -, hscan⟩ := hresolves 0 shared hshared "A1_X" hspelling hlower
  obtain ⟨-, -, hsecond, -, hagain⟩ := hresolves 1 own hown "A1_X" hspelling hlower
  exact ⟨htokens, (hfirst (by decide) _ _).1, (hscan [] rfl).1, (hsecond (by decide) _ _).1,
    (hagain [] rfl).1⟩

end Spreadsheet
