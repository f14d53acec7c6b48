import Spreadsheet.Proofs.Dependency.Coverage

/-!
# Words in formulas

The words of a formula are the names and functions that it mentions. A colon joins addresses and
hides no word, however it is written, so the words that are read off the tokens of a formula are
those of its tree. The main theorem, `mem_words_iff`, says that the same holds of all words that the
formula leads to, if every definition of the workbook can be read.
-/

namespace Spreadsheet.Dependency

open Formula (Token Expr Phrase Derives)

section Words

/-- Whether a mention is one of a name or of a function. -/
def Mention.isWord : Mention → Bool
  | .name .. | .function _ => true
  | .cell .. | .range .. => false

/-- The names and functions among what tokens mention. -/
def words (sheetIndex : String → Option Nat) (home : Nat) (sheet : Option Nat)
    (tokens : List Token) : List Mention :=
  (mentions sheetIndex home sheet tokens).filter Mention.isWord

variable {sheetIndex : String → Option Nat} {home : Nat} {sheet : Option Nat}

/-- A symbol brings no word, and what follows is looked up on the home sheet. -/
theorem words_symbol (sign : Formula.Symbol) (rest : List Token) :
    words sheetIndex home sheet (.symbol sign :: rest) =
      words sheetIndex home (some home) rest := by
  rw [words, mentions_symbol, words]

/-- The name of a sheet brings no word, and says where the next token is looked up. -/
theorem words_sheet (name : String) (rest : List Token) :
    words sheetIndex home sheet (.sheet name :: rest) =
      words sheetIndex home (sheetIndex name) rest := by
  rw [words, mentions_sheet, words]

/-- Mentions that are no words are filtered out, whatever the sheet is. -/
theorem filter_at_sheet {mention : Nat → Mention} (h : ∀ on, (mention on).isWord = false) :
    ((sheet.map mention).toList).filter Mention.isWord = [] := by
  cases sheet <;> simp [h]

/-- Addresses hide no words, whether they are read as the corners of a range or not. -/
theorem words_cell (sheet : Option Nat) (address : Address) (rest : List Token) :
    words sheetIndex home sheet (.cell address :: rest) =
      words sheetIndex home (some home) rest := by
  by_cases hrange : ∃ last after, rest = .symbol .colon :: .cell last :: after
  · obtain ⟨last, after, rfl⟩ := hrange
    rw [words_symbol, words_cell _ last after, words, mentions_direct_range, List.filter_append,
      filter_at_sheet fun _ => rfl]
    rfl
  · rw [words, mentions, List.filter_append, filter_at_sheet fun _ => rfl]
    · rfl
    · exact fun last after heq => hrange ⟨last, after, heq⟩
termination_by rest.length

/-- A word that starts no call is a name, if the sheet exists. -/
theorem words_identifier {word : String} {rest : List Token} (h : startsCall rest = false) :
    words sheetIndex home sheet (.identifier word :: rest) =
      (sheet.map fun on => .name on word).toList ++ words sheetIndex home (some home) rest := by
  cases sheet <;> simp [words, mentions, h, Mention.isWord, List.filter_cons]

/-- A word before a parenthesis is a function. -/
theorem words_call (word : String) (rest : List Token) :
    words sheetIndex home sheet (.identifier word :: .symbol .leftParen :: rest) =
      .function word :: words sheetIndex home (some home) rest := by
  simp [words, mentions, startsCall, Mention.isWord, List.filter_cons]

/-- The tokens of a phrase mention the names and functions that the phrase does, wherever its colons
stand. -/
theorem words_of_derives (sheetIndex : String → Option Nat) (home : Nat) {phrase : Phrase}
    {tokens : List Token} (h : Derives phrase tokens) {suffix : List Token}
    (hsuffix : startsCall suffix = false) :
    (words sheetIndex home (some home) (tokens ++ suffix)).map Mention.upper =
      (phrase.mentions sheetIndex home).filter Mention.isWord ++
        (words sheetIndex home (some home) suffix).map Mention.upper := by
  -- one case for each production; both corners of a range are read like other operands
  induction h generalizing suffix with
  | number | text | logical | error =>
      simp [words, mentions, Phrase.mentions, Expr.mentions]
  | cell address =>
      rw [List.singleton_append, words_cell, Phrase.mentions, Expr.mentions,
        filter_at_sheet fun _ => rfl]
      rfl
  | sheetCell name address =>
      rw [List.cons_append, List.singleton_append, words_sheet, words_cell, Phrase.mentions,
        Expr.mentions, filter_at_sheet fun _ => rfl]
      rfl
  | name word =>
      rw [List.singleton_append, words_identifier hsuffix]
      rfl
  | sheetName name word =>
      rw [List.cons_append, List.singleton_append, words_sheet, words_identifier hsuffix]
      cases hname : sheetIndex name <;>
        simp [Phrase.mentions, Expr.mentions, placeOf, Mention.upper, Mention.isWord, hname,
          List.filter_cons]
  | group _ ih =>
      rw [List.cons_append, words_symbol, List.append_assoc, List.singleton_append, ih rfl,
        words_symbol]
      rfl
  | emptyCall word =>
      rw [List.cons_append, List.cons_append, List.singleton_append, words_call, words_symbol]
      rfl
  | call word _ ih =>
      rw [List.cons_append, List.cons_append, words_call, List.map_cons, ih hsuffix]
      rfl
  | array _ ih =>
      rw [List.cons_append, words_symbol, ih hsuffix]
      rfl
  | primary _ ih => exact ih hsuffix
  | range _ _ _ ihLeft ihRight =>
      rw [List.append_assoc, List.cons_append, ihLeft rfl, words_symbol, ihRight hsuffix]
      simp only [Phrase.mentions, Expr.mentions]
      rw [filter_at_sheet fun _ => rfl, filter_at_sheet fun _ => rfl, filter_at_sheet fun _ => rfl]
      rfl
  | percent _ ih =>
      rw [List.append_assoc, List.singleton_append, ih rfl, words_symbol]
      rfl
  | negate _ ih =>
      rw [List.cons_append, words_symbol, ih hsuffix]
      rfl
  | plus _ ih => rw [List.cons_append, words_symbol, ih hsuffix]
  | binary hsign _ _ ihLeft ihRight =>
      rw [List.append_assoc, List.cons_append, ihLeft (starts_call_of_closed (.symbol hsign.closed)),
        words_symbol, ihRight hsuffix, ← List.append_assoc, ← List.filter_append]
      rfl
  | lastOperand _ ih =>
      rw [List.append_assoc, List.singleton_append, ih rfl, words_symbol]
      simp [Phrase.mentions, Expr.mentionsAll]
  | operand _ _ ih ihRest =>
      rw [List.append_assoc, List.cons_append, ih rfl, words_symbol, ihRest hsuffix,
        ← List.append_assoc, ← List.filter_append]
      rfl
  | lastItem _ ih =>
      rw [List.append_assoc, List.singleton_append, ih rfl, words_symbol]
      simp [Phrase.mentions, Expr.mentionsAll, Expr.mentionsRows]
  | item _ _ ih ihRest =>
      rw [List.append_assoc, List.cons_append, ih rfl, words_symbol, ihRest hsuffix]
      simp [Phrase.mentions, Expr.mentions_rows_cons_item]
  | rowEnd _ _ ih ihRest =>
      rw [List.append_assoc, List.cons_append, ih rfl, words_symbol, ihRest hsuffix]
      simp [Phrase.mentions, Expr.mentionsAll, Expr.mentionsRows]

end Words

section Leading

variable {book : Workbook} {home : Nat}

/-- Upper case makes no word of what is none. -/
@[simp] theorem is_word_upper (mention : Mention) : mention.upper.isWord = mention.isWord := by
  cases mention <;> rfl

/-- Of words it does not matter whether they are filtered out before or after they are put in upper
case. -/
theorem mem_upper_filter_iff {found : List Mention} {mention : Mention}
    (hword : mention.isWord = true) :
    mention ∈ (found.filter Mention.isWord).map Mention.upper ↔
      mention ∈ found.map Mention.upper := by
  simp only [List.mem_map, List.mem_filter]
  constructor
  · rintro ⟨written, ⟨hwritten, -⟩, rfl⟩
    exact ⟨written, hwritten, rfl⟩
  · rintro ⟨written, hwritten, rfl⟩
    exact ⟨written, ⟨hwritten, (is_word_upper written).symm.trans hword⟩, rfl⟩

/-- The tokens of a formula mention a word exactly if its tree does. -/
theorem mem_mentions_iff {tokens : List Token} {tree : Expr}
    (hparse : Formula.parseTokens tokens = .ok tree) {mention : Mention}
    (hword : mention.isWord = true) :
    mention ∈ (mentionsOn book home tokens).map Mention.upper ↔
      mention ∈ tree.mentions book.sheetIndex home := by
  have hnone : startsCall [] = false := rfl
  have hwords := words_of_derives book.sheetIndex home (Formula.derives_of_parse hparse) hnone
  rw [List.append_nil] at hwords
  rw [← mem_upper_filter_iff hword]
  show mention ∈ (words book.sheetIndex home (some home) tokens).map Mention.upper ↔ _
  rw [hwords]
  simp [words, mentions, Phrase.mentions, hword]

/-- Whether every definition of a workbook can be read. -/
def Readable (book : Workbook) : Prop :=
  ∀ (key : NameKey) (definition : DefinedName), book.names.entries[key]? = some definition →
    ∃ tree, definition.parsed = .ok tree

/-- A new workbook is readable. -/
theorem readable_new : Readable .new := by
  intro key definition hentry
  cases hentry

/-- A definition that can be read may be stored. -/
theorem Readable.insert (h : Readable book) {definition : DefinedName}
    (hparsed : definition.parsed.toOption.isSome = true) :
    Readable { book with names := book.names.insert definition } := by
  intro key other hentry
  rw [NameTable.insert, Std.ExtTreeMap.getElem?_insert] at hentry
  split at hentry
  · obtain rfl := Option.some.inj hentry
    obtain ⟨tree, htree⟩ := Option.isSome_iff_exists.mp hparsed
    exact ⟨tree, to_option_eq_some_iff.mp htree⟩
  · exact h key other hentry

/-- A tree that leads to a name leads to what the definition of the name mentions. -/
theorem leads_to_next {tree inner : Expr} {sheet : Nat} {name : String} {definition : DefinedName}
    {mention : Mention} (h : tree.LeadsTo book home (.name sheet name))
    (hdefinition : book.names.get name sheet = some definition)
    (hparsed : definition.parsed = .ok inner)
    (hmention : mention ∈ inner.mentions book.sheetIndex home) : tree.LeadsTo book home mention := by
  obtain ⟨first, hfirst, hleads⟩ := h
  exact ⟨first, hfirst, hleads.tail ⟨sheet, name, definition, inner, rfl, hdefinition, hparsed,
    hmention⟩⟩

/-- Whether a tree leads to a name that stands for a definition. -/
def LeadsToDefinition (book : Workbook) (home : Nat) (tree : Expr) (key : NameKey) : Prop :=
  ∃ sheet name definition, tree.LeadsTo book home (.name sheet name) ∧
    book.names.get name sheet = some definition ∧ definition.key = key

variable {tokens : List Token} {tree : Expr}

/-- What a definition mentions, the tree leads to that leads to the definition. -/
theorem leads_to_of_mem_definition (hreadable : Readable book) {key : NameKey}
    (h : LeadsToDefinition book home tree key) {mention : Mention} (hword : mention.isWord = true)
    (hmention : mention ∈ (mentionsOf book home key).map Mention.upper) :
    tree.LeadsTo book home mention := by
  obtain ⟨sheet, name, definition, hleads, hdefinition, rfl⟩ := h
  have hentry := NameTable.get_key_of_get hdefinition
  obtain ⟨inner, hparsed⟩ := hreadable _ definition hentry
  obtain ⟨written, -, hread, hmentions⟩ := mentions_of_parsed hentry hparsed
  rw [hmentions, mem_mentions_iff hread hword] at hmention
  exact leads_to_next hleads hdefinition hparsed hmention

/-- Every word among the tokens of a formula is one that its tree leads to. -/
theorem leads_to_of_mem_tokens (hparse : Formula.parseTokens tokens = .ok tree) {mention : Mention}
    (hword : mention.isWord = true)
    (hmention : mention ∈ (mentionsOn book home tokens).map Mention.upper) :
    tree.LeadsTo book home mention :=
  ⟨mention, (mem_mentions_iff hparse hword).mp hmention, .refl⟩

/-- A name that is led to leads to its definition. -/
theorem leads_to_definition_of_mem {found : List Mention} {key : NameKey}
    (hfound : ∀ mention ∈ found.map Mention.upper, mention.isWord = true →
      tree.LeadsTo book home mention)
    (hkey : key ∈ definitionsIn book found) : LeadsToDefinition book home tree key := by
  obtain ⟨sheet, name, definition, hname, hdefinition, rfl⟩ := mem_definitions_in_iff.mp hkey
  exact ⟨sheet, name, definition, hfound _ (List.mem_map.mpr ⟨_, hname, rfl⟩) rfl, hdefinition, rfl⟩

/-- No word that a tree leads to is missed. -/
theorem mem_all_of_word (hparse : Formula.parseTokens tokens = .ok tree) {mention : Mention}
    (hword : mention.isWord = true) (h : tree.LeadsTo book home mention) :
    mention ∈ (allMentions book home tokens).map Mention.upper := by
  refine mem_all_of_finds (fun mention => mention.isWord = true) (fun _ _ => rfl)
    (fun other hother hkept => ?_)
    (fun key _ definition inner hentry hparsed other hother hkept => ?_) h hword
  · exact (mem_mentions_iff hparse hkept).mpr hother
  · obtain ⟨written, -, hread, hmentions⟩ := mentions_of_parsed hentry hparsed
    rw [hmentions]
    exact (mem_mentions_iff hread hkept).mpr hother

/-- The definitions found are those of the names that the tree leads to. -/
theorem mem_definitions_reached_iff_leads (hparse : Formula.parseTokens tokens = .ok tree)
    (hreadable : Readable book) {key : NameKey} :
    key ∈ definitionsReached book home (mentionsOn book home tokens) ↔
      LeadsToDefinition book home tree key := by
  constructor
  · intro hkey
    obtain ⟨root, hroot, hreach⟩ := mem_definitions_reached_iff.mp hkey
    induction hreach with
    | refl =>
        exact leads_to_definition_of_mem (fun _ hmention hword =>
          leads_to_of_mem_tokens hparse hword hmention) hroot
    | tail hbefore hnext ih =>
        have hleads := ih (mem_definitions_reached_iff.mpr ⟨root, hroot, hbefore⟩)
        exact leads_to_definition_of_mem (fun _ hmention hword =>
          leads_to_of_mem_definition hreadable hleads hword hmention) hnext
  · rintro ⟨sheet, name, definition, hleads, hdefinition, rfl⟩
    obtain ⟨found, hfound, hupper⟩ := List.mem_map.mp (mem_all_of_word hparse rfl hleads)
    obtain rfl := upper_eq_name hupper
    exact mentions_of_mem_all hfound hdefinition

/-- A word is among all that the tokens of a formula mention, themselves and by the definitions that
they lead to, exactly if its tree leads to it. -/
theorem mem_words_iff (hparse : Formula.parseTokens tokens = .ok tree) (hreadable : Readable book)
    {mention : Mention} (hword : mention.isWord = true) :
    mention ∈ (allMentions book home tokens).map Mention.upper ↔ tree.LeadsTo book home mention := by
  constructor
  · intro hmention
    rw [allMentions, List.map_append, List.mem_append] at hmention
    rcases hmention with hwritten | hdefined
    · exact leads_to_of_mem_tokens hparse hword hwritten
    · rw [List.map_flatMap] at hdefined
      obtain ⟨key, hkey, hmention⟩ := List.mem_flatMap.mp hdefined
      have hleads := (mem_definitions_reached_iff_leads hparse hreadable).mp hkey
      exact leads_to_of_mem_definition hreadable hleads hword hmention
  · exact mem_all_of_word hparse hword

end Leading

end Spreadsheet.Dependency
