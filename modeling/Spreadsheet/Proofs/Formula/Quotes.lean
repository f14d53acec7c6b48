import Spreadsheet.Evaluation.Evaluate
import Spreadsheet.Evaluation.WrittenRange
import Spreadsheet.Proofs.Address.Corners
import Spreadsheet.Proofs.Formula.Tokens

/-!
# Quoted texts and quoted sheet names

A text stands between quotes and a sheet name between apostrophes, with each of these inside it
written twice. Two readers take a sheet name off a reference: formulas read from the left up to the
closing apostrophe, and a range that is named from outside a formula is cut at its last exclamation
mark. The main theorem, `quoted_names_resolve_alike`, says that both get back the name that was
written, whatever it holds, and the reference after it, so that both look at the same sheet.
-/

namespace Spreadsheet

/-! ## Addresses as words -/

namespace Address

open Formula (isWordStart isWordChar)

variable {letters digits chars : List Char} {address : Address}

/-- An address is spelled with characters of words. -/
theorem Spells.word_chars (h : Spells letters digits chars address) :
    ∀ char ∈ chars, isWordChar char = true := by
  have hmark : ∀ fixed, ∀ char ∈ mark fixed, isWordChar char = true := fun _ char hchar =>
    eq_dollar_of_mem_mark hchar ▸ by decide
  rw [h.chars_eq]
  simp only [List.forall_mem_append]
  exact ⟨⟨hmark _, fun letter hletter =>
      Formula.word_char_of_start (Formula.word_start_of_letter (h.are_letters letter hletter))⟩,
    hmark _, fun digit hdigit => Formula.word_char_of_digit (h.are_digits digit hdigit)⟩

/-- An address begins with a mark or with a letter. -/
theorem Spells.word_start (h : Spells letters digits chars address) :
    ∃ first rest, chars = first :: rest ∧ isWordStart first = true := by
  rw [h.chars_eq]
  cases address.fixedColumn with
  | true => exact ⟨'$', _, rfl, by decide⟩
  | false =>
      cases letters with
      | nil => exact absurd h.letter_count.1 (by decide)
      | cons letter rest =>
          exact ⟨letter, _, rfl,
            Formula.word_start_of_letter (h.are_letters letter List.mem_cons_self)⟩

/-- Digits stay as they are in lower case, and key words hold none. -/
theorem not_key_word_of_digit {word : String} {keyWord : String} {digit : Char}
    (hmem : digit ∈ word.toList) (hdigit : digit.isDigit = true)
    (hkeyWord : (keyWord.toList.any fun char => char.toLower.isDigit) = false) :
    Text.eqIgnoringAsciiCase word keyWord = false := by
  refine Bool.eq_false_iff.mpr fun heq => ?_
  have hlower : digit.toLower.isDigit = true :=
    Text.forall_ascii (fun char => char.isDigit = true → char.toLower.isDigit = true)
      (Text.ascii_of_digit hdigit) (by decide) hdigit
  have hfound : digit.toLower ∈ keyWord.toList.map Char.toLower :=
    eq_of_beq heq ▸ List.mem_map.mpr ⟨digit, hmem, rfl⟩
  obtain ⟨char, hchar, hsame⟩ := List.mem_map.mp hfound
  exact List.any_eq_false.mp hkeyWord char hchar (hsame ▸ hlower)

/-- The word that spells an address is read as that address. -/
theorem Spells.read_word (h : Spells letters digits chars address) :
    Formula.readWord chars = .cell address := by
  -- the digits of the row tell the word apart from the key words
  obtain ⟨digit, hdigit⟩ : ∃ digit, digit ∈ digits := by
    refine List.exists_mem_of_ne_nil _ fun hnone => ?_
    have hrow := h.row
    rw [hnone] at hrow
    cases hrow
  have hmem : digit ∈ (String.ofList chars).toList := by
    rw [String.toList_ofList, h.chars_eq]
    exact List.mem_append_right _ (List.mem_append_right _ hdigit)
  have hparse : parse (String.ofList chars) = .ok address := by
    rw [parse, String.toList_ofList, Text.trim_chars_eq_self h.not_blank]
    exact h.of_chars
  unfold Formula.readWord
  dsimp only
  rw [not_key_word_of_digit hmem (h.are_digits digit hdigit) (by decide),
    not_key_word_of_digit hmem (h.are_digits digit hdigit) (by decide), hparse]
  rfl

end Address

namespace Formula

variable {chars rest : List Char} {others : List Token} {address : Address}

/-- A text that is an address is one token, if the word ends there. -/
theorem tokenized_address (h : Address.parse (String.ofList chars) = .ok address)
    (hends : EndsWord rest) (hrest : Tokenized rest others) :
    Tokenized (chars ++ rest) (.cell address :: others) := by
  -- an address may have blanks around it, the word is what stands between them
  obtain ⟨before, after, hchars, hbefore, hafter⟩ := Text.exists_blanks_around chars
  obtain ⟨letters, digits, hspells⟩ := Address.of_chars_eq_ok_iff.mp h
  rw [String.toList_ofList] at hspells
  obtain ⟨first, others, hfirst, hstart⟩ := hspells.word_start
  have hword : takeWord (first :: (others ++ (after ++ rest))) =
      (.cell address, after ++ rest) := by
    rw [← List.cons_append, ← hfirst, ← hspells.read_word]
    exact take_word_of_ends hspells.word_chars (hends.after_blanks hafter)
  have hbegin : Text.trimStart (chars ++ rest) = first :: (others ++ (after ++ rest)) := by
    rw [hchars, List.append_assoc, List.append_assoc, Text.trim_start_append hbefore, hfirst]
    exact Text.trim_start_cons (not_blank_of_word_char (word_char_of_start hstart)) _
  have htoken : takeToken 0 first (others ++ (after ++ rest)) =
      .ok (.cell address, after ++ rest) :=
    hword ▸ take_token_of_word_start hstart 0 _
  refine .cons hbegin htoken ?_
  rw [← tokenized_trim_start_iff, Text.trim_start_append hafter, tokenized_trim_start_iff]
  exact hrest

/-- An address before a colon is one token, and so is the colon. -/
theorem tokenized_before_colon (h : Address.parse (String.ofList chars) = .ok address)
    (hrest : Tokenized rest others) :
    Tokenized (chars ++ ':' :: rest) (.cell address :: .symbol .colon :: others) := by
  have htoken : takeToken 0 ':' rest = .ok (.symbol .colon, rest) := rfl
  exact tokenized_address h (ends_word_cons (by decide) _)
    (.cons_of_not_blank (by decide) htoken hrest)

/-- Whether an expression is a reference to a range on a named sheet: a lone cell or a range. -/
inductive Refers (sheet : String) : CellRange → Expr → Prop where
  | cell (address : Address) : Refers sheet (.single address) (.cell (some sheet) address)
  | range (range : CellRange) : Refers sheet range (.range (some sheet) range)

/-- A text that is a range is split into tokens that, after the name of a sheet, are read as that
range on the sheet. -/
theorem tokenized_of_names {range : CellRange} (h : CellRange.Names chars range) :
    ∃ found, Tokenized chars found ∧ ∀ sheet, ∃ tree,
      parseTokens (.sheet sheet :: found) = .ok tree ∧ Refers sheet range tree := by
  cases h with
  | single haddress =>
      have hword := tokenized_address haddress ends_word_nil (.nil rfl)
      rw [List.append_nil] at hword
      exact ⟨_, hword, fun sheet => ⟨_, rfl, .cell _⟩⟩
  | @corners left right first last _ hleft hright =>
      have hlast := tokenized_address hright ends_word_nil (.nil rfl)
      rw [List.append_nil] at hlast
      exact ⟨_, tokenized_before_colon hleft hlast, fun sheet => ⟨_, rfl, .range _⟩⟩

end Formula

/-- There is nothing in a range but its addresses, blanks and a colon. -/
theorem CellRange.Names.not_mem {chars : List Char} {range : CellRange} (h : Names chars range)
    {char : Char} (hmark : char ≠ '$') (hcolon : char ≠ ':') (hletter : char.isAlpha = false)
    (hdigit : char.isDigit = false) (hblank : Text.isBlank char = false) : char ∉ chars := by
  have haddress : ∀ {part address}, Address.parse (String.ofList part) = .ok address →
      char ∉ part := fun hpart => by
    simpa using Address.not_mem_of_parse hpart hmark hletter hdigit hblank
  cases h with
  | single hpart => exact haddress hpart
  | corners _ hleft hright =>
      rw [List.mem_append, List.mem_cons, not_or, not_or]
      exact ⟨haddress hleft, hcolon, haddress hright⟩

/-! ## Sheet names between apostrophes -/

/-- A text between quotes, with each quote inside it written twice. -/
def Text.enclosed (quote : Char) (content : String) : String :=
  String.ofList (quote :: (SheetQualifier.double quote content.toList ++ [quote]))

/-- A reference after the quoted name of its sheet. -/
def SheetQualifier.qualified (name reference : String) : String :=
  Text.enclosed '\'' name ++ "!" ++ reference

namespace SheetQualifier

open Text (trimChars isBlank)

variable {name reference : String} {before rest : List Char}

/-- A qualified reference is the name in quotes, an exclamation mark and the reference. -/
theorem qualified_chars (name reference : String) : (qualified name reference).toList =
    '\'' :: (double '\'' name.toList ++ '\'' :: '!' :: reference.toList) := by
  simp [qualified, Text.enclosed]

/-- A text is divided at its last exclamation mark. -/
theorem split_last_mark_append (h : '!' ∉ rest) :
    splitLastMark (before ++ '!' :: rest) = some (before, rest) := by
  have hrest : ∀ char ∈ rest.reverse, (char != '!') = true := fun char hchar => by
    simpa using ne_of_mem_of_not_mem (List.mem_reverse.mp hchar) h
  have hreverse : (before ++ '!' :: rest).reverse = rest.reverse ++ '!' :: before.reverse := by
    simp
  have hafter : (before ++ '!' :: rest).reverse.takeWhile (· != '!') = rest.reverse := by
    rw [hreverse, List.takeWhile_append_of_pos hrest]
    exact List.append_nil _
  have hfrom : (before ++ '!' :: rest).reverse.dropWhile (· != '!') = '!' :: before.reverse := by
    rw [hreverse, List.dropWhile_append_of_pos hrest]
    rfl
  unfold splitLastMark
  simp only [hafter, hfrom, List.reverse_reverse]

/-- A name loses its apostrophes, and those that were written twice inside it are single again. -/
theorem unquote_double (content : List Char) :
    unquote ('\'' :: (double '\'' content ++ ['\''])) = content := by
  simp only [unquote, List.getLast?_concat, if_true, List.dropLast_concat]
  exact Text.undouble_double '\'' content

/-- There are no blanks around the quoted name of a sheet and a reference that does not end with
one. -/
theorem trim_qualified (h : trimChars reference.toList = reference.toList) :
    trimChars (qualified name reference).toList = (qualified name reference).toList := by
  have hlast : ∀ last ∈ reference.toList.getLast?, isBlank last = false :=
    h ▸ Text.last_of_trim_end
  have hchars : (qualified name reference).toList =
      '\'' :: (double '\'' name.toList ++ ['\'']) ++ ['!'] ++ reference.toList := by
    simp [qualified_chars]
  rw [hchars]
  refine Text.trim_chars_of_ends (fun first hfirst => ?_) fun last hend => ?_
  · obtain rfl := Option.some.inj hfirst
    decide
  · rw [Option.mem_def, List.getLast?_append, List.getLast?_concat] at hend
    rcases Option.or_eq_some_iff.mp hend with hreference | ⟨-, hmark⟩
    · exact hlast last hreference
    · obtain rfl := Option.some.inj hmark
      decide

/-- A qualified reference is divided into the name, with its quotes undoubled, and the reference. -/
theorem split_qualified (h : trimChars reference.toList = reference.toList)
    (hmark : '!' ∉ reference.toList) :
    split (qualified name reference) = (some name, reference) := by
  have hchars : (qualified name reference).toList =
      '\'' :: (double '\'' name.toList ++ ['\'']) ++ '!' :: reference.toList := by
    simp [qualified_chars]
  unfold split
  dsimp only
  rw [trim_qualified h, hchars, split_last_mark_append hmark]
  dsimp only
  rw [unquote_double, String.ofList_toList, String.ofList_toList]

end SheetQualifier

namespace Formula

open Text (enclosed)
open SheetQualifier (qualified)
open Evaluation (directRange evaluate)

/-- A text between quotes is one token, which holds the text as it was before its quotes were
written twice. -/
theorem tokens_enclosed (content : String) :
    tokens ("=" ++ enclosed '"' content) = .ok [.text content] := by
  have hchars : ("=" ++ enclosed '"' content) =
      String.ofList ('=' :: (enclosed '"' content).toList) := by
    apply String.toList_injective
    simp
  have htoken : takeToken 0 '"' (SheetQualifier.double '"' content.toList ++ ['"']) =
      .ok (.text content, []) := by
    rw [take_token_text, takeText, take_quoted_double '"' content.toList (by simp)]
    simp
  have hend : ∀ last ∈ (enclosed '"' content).toList.getLast?, Text.isBlank last = false := by
    intro last hlast
    rw [enclosed, String.toList_ofList, ← List.cons_append, List.getLast?_concat] at hlast
    obtain rfl := Option.some.inj hlast
    decide
  rw [hchars, tokens_eq_ok_iff, body_equals, Text.trim_end_eq_self hend, enclosed,
    String.toList_ofList]
  exact .cons_of_not_blank (by decide) htoken (.nil rfl)

/-- The quoted name of a sheet is one token, whatever follows its exclamation mark. -/
theorem tokenized_qualified {name reference : String} {found : List Token}
    (h : Tokenized reference.toList found) :
    Tokenized (qualified name reference).toList (.sheet name :: found) := by
  have htoken : takeToken 0 '\''
      (SheetQualifier.double '\'' name.toList ++ '\'' :: '!' :: reference.toList) =
      .ok (.sheet name, reference.toList) := by
    rw [take_token_quoted_sheet, takeQuotedSheet, take_quoted_double '\'' name.toList (by simp)]
    simp
  rw [SheetQualifier.qualified_chars]
  exact .cons_of_not_blank (by decide) htoken h

/-- What a reference shows by itself: the values of its range, or the value of a lone cell. -/
def Shows (context : Context) (address : SheetRange) (value : Value) : Prop :=
  value = context.rangeValues address ∨
    address.range = .single address.range.first ∧
      value = context.shown address.sheet address.range.first.position

section Resolution

variable {sheet : String} {range : CellRange} {tree : Expr} {context : Context} {index : Nat}
  {fault : ErrorValue}

/-- An expression that refers to a range of a named sheet stands for that range if
the sheet exists. -/
theorem Refers.direct_range_eq (h : Refers sheet range tree) (context : Context) :
    directRange context tree =
      some ((context.sheetIndex (some sheet)).map fun index => ⟨index, range⟩) := by
  cases h <;> rfl

/-- A range on a named sheet gives the values of its cells. -/
theorem evaluate_range (hindex : context.sheetIndex (some sheet) = .ok index) (range : CellRange)
    (seed : Seed) :
    evaluate context (.range (some sheet) range) seed =
      .ok (context.rangeValues ⟨index, range⟩) := by
  rw [evaluate, Evaluation.evaluateDuring, Evaluation.evaluateWith, Context.rangeAddress, hindex]
  rfl

/-- Where the sheet exists, such an expression is worth what the range shows. -/
theorem Refers.resolved (h : Refers sheet range tree)
    (hindex : context.sheetIndex (some sheet) = .ok index) :
    directRange context tree = some (.ok ⟨index, range⟩) ∧
      ∀ seed, ∃ value, evaluate context tree seed = .ok value ∧
        Shows context ⟨index, range⟩ value := by
  refine ⟨by rw [h.direct_range_eq, hindex]; rfl, fun seed => ?_⟩
  cases h with
  | cell address =>
      refine ⟨_, rfl, .inr ⟨rfl, ?_⟩⟩
      rw [Context.cellValue, hindex]
      rfl
  | range range => exact ⟨_, evaluate_range hindex range seed, .inl rfl⟩

/-- Where the sheet does not exist, such an expression is worth the failure to find it. -/
theorem Refers.refused (h : Refers sheet range tree)
    (hindex : context.sheetIndex (some sheet) = .error fault) :
    directRange context tree = some (.error fault) ∧
      ∀ seed, evaluate context tree seed = .ok (.error fault) := by
  refine ⟨by rw [h.direct_range_eq, hindex]; rfl, fun seed => ?_⟩
  cases h with
  | cell address =>
      rw [evaluate, Evaluation.evaluateDuring, Evaluation.evaluateWith, Context.cellValue, hindex]
  | range range =>
      rw [evaluate, Evaluation.evaluateDuring, Evaluation.evaluateWith, Context.rangeAddress, hindex]
      rfl

/-- A written range is resolved on the sheet that it names, or refused because the
sheet is unknown. -/
theorem resolve_range_eq {name reference written : String} (book : Workbook) (home : Nat)
    (hsplit : SheetQualifier.split written = (some name, reference))
    (hparse : CellRange.parse reference = .ok range) :
    book.resolveRange home written =
      (book.sheetIndex name).elim (.error (.invalidReference (.unknownSheet name)))
        fun index => .ok ⟨index, range⟩ := by
  unfold Workbook.resolveRange
  rw [hsplit]
  cases hindex : book.sheetIndex name with
  | none => simp [hindex, bind, Except.bind]
  | some index =>
      obtain ⟨hlt, -⟩ := List.findIdx?_eq_some_iff_getElem.mp hindex
      simp [hindex, hparse, bind, Except.bind, Except.mapError, Workbook.sheetCount, hlt, pure,
        Except.pure]

/-- A reference on a sheet by name is looked up on the sheet that the workbook has under that name, if
there is one. -/
theorem Refers.looked_up {name : String} (h : Refers name range tree) (book : Workbook) (home : Nat)
    (position : Position) (moment : Moment) :
    let context := Context.ofCell book home position moment
    (∀ index, book.sheetIndex name = some index →
      directRange context tree = some (.ok ⟨index, range⟩) ∧
      ∀ seed, ∃ value, evaluate context tree seed = .ok value ∧
        Shows context ⟨index, range⟩ value) ∧
    (book.sheetIndex name = none →
      directRange context tree = some (.error .reference) ∧
      ∀ seed, evaluate context tree seed = .ok (.error .reference)) := by
  intro context
  have hsheet : context.sheetIndex (some name) =
      (book.sheetIndex name).elim (.error .reference) .ok := rfl
  refine ⟨fun index hindex => ?_, fun hnone => ?_⟩
  · rw [hindex] at hsheet
    exact h.resolved hsheet
  · rw [hnone] at hsheet
    exact h.refused hsheet

end Resolution

/-- A reference has its tokens by itself, and after the quoted name of a sheet as well. -/
theorem tokens_of_reference {reference : String} {found : List Token}
    (htrim : Text.trimChars reference.toList = reference.toList)
    (hequals : '=' ∉ reference.toList) (h : Tokenized reference.toList found) (name : String) :
    tokens reference = .ok found ∧ tokens (qualified name reference) = .ok (.sheet name :: found) := by
  constructor
  · rw [tokens_eq_ok_iff, body_eq_self htrim fun hhead => hequals (List.mem_of_head? hhead)]
    exact h
  · rw [tokens_eq_ok_iff, body_eq_self (SheetQualifier.trim_qualified htrim)]
    · exact tokenized_qualified h
    · rw [SheetQualifier.qualified_chars]
      exact fun hhead => absurd (Option.some.inj hhead) (by decide)

/-- Text between quotes and sheet names between apostrophes are read as they were before these were
written twice. A reference after a quoted sheet name is split by formulas and by ranges that are
named from outside into the same name and the same reference, and both resolve it on the sheet that
the workbook has under that name. -/
theorem quoted_names_resolve_alike :
    (∀ content : String, tokens ("=" ++ enclosed '"' content) = .ok [.text content]) ∧
      ∀ (name reference : String) (range : CellRange), CellRange.parse reference = .ok range →
        Text.trim reference = reference →
        let written := enclosed '\'' name ++ "!" ++ reference
        (∃ found, tokens reference = .ok found ∧ tokens written = .ok (.sheet name :: found)) ∧
        SheetQualifier.split written = (some name, reference) ∧
        ∃ tree, parse written = .ok tree ∧
          ∀ (book : Workbook) (home : Nat) (position : Position) (moment : Moment),
            let context := Context.ofCell book home position moment
            (∀ index, book.sheetIndex name = some index →
              book.resolveRange home written = .ok ⟨index, range⟩ ∧
              directRange context tree = some (.ok ⟨index, range⟩) ∧
              ∀ seed, ∃ value, evaluate context tree seed = .ok value ∧
                Shows context ⟨index, range⟩ value) ∧
            (book.sheetIndex name = none →
              book.resolveRange home written =
                .error (.invalidReference (.unknownSheet name)) ∧
              directRange context tree = some (.error .reference) ∧
              ∀ seed, evaluate context tree seed = .ok (.error .reference)) := by
  refine ⟨tokens_enclosed, ?_⟩
  intro name reference range hparse htrim written
  have hchars : Text.trimChars reference.toList = reference.toList := by
    rw [← String.toList_ofList (l := Text.trimChars reference.toList)]
    exact congrArg String.toList htrim
  have hnames : CellRange.Names reference.toList range := by
    rw [CellRange.parse, hchars] at hparse
    exact CellRange.of_chars_eq_ok_iff.mp hparse
  -- the last exclamation mark is the one after the name, as references hold none
  have hmark : '!' ∉ reference.toList :=
    hnames.not_mem (by decide) (by decide) (by decide) (by decide) (by decide)
  have hequals : '=' ∉ reference.toList :=
    hnames.not_mem (by decide) (by decide) (by decide) (by decide) (by decide)
  obtain ⟨found, hfound, htree⟩ := tokenized_of_names hnames
  obtain ⟨tree, hread, hrefers⟩ := htree name
  obtain ⟨hreference, hwritten⟩ := tokens_of_reference hchars hequals hfound name
  have hsplit : SheetQualifier.split written = (some name, reference) :=
    SheetQualifier.split_qualified hchars hmark
  refine ⟨⟨found, hreference, hwritten⟩, hsplit, tree, ?_, ?_⟩
  · exact bind_eq_ok_iff.mpr ⟨_, hwritten, hread⟩
  · intro book home position moment context
    obtain ⟨hthere, hmissing⟩ := hrefers.looked_up book home position moment
    have hresolve := resolve_range_eq book home hsplit hparse
    refine ⟨fun index hindex => ?_, fun hnone => ?_⟩
    · rw [hindex] at hresolve
      exact ⟨hresolve, hthere index hindex⟩
    · rw [hnone] at hresolve
      exact ⟨hresolve, hmissing hnone⟩

/-- A name with an apostrophe, a blank and an exclamation mark, before a range with marks and blanks
inside it. -/
theorem quoted_names_resolve_alike_with_marks :
    let book : Workbook := { Workbook.new with sheets := [.blank "Sheet1", .blank "It's 5!"] }
    let range := CellRange.ofCorners ⟨0, 0, false, true⟩ ⟨1, 1, true, false⟩
    CellRange.parse "$a1 : B$2" = .ok range ∧ Text.trim "$a1 : B$2" = "$a1 : B$2" ∧
      SheetQualifier.split "'It''s 5!'!$a1 : B$2" = (some "It's 5!", "$a1 : B$2") ∧
      book.resolveRange 0 "'It''s 5!'!$a1 : B$2" = .ok ⟨1, range⟩ := by
  intro book range
  have hparse : CellRange.parse "$a1 : B$2" = .ok range := by decide +kernel
  have htrim : Text.trim "$a1 : B$2" = "$a1 : B$2" := by decide +kernel
  have hindex : book.sheetIndex "It's 5!" = some 1 := by decide +kernel
  have hwritten : enclosed '\'' "It's 5!" ++ "!" ++ "$a1 : B$2" = "'It''s 5!'!$a1 : B$2" := by
    decide +kernel
  obtain ⟨-, hsplit, _, -, hresolve⟩ := quoted_names_resolve_alike.2 "It's 5!" _ range hparse htrim
  rw [hwritten] at hsplit hresolve
  exact ⟨hparse, htrim, hsplit, ((hresolve book 0 ⟨0, 0⟩ default).1 1 hindex).1⟩

end Formula

end Spreadsheet
