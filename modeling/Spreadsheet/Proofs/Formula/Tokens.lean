import Mathlib.Tactic.SplitIfs
import Spreadsheet.Formula.Lexer
import Spreadsheet.Proofs.Address.Numerals
import Spreadsheet.Proofs.Results
import Spreadsheet.Proofs.Text.Blanks
import Spreadsheet.Proofs.Text.Delimiters

/-!
# Splitting a formula into tokens

`Tokenized` says which tokens characters are split into: one token after the other is taken off
them, and blanks before a token do not count. Every token takes characters off
(`take_token_suffix`), so there is always room for the next one, and the main theorem,
`tokens_eq_ok_iff`, says that the tokens of a formula are those that its body is split into.
-/

namespace Spreadsheet.Formula

/-! ## Classes of characters -/

section Classes

variable {char : Char}

/-- A character that may start a word may stand in one. -/
theorem word_char_of_start (h : isWordStart char = true) : isWordChar char = true := by
  simp only [isWordStart, Bool.or_eq_true] at h
  simp only [isWordChar, Bool.or_eq_true]
  tauto

/-- A letter may start a word. -/
theorem word_start_of_letter (h : char.isAlpha = true) : isWordStart char = true := by
  simp [isWordStart, Text.isLetter, Text.ascii_of_letter h, h]

/-- A digit may stand in a word. -/
theorem word_char_of_digit (h : char.isDigit = true) : isWordChar char = true := by
  simp [isWordChar, Text.isNumeral, Text.ascii_of_digit h, h]

/-- A digit may not start a word. -/
theorem not_word_start_of_digit (h : char.isDigit = true) : isWordStart char = false :=
  Text.forall_ascii (fun char => char.isDigit = true → isWordStart char = false)
    (Text.ascii_of_digit h) (by decide) h

/-- Words hold no blanks. -/
theorem not_blank_of_word_char (h : isWordChar char = true) : Text.isBlank char = false := by
  have hcodes : ∀ interval ∈ Text.blankRanges,
      ∀ code ∈ List.range' interval.1 (interval.2 - interval.1 + 1),
        isWordChar (Char.ofNat code) = false := by
    decide +kernel
  refine Bool.eq_false_iff.mpr fun hblank => ?_
  obtain ⟨interval, hinterval, hcode⟩ := List.any_eq_true.mp hblank
  simp only [Bool.and_eq_true, decide_eq_true_eq] at hcode
  have hword := hcodes interval hinterval char.toNat (List.mem_range'_1.mpr (by omega))
  rw [Char.ofNat_toNat, h] at hword
  cases hword

end Classes

/-! ## Taking tokens off -/

section Pieces

variable {chars rest after content : List Char} {char quote : Char}

/-- A symbol is taken off as it is spelled. -/
theorem eq_spelling_of_take_symbol {sign : Symbol} (h : takeSymbol chars = some (sign, after)) :
    chars = sign.spelling ++ after := by
  unfold takeSymbol at h
  split at h <;> cases h <;> rfl

/-- A character other than the quote is part of the content. -/
theorem take_quoted_cons_of_ne (h : char ≠ quote) (rest : List Char) :
    takeQuoted quote (char :: rest) =
      (takeQuoted quote rest).map fun (content, after) => (char :: content, after) := by
  cases rest <;> simp [takeQuoted, h]

/-- What stands before a closing quote is read as it was before its quotes were written twice. -/
theorem take_quoted_double (quote : Char) (content : List Char) (h : after.head? ≠ some quote) :
    takeQuoted quote (SheetQualifier.double quote content ++ quote :: after) =
      some (content, after) := by
  induction content with
  | nil =>
      cases after with
      | nil => simp [SheetQualifier.double, takeQuoted]
      | cons next rest =>
          have hnext : next ≠ quote := by simpa using h
          simp [SheetQualifier.double, takeQuoted, hnext]
  | cons char rest ih =>
      by_cases hchar : char = quote
      · subst hchar
        rw [Text.double_cons_self, List.cons_append, List.cons_append, takeQuoted, if_pos rfl,
          if_pos rfl, ih]
        rfl
      · rw [Text.double_cons_of_ne hchar, List.cons_append, take_quoted_cons_of_ne hchar, ih]
        rfl

/-- What is left after a quoted content is the end of the text. -/
theorem take_quoted_suffix (h : takeQuoted quote chars = some (content, after)) :
    after <:+ chars := by
  fun_induction takeQuoted quote chars generalizing content with
  | case1 => cases h
  | case2 =>
      cases h
      exact List.nil_suffix
  | case3 => cases h
  | case4 rest ih =>
      obtain ⟨⟨inner, other⟩, hinner, heq⟩ := Option.map_eq_some_iff.mp h
      obtain ⟨-, rfl⟩ := Prod.mk.inj heq
      exact ((ih hinner).trans (List.suffix_cons _ _)).trans (List.suffix_cons _ _)
  | case5 next rest hnext =>
      cases h
      exact List.suffix_cons _ _
  | case6 char next rest hquote ih =>
      obtain ⟨⟨inner, other⟩, hinner, heq⟩ := Option.map_eq_some_iff.mp h
      obtain ⟨-, rfl⟩ := Prod.mk.inj heq
      exact (ih hinner).trans (List.suffix_cons _ _)

/-- Taking the characters of an error literal divides the text. -/
theorem take_error_chars_append (chars : List Char) :
    (takeErrorChars chars).1 ++ (takeErrorChars chars).2 = chars := by
  induction chars with
  | nil => rfl
  | cons char rest ih =>
      unfold takeErrorChars
      split_ifs
      · rfl
      · exact congrArg (char :: ·) ih
      · rfl

/-- Taking the digits behind a point divides the text. -/
theorem take_fraction_append (chars : List Char) :
    (takeFraction chars).1 ++ (takeFraction chars).2 = chars := by
  unfold takeFraction
  split
  · rw [List.cons_append, List.takeWhile_append_dropWhile]
  · rfl

/-- Taking an exponent divides the text. -/
theorem take_exponent_append (chars : List Char) :
    (takeExponent chars).1 ++ (takeExponent chars).2 = chars := by
  unfold takeExponent
  split
  · split_ifs
    · rw [List.cons_append, List.cons_append, List.takeWhile_append_dropWhile]
    · rfl
  · rfl

/-- Without digits there is no number. -/
theorem exists_digits_of_take_number {token : Token} (h : takeNumber chars = .ok (token, after)) :
    ∃ digits, digits ≠ [] ∧ chars = digits ++ after := by
  unfold takeNumber at h
  dsimp only at h
  split at h
  · rename_i amount hread
    cases h
    refine ⟨chars.takeWhile Char.isDigit ++ (takeFraction (chars.dropWhile Char.isDigit)).1 ++
      (takeExponent (takeFraction (chars.dropWhile Char.isDigit)).2).1, fun hnone => ?_, ?_⟩
    · rw [hnone] at hread
      cases hread
    · rw [List.append_assoc, List.append_assoc, take_exponent_append, take_fraction_append,
        List.takeWhile_append_dropWhile]
  · cases h

/-- Whether a word before these characters ends there and is neither the name of a sheet nor that of
a function. -/
def EndsWord (rest : List Char) : Prop :=
  ∀ next ∈ rest.head?, isWordChar next = false ∧ next ≠ '!' ∧ next ≠ '('

/-- The end of the text ends a word. -/
theorem ends_word_nil : EndsWord [] := nofun

/-- A character that neither stands in a word nor makes it something else ends the word. -/
theorem ends_word_cons {next : Char} (h : isWordChar next = false ∧ next ≠ '!' ∧ next ≠ '(')
    (rest : List Char) : EndsWord (next :: rest) :=
  fun _ hnext => Option.some.inj hnext ▸ h

/-- A word ends before a blank. -/
theorem EndsWord.after_blanks {blanks : List Char} (h : EndsWord rest)
    (hblanks : ∀ char ∈ blanks, Text.isBlank char = true) : EndsWord (blanks ++ rest) := by
  cases blanks with
  | nil => exact h
  | cons blank others =>
      have hblank := hblanks blank List.mem_cons_self
      refine ends_word_cons ⟨Bool.eq_false_iff.mpr fun hchar => ?_, ?_, ?_⟩ _
      · rw [not_blank_of_word_char hchar] at hblank
        cases hblank
      · rintro rfl
        exact absurd hblank (by decide)
      · rintro rfl
        exact absurd hblank (by decide)

/-- A word is taken up to where it ends. -/
theorem take_word_of_ends {word : List Char} (hword : ∀ char ∈ word, isWordChar char = true)
    (hends : EndsWord rest) : takeWord (word ++ rest) = (readWord word, rest) := by
  have hparts : (word ++ rest).takeWhile isWordChar = word ∧
      (word ++ rest).dropWhile isWordChar = rest := by
    rw [List.takeWhile_append_of_pos hword, List.dropWhile_append_of_pos hword]
    cases rest with
    | nil => exact ⟨List.append_nil _, rfl⟩
    | cons next others => simp [(hends next rfl).1]
  unfold takeWord
  rw [hparts.1, hparts.2]
  split
  · exact absurd rfl (hends '!' rfl).2.1
  · exact absurd rfl (hends '(' rfl).2.2
  · rfl

/-- Taking a word leaves the end of the text. -/
theorem take_word_suffix (h : isWordStart char = true) : (takeWord (char :: rest)).2 <:+ rest := by
  have hdrop : (char :: rest).dropWhile isWordChar <:+ rest := by
    rw [List.dropWhile_cons_of_pos (word_char_of_start h)]
    exact List.dropWhile_suffix _
  unfold takeWord
  dsimp only
  split
  · rename_i hmark
    rw [hmark] at hdrop
    exact (List.suffix_cons _ _).trans hdrop
  · rename_i hcall
    exact hcall ▸ hdrop
  · exact hdrop

end Pieces

section Tokens

variable {total other room : Nat} {char : Char} {chars rest after : List Char} {token : Token}
  {found : List Token}

/-- Which token comes next does not depend on how offsets are counted. -/
theorem take_token_total :
    takeToken total char rest = .ok (token, after) ↔
      takeToken other char rest = .ok (token, after) := by
  unfold takeToken
  split
  · rfl
  · split_ifs <;> rfl

/-- A double quote opens a text. -/
theorem take_token_text (total : Nat) (rest : List Char) :
    takeToken total '"' rest = takeText rest := by
  have hsymbol : takeSymbol ('"' :: rest) = none := rfl
  unfold takeToken
  rw [hsymbol]
  exact if_pos rfl

/-- A single quote opens the name of a sheet. -/
theorem take_token_quoted_sheet (total : Nat) (rest : List Char) :
    takeToken total '\'' rest = takeQuotedSheet rest := by
  have hsymbol : takeSymbol ('\'' :: rest) = none := rfl
  unfold takeToken
  rw [hsymbol]
  exact (if_neg (by decide)).trans (if_pos rfl)

/-- A hash sign opens an error literal. -/
theorem take_token_error (total : Nat) (rest : List Char) :
    takeToken total '#' rest = takeError rest := by
  have hsymbol : takeSymbol ('#' :: rest) = none := rfl
  unfold takeToken
  rw [hsymbol]
  exact (if_neg (by decide)).trans ((if_neg (by decide)).trans (if_pos rfl))

/-- What is taken off is a symbol, a quoted text, a quoted sheet name, an error literal, a number or a
word. -/
theorem take_token_cases (h : takeToken total char rest = .ok (token, after)) :
    (∃ sign, takeSymbol (char :: rest) = some (sign, after) ∧ token = .symbol sign) ∨
    (∃ content, takeQuoted '"' rest = some (content, after) ∧
      token = .text (String.ofList content)) ∨
    (∃ name, takeQuoted '\'' rest = some (name, '!' :: after) ∧
      token = .sheet (String.ofList name)) ∨
    (∃ fault, (takeErrorChars rest).2 = after ∧ token = .error fault) ∨
    (∃ amount, takeNumber (char :: rest) = .ok (token, after) ∧ token = .number amount) ∨
    (isWordStart char = true ∧ takeWord (char :: rest) = (token, after)) := by
  unfold takeToken at h
  split at h
  · rename_i sign following hsymbol
    cases h
    exact .inl ⟨sign, hsymbol, rfl⟩
  · refine .inr ?_
    split_ifs at h with _ _ _ _ hword
    · unfold takeText at h
      split at h
      · rename_i hquoted
        cases h
        exact .inl ⟨_, hquoted, rfl⟩
      · cases h
    · unfold takeQuotedSheet at h
      split at h
      · cases h
      · rename_i hquoted
        cases h
        exact .inr (.inl ⟨_, hquoted, rfl⟩)
      · cases h
    · unfold takeError at h
      dsimp only at h
      split at h
      · cases h
        exact .inr (.inr (.inl ⟨_, rfl, rfl⟩))
      · cases h
    · obtain ⟨amount, hamount⟩ : ∃ amount, token = .number amount := by
        unfold takeNumber at h
        dsimp only at h
        split at h
        · cases h
          exact ⟨_, rfl⟩
        · cases h
      exact .inr (.inr (.inr (.inl ⟨amount, h, hamount⟩)))
    · exact .inr (.inr (.inr (.inr ⟨hword, Except.ok.inj h⟩)))

/-- A token is taken off the characters that it begins with. -/
theorem take_token_suffix (h : takeToken total char rest = .ok (token, after)) :
    after <:+ rest := by
  obtain ⟨sign, hsymbol, -⟩ | ⟨content, hquoted, -⟩ | ⟨name, hquoted, -⟩ | ⟨fault, hafter, -⟩ |
    ⟨amount, hnumber, -⟩ | ⟨hword, htake⟩ := take_token_cases h
  · have hspelling := eq_spelling_of_take_symbol hsymbol
    cases sign <;> exact ⟨_, (List.cons.inj hspelling).2.symm⟩
  · exact take_quoted_suffix hquoted
  · exact (List.suffix_cons _ _).trans (take_quoted_suffix hquoted)
  · exact hafter ▸ ⟨_, take_error_chars_append rest⟩
  · obtain ⟨digits, hdigits, hchars⟩ := exists_digits_of_take_number hnumber
    cases digits with
    | nil => exact absurd rfl hdigits
    | cons digit others => exact ⟨others, (List.cons.inj hchars).2.symm⟩
  · have hafter : (takeWord (char :: rest)).2 = after := congrArg Prod.snd htake
    exact hafter ▸ take_word_suffix hword

/-- A word is taken off where one begins. -/
theorem take_token_of_word_start (h : isWordStart char = true) (total : Nat) (rest : List Char) :
    takeToken total char rest = .ok (takeWord (char :: rest)) := by
  -- no other kind of token begins with such a character
  have hsymbol : takeSymbol (char :: rest) = none := by
    refine Option.eq_none_iff_forall_ne_some.mpr fun ⟨sign, following⟩ hsign => ?_
    have hspelling := eq_spelling_of_take_symbol hsign
    cases sign <;> (obtain ⟨rfl, -⟩ := List.cons.inj hspelling; exact absurd h (by decide))
  have hdigit : char.isDigit = false := by
    refine Bool.eq_false_iff.mpr fun hdigit => ?_
    rw [not_word_start_of_digit hdigit] at h
    cases h
  have hnumber : startsNumber (char :: rest) = false := by
    unfold startsNumber
    split
    · rename_i heq
      obtain ⟨rfl, -⟩ := List.cons.inj heq
      exact absurd h (by decide)
    · rename_i heq
      obtain ⟨rfl, -⟩ := List.cons.inj heq
      exact hdigit
    · rfl
  have hne : ∀ mark : Char, isWordStart mark = false → char ≠ mark := by
    rintro mark hmark rfl
    rw [h] at hmark
    cases hmark
  unfold takeToken
  rw [hsymbol]
  dsimp only
  rw [if_neg (hne _ (by decide)), if_neg (hne _ (by decide)), if_neg (hne _ (by decide)),
    if_neg (by simp [hnumber]), if_pos h]

/-- Which tokens characters are split into: none if they are blanks, or the token that the first
other character begins, and those that what follows it is split into. -/
inductive Tokenized : List Char → List Token → Prop where
  | nil {chars : List Char} (hblank : Text.trimStart chars = []) : Tokenized chars []
  | cons {total : Nat} {chars rest after : List Char} {char : Char} {token : Token}
      {others : List Token} (hstart : Text.trimStart chars = char :: rest)
      (htoken : takeToken total char rest = .ok (token, after)) (hafter : Tokenized after others) :
      Tokenized chars (token :: others)

/-- A token begins with the first character, if this is no blank. -/
theorem Tokenized.cons_of_not_blank {others : List Token} (h : Text.isBlank char = false)
    (htoken : takeToken total char rest = .ok (token, after)) (hafter : Tokenized after others) :
    Tokenized (char :: rest) (token :: others) :=
  .cons (Text.trim_start_cons h rest) htoken hafter

/-- Every token takes characters off, so that what follows it needs less room. -/
theorem tokens_from_eq_ok_iff (hroom : chars.length ≤ room) :
    tokensFrom total room chars = .ok found ↔ Tokenized chars found := by
  induction room generalizing chars found with
  | zero =>
      obtain rfl : chars = [] := List.length_eq_zero_iff.mp (Nat.le_zero.mp hroom)
      constructor
      · intro h
        cases h
        exact .nil rfl
      · rintro (_ | ⟨hstart, _, _⟩)
        · rfl
        · cases hstart
  | succ room ih =>
      -- what follows a token is shorter, so the room that is left is enough for it
      have hshorter : ∀ {char rest token after}, Text.trimStart chars = char :: rest →
          takeToken total char rest = .ok (token, after) → after.length ≤ room := by
        intro char rest token after hstart htoken
        have hafter := (take_token_suffix htoken).length_le
        have hrest := (List.dropWhile_suffix (l := chars) Text.isBlank).length_le
        rw [show chars.dropWhile Text.isBlank = _ from hstart, List.length_cons] at hrest
        omega
      unfold tokensFrom
      constructor
      · intro h
        split at h
        · cases h
          exact .nil ‹_›
        · rename_i hstart
          obtain ⟨⟨token, after⟩, htoken, h⟩ := bind_eq_ok_iff.mp h
          obtain ⟨others, hothers, h⟩ := bind_eq_ok_iff.mp h
          cases h
          exact .cons hstart htoken ((ih (hshorter hstart htoken)).mp hothers)
      · rintro (hblank | ⟨hstart, htoken, hafter⟩)
        · rw [hblank]
        · have hhere : takeToken total _ _ = _ := take_token_total.mp htoken
          rw [hstart]
          dsimp only
          rw [hhere]
          show (tokensFrom total room _ >>= _) = _
          rw [(ih (hshorter hstart hhere)).mpr hafter]
          rfl

/-- The tokens of a formula are those that its body is split into. -/
theorem tokens_eq_ok_iff {formula : String} :
    tokens formula = .ok found ↔ Tokenized (body formula) found :=
  tokens_from_eq_ok_iff (Nat.le_refl _)

/-- A formula whose first token is refused is refused for the same reason. -/
theorem tokens_eq_error {formula : String} {problem : SyntaxError}
    (hbody : body formula = char :: rest) (hblank : Text.isBlank char = false)
    (htoken : ∀ total, takeToken total char rest = .error problem) :
    tokens formula = .error problem := by
  unfold tokens
  dsimp only
  rw [hbody, List.length_cons]
  unfold tokensFrom
  rw [Text.trim_start_cons hblank]
  dsimp only
  rw [htoken]
  rfl

/-- Blanks before characters do not count. -/
theorem tokenized_trim_start_iff :
    Tokenized (Text.trimStart chars) found ↔ Tokenized chars found := by
  have hagain : Text.trimStart (Text.trimStart chars) = Text.trimStart chars :=
    Text.trim_start_eq_self Text.head_of_trim_start
  constructor
  · rintro (hblank | ⟨hstart, htoken, hafter⟩)
    · exact .nil (hagain ▸ hblank)
    · exact .cons (hagain ▸ hstart) htoken hafter
  · rintro (hblank | ⟨hstart, htoken, hafter⟩)
    · exact .nil (hagain.trans hblank)
    · exact .cons (hagain.trans hstart) htoken hafter

end Tokens

/-! ## The body of a formula -/

/-- An equals sign before a text is left out, and so are the blanks that the text ends with. -/
theorem body_equals (chars : List Char) :
    body (String.ofList ('=' :: chars)) = Text.trimEnd chars := by
  rw [body, String.toList_ofList, Text.trimChars, Text.trim_start_cons (by decide),
    Text.trim_end_cons (by decide)]
  rfl

/-- The body of a text without an equals sign before it is the text without blanks around it. -/
theorem body_eq_trim {formula : String}
    (h : (Text.trimStart formula.toList).head? ≠ some '=') :
    body formula = Text.trimChars formula.toList := by
  unfold body
  split
  · rename_i heq
    rw [← Text.head_trim_chars, heq] at h
    exact absurd rfl h
  · rfl

/-- A text without blanks around it and without an equals sign before it is its own body. -/
theorem body_eq_self {formula : String} (htrim : Text.trimChars formula.toList = formula.toList)
    (hequals : formula.toList.head? ≠ some '=') : body formula = formula.toList := by
  rw [body_eq_trim, htrim]
  rwa [← Text.head_trim_chars, htrim]

end Spreadsheet.Formula
