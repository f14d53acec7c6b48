import Spreadsheet.Proofs.Formula.Quotes
import Spreadsheet.Proofs.Text.LowerCase
import Spreadsheet.Proofs.Workbook.SheetNames

/-!
# Ranges with the sheet at both ends

Either end of a range may have the name of its sheet before it. Formulas compare two such names up
to the case of ASCII letters, a workbook compares names in lower case. The main theorem,
`range_between_qualified_ends`, says which ranges can be read with two names for one sheet: those
whose names are equal up to ASCII case. So no two sheets are ever taken for one, but one sheet is
taken for two where its names differ in the case of a letter that is not ASCII.
-/

namespace Spreadsheet.Formula

open Text (enclosed trimChars trimEnd)
open Evaluation (evaluate)

/-! ## Writing a range -/

/-- The ways to write the name of a sheet before a reference: between apostrophes, or as it is if it
is a word. -/
inductive WritesSheet (sheet : String) : String → Prop where
  | quoted : WritesSheet sheet (enclosed '\'' sheet ++ "!")
  | word (hstart : sheet.toList.head?.any isWordStart = true)
      (hword : sheet.toList.all isWordChar = true) : WritesSheet sheet (sheet ++ "!")

section Writing

variable {sheet other before after left right : String} {rest : List Char}
  {found : List Token} {first last : Address}

/-- The name of a sheet is one token, however it is written. -/
theorem tokenized_sheet (h : WritesSheet sheet before) (hrest : Tokenized rest found) :
    Tokenized (before.toList ++ rest) (.sheet sheet :: found) := by
  cases h with
  | quoted =>
      have hreference : Tokenized (String.ofList rest).toList found := by
        rwa [String.toList_ofList]
      have hchars : (SheetQualifier.qualified sheet (String.ofList rest)).toList =
          (enclosed '\'' sheet ++ "!").toList ++ rest := by
        rw [SheetQualifier.qualified, String.toList_append, String.toList_ofList]
      exact hchars ▸ tokenized_qualified hreference
  | word hstart hword =>
      obtain ⟨first, others, hsheet, hbegins⟩ : ∃ first others,
          sheet.toList = first :: others ∧ isWordStart first = true := by
        cases hsheet : sheet.toList with
        | nil => simp [hsheet] at hstart
        | cons first others => exact ⟨first, others, rfl, by simpa [hsheet] using hstart⟩
      have hall : ∀ char ∈ sheet.toList, isWordChar char = true := List.all_eq_true.mp hword
      have hmark : isWordChar '!' = false := by decide
      have htake : takeWord (sheet.toList ++ '!' :: rest) = (.sheet sheet, rest) := by
        unfold takeWord
        rw [List.takeWhile_append_of_pos hall, List.dropWhile_append_of_pos hall,
          List.takeWhile_cons_of_neg (by simp [hmark]),
          List.dropWhile_cons_of_neg (by simp [hmark]), List.append_nil]
        show (Token.sheet (String.ofList sheet.toList), rest) = _
        rw [String.ofList_toList]
      rw [String.toList_append, List.append_assoc]
      rw [hsheet] at htake ⊢
      exact .cons_of_not_blank (not_blank_of_word_char (word_char_of_start hbegins))
        (htake ▸ take_token_of_word_start hbegins 0 _) hrest

/-- No blanks are taken off the name of a sheet. -/
theorem WritesSheet.trim_end (h : WritesSheet sheet before) (rest : List Char) :
    trimEnd (before.toList ++ rest) = before.toList ++ trimEnd rest := by
  refine Text.trim_end_append (fun last hlast => ?_) rest
  cases h <;>
    (rw [String.toList_append, Option.mem_def, List.getLast?_append] at hlast
     obtain rfl := Option.some.inj hlast
     decide)

/-- An address at the end of a formula is one token, which the blanks after it do not belong to. -/
theorem tokenized_at_end (h : Address.parse right = .ok last) :
    Tokenized (trimEnd right.toList) [.cell last] := by
  have hparse : Address.parse (String.ofList (trimEnd right.toList)) = .ok last := by
    have htwice : trimChars (trimEnd right.toList) = trimChars right.toList := by
      rw [trimChars, Text.trim_start_trim_end]
      exact Text.trim_end_eq_self Text.last_of_trim_end
    rwa [Address.parse, String.toList_ofList, htwice]
  have hword := tokenized_address hparse ends_word_nil (.nil rfl)
  rwa [List.append_nil] at hword

/-- The tokens of a range whose first end has its sheet before it, whatever the second is. -/
theorem tokens_of_range (hbefore : WritesSheet sheet before)
    (hleft : Address.parse left = .ok first) (hrest : Tokenized (trimEnd right.toList) found) :
    tokens ("=" ++ before ++ left ++ ":" ++ right) =
      .ok (.sheet sheet :: .cell first :: .symbol .colon :: found) := by
  have hchars : "=" ++ before ++ left ++ ":" ++ right =
      String.ofList ('=' :: (before.toList ++ (left.toList ++ [':'] ++ right.toList))) :=
    String.toList_injective (by simp)
  have hcolon : trimEnd (left.toList ++ [':'] ++ right.toList) =
      left.toList ++ [':'] ++ trimEnd right.toList := by
    refine Text.trim_end_append (fun last hlast => ?_) _
    rw [List.getLast?_concat] at hlast
    obtain rfl := Option.some.inj hlast
    decide
  rw [hchars, tokens_eq_ok_iff, body_equals, hbefore.trim_end, hcolon, List.append_assoc]
  rw [← String.ofList_toList (s := left)] at hleft
  exact tokenized_sheet hbefore (tokenized_before_colon hleft hrest)

/-! ## Reading it -/

/-- Two addresses with sheets before them are joined if the sheets agree. -/
theorem parse_qualified_ends (sheet other : String) (first last : Address) :
    parseTokens [.sheet sheet, .cell first, .symbol .colon, .sheet other, .cell last] =
      if Text.eqIgnoringAsciiCase sheet other = true then
        .ok (.range (some sheet) (.ofCorners first last))
      else .error .differentSheets := by
  have hcommon : commonSheet (some sheet) (some other) =
      if Text.eqIgnoringAsciiCase sheet other = true then .ok (some sheet)
      else .error .differentSheets := rfl
  -- the levels of operators lead down to the range and find nothing after it
  show (((((((((commonSheet (some sheet) (some other) >>= _) >>= _) >>= _) >>= _) >>= _) >>= _) >>=
    _) >>= _) >>= _) = _
  rw [hcommon]
  split <;> rfl

/-- A range whose first corner only names a sheet is parsed as a range on it. -/
theorem parse_qualified_range (hbefore : WritesSheet sheet before)
    (hleft : Address.parse left = .ok first) (hright : Address.parse right = .ok last) :
    parse ("=" ++ before ++ left ++ ":" ++ right) =
      .ok (.range (some sheet) (.ofCorners first last)) :=
  bind_eq_ok_iff.mpr ⟨_, tokens_of_range hbefore hleft (tokenized_at_end hright), rfl⟩

/-- A range whose corners both name a sheet is parsed if the names are the same up to the case of
ASCII letters, and refused otherwise. -/
theorem parse_range_qualified_twice (hbefore : WritesSheet sheet before)
    (hafter : WritesSheet other after) (hleft : Address.parse left = .ok first)
    (hright : Address.parse right = .ok last) :
    parse ("=" ++ before ++ left ++ ":" ++ after ++ right) =
      if Text.eqIgnoringAsciiCase sheet other = true then
        .ok (.range (some sheet) (.ofCorners first last))
      else .error .differentSheets := by
  have hend : Tokenized (trimEnd (after ++ right).toList) [.sheet other, .cell last] := by
    rw [String.toList_append, hafter.trim_end]
    exact tokenized_sheet hafter (tokenized_at_end hright)
  rw [String.append_assoc, parse, tokens_of_range hbefore hleft hend]
  exact parse_qualified_ends sheet other first last

end Writing

/-! ## Names of one sheet -/

/-- Two names of one sheet are equal in lower case. -/
theorem lower_eq_of_sheet_index {book : Workbook} {sheet other : String} {index : Nat}
    (hsheet : book.sheetIndex sheet = some index) (hother : book.sheetIndex other = some index) :
    Text.lower sheet = Text.lower other := by
  obtain ⟨⟨found, hfound, hlower⟩, -⟩ := Workbook.sheet_index_eq_some_iff.mp hsheet
  obtain ⟨⟨again, hagain, hsame⟩, -⟩ := Workbook.sheet_index_eq_some_iff.mp hother
  obtain rfl := Option.some.inj (hfound.symm.trans hagain)
  exact hlower.symm.trans hsame

/-- A range with its sheet before both ends is read as if it stood before the first end only,
however the names are written, if these are equal up to ASCII case. Then they name one sheet in
every workbook. Otherwise the range is refused, also if a workbook has one sheet under both names,
which cannot be if all their characters are ASCII. A range that is read gives the values of its
cells on the sheet. -/
theorem range_between_qualified_ends {sheet other before after left right : String}
    {first last : Address} (hbefore : WritesSheet sheet before) (hafter : WritesSheet other after)
    (hleft : Address.parse left = .ok first) (hright : Address.parse right = .ok last) :
    let range := CellRange.ofCorners first last
    parse ("=" ++ before ++ left ++ ":" ++ right) = .ok (.range (some sheet) range) ∧
      parse ("=" ++ before ++ left ++ ":" ++ after ++ right) =
        (if Text.eqIgnoringAsciiCase sheet other = true then .ok (.range (some sheet) range)
        else .error .differentSheets) ∧
      ∀ book : Workbook,
        (Text.eqIgnoringAsciiCase sheet other = true →
          book.sheetIndex other = book.sheetIndex sheet) ∧
        ∀ index, book.sheetIndex sheet = some index →
          (book.sheetIndex other = some index →
            (∀ char ∈ sheet.toList ++ other.toList, char.toNat < 0x80) →
              Text.eqIgnoringAsciiCase sheet other = true) ∧
          ∀ home position moment seed,
            let context := Context.ofCell book home position moment
            evaluate context (.range (some sheet) range) seed =
              .ok (context.rangeValues ⟨index, range⟩) := by
  intro range
  refine ⟨parse_qualified_range hbefore hleft hright,
    parse_range_qualified_twice hbefore hafter hleft hright, fun book => ⟨fun hsame => ?_, ?_⟩⟩
  · rw [Workbook.sheetIndex, Workbook.sheetIndex, Text.lower_eq_of_ignoring_ascii_case hsame]
  · intro index hsheet
    refine ⟨fun hother hascii => ?_, fun home position moment seed => evaluate_range ?_ range seed⟩
    · obtain ⟨hfirst, hsecond⟩ := List.forall_mem_append.mp hascii
      exact (Text.eq_ignoring_ascii_case_iff_of_ascii hfirst hsecond).mpr
        (lower_eq_of_sheet_index hsheet hother)
    · show (book.sheetIndex sheet).elim (Except.error ErrorValue.reference) Except.ok = _
      rw [hsheet]
      rfl

/-- A name with a letter that is not ASCII, between apostrophes before the one end, and as a word
with ASCII letters in another case before the other. -/
theorem range_between_qualified_ends_in_two_cases :
    Address.parse "A1" = .ok ⟨0, 0, false, false⟩ ∧ Address.parse "$B2" = .ok ⟨1, 1, false, true⟩ ∧
      parse "='Übersicht'!A1:ÜBERSICHT!$B2" =
        .ok (.range (some "Übersicht") (.ofCorners ⟨0, 0, false, false⟩ ⟨1, 1, false, true⟩)) := by
  have hleft : Address.parse "A1" = .ok ⟨0, 0, false, false⟩ := by decide +kernel
  have hright : Address.parse "$B2" = .ok ⟨1, 1, false, true⟩ := by decide +kernel
  have hbefore : WritesSheet "Übersicht" (enclosed '\'' "Übersicht" ++ "!") := .quoted
  have hafter : WritesSheet "ÜBERSICHT" ("ÜBERSICHT" ++ "!") :=
    .word (by decide +kernel) (by decide +kernel)
  have hwritten : "=" ++ (enclosed '\'' "Übersicht" ++ "!") ++ "A1" ++ ":" ++
      ("ÜBERSICHT" ++ "!") ++ "$B2" = "='Übersicht'!A1:ÜBERSICHT!$B2" := by decide +kernel
  have hread := (range_between_qualified_ends hbefore hafter hleft hright).2.1
  rw [hwritten, if_pos (by decide +kernel)] at hread
  exact ⟨hleft, hright, hread⟩

/-- Not every range between two names of one sheet can be read. -/
theorem one_sheet_taken_for_two :
    ¬ ∀ (book : Workbook) (index : Nat) (sheet other before after left right : String)
      (first last : Address), book.sheetIndex sheet = some index →
      book.sheetIndex other = some index → WritesSheet sheet before → WritesSheet other after →
      Address.parse left = .ok first → Address.parse right = .ok last →
        ∃ tree, parse ("=" ++ before ++ left ++ ":" ++ after ++ right) = .ok tree := by
  intro h
  let book : Workbook := { Workbook.new with sheets := [.blank "Übersicht"] }
  have hsheet : book.sheetIndex "Übersicht" = some 0 := by decide +kernel
  have hother : book.sheetIndex "übersicht" = some 0 := by decide +kernel
  have hbefore : WritesSheet "Übersicht" ("Übersicht" ++ "!") :=
    .word (by decide +kernel) (by decide +kernel)
  have hafter : WritesSheet "übersicht" ("übersicht" ++ "!") :=
    .word (by decide +kernel) (by decide +kernel)
  have hleft : Address.parse "A1" = .ok ⟨0, 0, false, false⟩ := by decide +kernel
  have hright : Address.parse "A2" = .ok ⟨1, 0, false, false⟩ := by decide +kernel
  obtain ⟨tree, hread⟩ := h book 0 _ _ _ _ _ _ _ _ hsheet hother hbefore hafter hleft hright
  rw [parse_range_qualified_twice hbefore hafter hleft hright, if_neg (by decide +kernel)] at hread
  cases hread

end Spreadsheet.Formula
