import Spreadsheet.Proofs.Formula.Tokens

/-!
# Error literals before other tokens

An exclamation or question mark ends an error literal and belongs to it. Two literals have no such
mark, and the characters of error literals that follow one of these are taken for a part of it. The
main theorem, `error_literal_before_symbol`, says that a literal is a token of its own before every
symbol, except these two before a slash, where no token is read.
-/

namespace Spreadsheet

/-- The error values whose literals no mark ends. -/
def ErrorValue.unmarked : List ErrorValue := [.notAvailable, .gettingData]

namespace Formula

variable {fault : ErrorValue} {stem more rest : List Char} {char : Char}

/-! ## Characters of error literals -/

/-- No character of an error literal is a blank. -/
theorem not_blank_of_error_char (h : isErrorChar char = true) : Text.isBlank char = false := by
  simp only [isErrorChar, Char.isAlphanum, Bool.or_eq_true, beq_iff_eq] at h
  rcases h with ((hletter | hdigit) | rfl) | rfl
  · exact Text.letter_not_blank hletter
  · exact Text.digit_not_blank hdigit
  · decide
  · decide

/-- All characters that are taken for an error literal belong to one. -/
theorem not_blank_of_take_error_chars (chars : List Char) :
    ∀ char ∈ (takeErrorChars chars).1, Text.isBlank char = false := by
  induction chars with
  | nil => exact List.forall_mem_nil _
  | cons first rest ih =>
      unfold takeErrorChars
      split_ifs with hmark hfirst
      · rcases hmark with rfl | rfl <;> exact List.forall_mem_singleton.mpr (by decide)
      · exact List.forall_mem_cons.mpr ⟨not_blank_of_error_char hfirst, ih⟩
      · exact List.forall_mem_nil _

/-- The characters of an error literal are taken up to whatever follows them. -/
theorem take_error_chars_stem (hstem : ∀ char ∈ stem, isErrorChar char = true) (rest : List Char) :
    takeErrorChars (stem ++ rest) =
      (stem ++ (takeErrorChars rest).1, (takeErrorChars rest).2) := by
  induction stem with
  | nil => rfl
  | cons char others ih =>
      have hchar := hstem char List.mem_cons_self
      have hmark : ¬(char = '!' ∨ char = '?') := by
        rintro (rfl | rfl) <;> exact absurd hchar (by decide)
      rw [List.cons_append, takeErrorChars, if_neg hmark, if_pos hchar,
        ih (List.forall_mem_cons.mp hstem).2]
      rfl

/-! ## Literals -/

/-- Every error value is read from its literal. -/
theorem parse_literal (fault : ErrorValue) : ErrorValue.parse fault.literal = some fault := by
  cases fault <;> decide +kernel

/-- No literal has a blank in it. -/
theorem literal_not_blank (fault : ErrorValue) :
    ∀ char ∈ fault.literal.toList, Text.isBlank char = false := by
  intro char hchar
  have hnone : fault.literal.toList.any Text.isBlank = false := by cases fault <;> rfl
  exact Bool.eq_false_iff.mpr (List.any_eq_false.mp hnone char hchar)

/-- A literal without a mark is the beginning of no other literal. -/
theorem parse_literal_append_eq_none (hfault : fault ∈ ErrorValue.unmarked) (hmore : more ≠ [])
    (hblank : ∀ char ∈ more, Text.isBlank char = false) :
    ErrorValue.parse (fault.literal ++ String.ofList more) = none := by
  have hprefix : ∀ fault ∈ ErrorValue.unmarked, ∀ error ∈ ErrorValue.all,
      fault.literal.toList.map Char.toLower <+: error.literal.toList.map Char.toLower →
        error = fault := by
    decide
  have htrim : Text.trim (fault.literal ++ String.ofList more) =
      fault.literal ++ String.ofList more := by
    rw [Text.trim, Text.trim_chars_eq_self, String.ofList_toList]
    rw [String.toList_append, String.toList_ofList]
    exact List.forall_mem_append.mpr ⟨literal_not_blank fault, hblank⟩
  refine List.find?_eq_none.mpr fun error herror hequal => ?_
  rw [htrim, Text.eqIgnoringAsciiCase, beq_iff_eq, String.toList_append, String.toList_ofList,
    List.map_append] at hequal
  -- the only literal that begins so is the one itself, and it has no more characters
  obtain rfl := hprefix fault hfault error herror (hequal ▸ List.prefix_append _ _)
  exact hmore (List.map_eq_nil_iff.mp (List.self_eq_append_right.mp hequal))

/-- A literal without a mark has only characters of error literals behind its hash sign. -/
theorem exists_tail_of_unmarked (hfault : fault ∈ ErrorValue.unmarked) :
    ∃ tail, fault.literal.toList = '#' :: tail ∧ ∀ char ∈ tail, isErrorChar char = true := by
  cases fault with
  | notAvailable => exact ⟨_, rfl, List.all_eq_true.mp rfl⟩
  | gettingData => exact ⟨_, rfl, List.all_eq_true.mp rfl⟩
  | _ => exact absurd hfault (by decide)

/-- A literal with a mark ends in it, and has only characters of error literals between the hash
sign and the mark. -/
theorem exists_mark_of_marked (hfault : fault ∉ ErrorValue.unmarked) :
    ∃ stem mark, fault.literal.toList = '#' :: (stem ++ [mark]) ∧
      (∀ char ∈ stem, isErrorChar char = true) ∧ (mark = '!' ∨ mark = '?') := by
  cases fault with
  | notAvailable => exact absurd (by decide) hfault
  | gettingData => exact absurd (by decide) hfault
  | null => exact ⟨"NULL".toList, '!', rfl, List.all_eq_true.mp rfl, .inl rfl⟩
  | divisionByZero => exact ⟨"DIV/0".toList, '!', rfl, List.all_eq_true.mp rfl, .inl rfl⟩
  | value => exact ⟨"VALUE".toList, '!', rfl, List.all_eq_true.mp rfl, .inl rfl⟩
  | reference => exact ⟨"REF".toList, '!', rfl, List.all_eq_true.mp rfl, .inl rfl⟩
  | name => exact ⟨"NAME".toList, '?', rfl, List.all_eq_true.mp rfl, .inr rfl⟩
  | number => exact ⟨"NUM".toList, '!', rfl, List.all_eq_true.mp rfl, .inl rfl⟩

/-- A literal is taken off as it is written, if it runs on into nothing. -/
theorem take_error_chars_literal
    (hends : fault ∈ ErrorValue.unmarked → (takeErrorChars rest).1 = []) :
    ∃ tail, fault.literal.toList = '#' :: tail ∧ takeErrorChars (tail ++ rest) = (tail, rest) := by
  by_cases hfault : fault ∈ ErrorValue.unmarked
  · obtain ⟨tail, hliteral, htail⟩ := exists_tail_of_unmarked hfault
    have hrest := take_error_chars_append rest
    rw [hends hfault, List.nil_append] at hrest
    refine ⟨tail, hliteral, ?_⟩
    rw [take_error_chars_stem htail, hends hfault, hrest, List.append_nil]
  · obtain ⟨stem, mark, hliteral, hstem, hmark⟩ := exists_mark_of_marked hfault
    refine ⟨stem ++ [mark], hliteral, ?_⟩
    rw [List.append_assoc, take_error_chars_stem hstem, List.singleton_append, takeErrorChars,
      if_pos hmark]

/-- A literal is a token of its own before characters that it does not run on into. -/
theorem tokenized_literal {found : List Token}
    (hends : fault ∈ ErrorValue.unmarked → (takeErrorChars rest).1 = [])
    (h : Tokenized rest found) :
    Tokenized (fault.literal.toList ++ rest) (.error fault :: found) := by
  obtain ⟨tail, hliteral, htake⟩ := take_error_chars_literal hends
  have htoken : takeToken 0 '#' (tail ++ rest) = .ok (.error fault, rest) := by
    rw [take_token_error, takeError, htake]
    dsimp only
    rw [← hliteral, String.ofList_toList, parse_literal]
  rw [hliteral]
  exact .cons_of_not_blank (by decide) htoken h

/-- A literal that runs on is refused with the characters that were taken for a part of it. -/
theorem take_error_of_runs_on (hfault : fault ∈ ErrorValue.unmarked)
    (hruns : (takeErrorChars rest).1 ≠ []) :
    ∃ tail, fault.literal.toList = '#' :: tail ∧ takeError (tail ++ rest) =
      .error (.unknownError (fault.literal ++ String.ofList (takeErrorChars rest).1)) := by
  obtain ⟨tail, hliteral, htail⟩ := exists_tail_of_unmarked hfault
  have htext : String.ofList ('#' :: (tail ++ (takeErrorChars rest).1)) =
      fault.literal ++ String.ofList (takeErrorChars rest).1 := by
    rw [← List.cons_append, ← hliteral, String.ofList_append, String.ofList_toList]
  refine ⟨tail, hliteral, ?_⟩
  rw [takeError, take_error_chars_stem htail]
  dsimp only
  rw [htext, parse_literal_append_eq_none hfault hruns (not_blank_of_take_error_chars rest)]

/-! ## Symbols -/

/-- Of the symbols only the slash is written with characters of error literals. -/
theorem take_error_chars_spelling (sign : Symbol) (rest : List Char) :
    (takeErrorChars (sign.spelling ++ rest)).1 =
      if sign = .slash then '/' :: (takeErrorChars rest).1 else [] := by
  cases sign <;> rfl

/-- What follows a symbol loses the blanks at its end, but the symbol stays. -/
theorem trim_end_spelling (sign : Symbol) (rest : List Char) :
    Text.trimEnd (sign.spelling ++ rest) = sign.spelling ++ Text.trimEnd rest := by
  refine Text.trim_end_append (fun last hlast => ?_) rest
  cases sign <;> (obtain rfl := Option.some.inj hlast; decide)

/-- Blanks at the end are trimmed from what follows a literal, and not from the literal. -/
theorem trim_end_literal (fault : ErrorValue) (rest : List Char) :
    Text.trimEnd (fault.literal.toList ++ rest) = fault.literal.toList ++ Text.trimEnd rest :=
  Text.trim_end_append (fun last hlast => literal_not_blank fault last (List.mem_of_getLast? hlast))
    rest

/-- A formula that begins with a literal and a symbol. -/
theorem body_of_literal (fault : ErrorValue) (sign : Symbol) (rest : String) :
    body ("=" ++ fault.literal ++ String.ofList sign.spelling ++ rest) =
      fault.literal.toList ++ (sign.spelling ++ Text.trimEnd rest.toList) := by
  have hchars : "=" ++ fault.literal ++ String.ofList sign.spelling ++ rest =
      String.ofList ('=' :: (fault.literal.toList ++ (sign.spelling ++ rest.toList))) :=
    String.toList_injective (by simp)
  rw [hchars, body_equals, trim_end_literal, trim_end_spelling]

/-- A formula that begins with a symbol has the tokens of the symbol and of what follows it, up to
the blanks at the end. -/
theorem tokens_symbol_eq_ok_iff {sign : Symbol} {rest : String} {found : List Token} :
    tokens ("=" ++ String.ofList sign.spelling ++ rest) = .ok found ↔
      Tokenized (sign.spelling ++ Text.trimEnd rest.toList) found := by
  have hchars : "=" ++ String.ofList sign.spelling ++ rest =
      String.ofList ('=' :: (sign.spelling ++ rest.toList)) :=
    String.toList_injective (by simp)
  rw [hchars, tokens_eq_ok_iff, body_equals, trim_end_spelling]

/-- A slash after a literal without a mark is taken for a part of it, and there is
no such literal. -/
theorem literal_before_slash_refused (hfault : fault ∈ ErrorValue.unmarked) (rest : String) :
    ∃ more, tokens ("=" ++ fault.literal ++ String.ofList Symbol.slash.spelling ++ rest) =
      .error (.unknownError (fault.literal ++ "/" ++ more)) := by
  have hslash := take_error_chars_spelling .slash (Text.trimEnd rest.toList)
  rw [if_pos rfl] at hslash
  obtain ⟨tail, hliteral, hproblem⟩ :=
    take_error_of_runs_on hfault (hslash ▸ List.cons_ne_nil _ _)
  have hbody := body_of_literal fault .slash rest
  rw [hliteral, List.cons_append] at hbody
  set taken := (takeErrorChars (Text.trimEnd rest.toList)).1
  have htext : fault.literal ++ String.ofList ('/' :: taken) =
      fault.literal ++ "/" ++ String.ofList taken :=
    String.toList_injective (by simp)
  refine ⟨String.ofList taken, tokens_eq_error hbody (by decide) fun total => ?_⟩
  rw [take_token_error, hproblem, hslash, htext]

/-- An error literal before a symbol and what follows it is a token of its own, whatever symbol that
is, unless no mark ends the literal and the symbol is a slash. There the slash is taken for a part
of the literal, and no token is read. -/
theorem error_literal_before_symbol (fault : ErrorValue) (sign : Symbol) (rest : String)
    (found : List Token)
    (h : tokens ("=" ++ String.ofList sign.spelling ++ rest) = .ok (.symbol sign :: found)) :
    let written := "=" ++ fault.literal ++ String.ofList sign.spelling ++ rest
    (tokens written = .ok (.error fault :: .symbol sign :: found) ↔
      ¬(fault ∈ ErrorValue.unmarked ∧ sign = .slash)) ∧
    (fault ∈ ErrorValue.unmarked → sign = .slash → ∃ more,
      tokens written = .error (.unknownError (fault.literal ++ "/" ++ more))) := by
  intro written
  have hrefused : fault ∈ ErrorValue.unmarked → sign = .slash → ∃ more,
      tokens written = .error (.unknownError (fault.literal ++ "/" ++ more)) := by
    rintro hfault rfl
    exact literal_before_slash_refused hfault rest
  refine ⟨⟨?_, ?_⟩, hrefused⟩
  · rintro hfound ⟨hfault, hslash⟩
    obtain ⟨more, hmore⟩ := hrefused hfault hslash
    rw [hmore] at hfound
    cases hfound
  · intro hnot
    rw [tokens_eq_ok_iff, body_of_literal]
    refine tokenized_literal (fun hfault => ?_) (tokens_symbol_eq_ok_iff.mp h)
    rw [take_error_chars_spelling, if_neg]
    exact fun hslash => hnot ⟨hfault, hslash⟩

/-- A quotient with an error literal on its left: with a mark at its end, and without one. -/
theorem error_literal_before_symbol_of_quotients :
    let quotient : List Token := [.symbol .slash, .cell ⟨0, 0, false, false⟩]
    tokens "=/A1" = .ok quotient ∧
      tokens "=#DIV/0!/A1" = .ok (.error .divisionByZero :: quotient) ∧
      ∃ more, tokens "=#N/A/A1" = .error (.unknownError ("#N/A" ++ "/" ++ more)) := by
  intro quotient
  have hquotient : tokens "=/A1" = .ok quotient := by decide +kernel
  have hmarked := error_literal_before_symbol .divisionByZero .slash "A1" _ hquotient
  have hunmarked := error_literal_before_symbol .notAvailable .slash "A1" _ hquotient
  exact ⟨hquotient, hmarked.1.mpr (by decide), hunmarked.2 (by decide) rfl⟩

/-- Not every literal is a token of its own before every symbol. -/
theorem slash_taken_for_literal :
    ¬ ∀ (fault : ErrorValue) (sign : Symbol) (rest : String) (found : List Token),
      tokens ("=" ++ String.ofList sign.spelling ++ rest) = .ok (.symbol sign :: found) →
        tokens ("=" ++ fault.literal ++ String.ofList sign.spelling ++ rest) =
          .ok (.error fault :: .symbol sign :: found) := by
  intro h
  have hquotient : tokens "=/A1" = .ok [.symbol .slash, .cell ⟨0, 0, false, false⟩] := by
    decide +kernel
  have hrefused : tokens "=#N/A/A1" = .error (.unknownError "#N/A/A1") := by decide +kernel
  have hfound : tokens "=#N/A/A1" = _ := h .notAvailable .slash "A1" _ hquotient
  rw [hrefused] at hfound
  cases hfound

end Formula

end Spreadsheet
