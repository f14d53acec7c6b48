import Spreadsheet.Proofs.Address.Numerals
import Spreadsheet.Text.Ascii
import Spreadsheet.Text.LowerCase

/-!
# Lower case and ASCII case

Texts are compared up to the case of ASCII letters, or by their lower-case forms. The first kind of
equality implies the second, `lower_eq_of_ignoring_ascii_case`: letters that differ only in case
have one lower-case form, and their neighbours see a letter in either case. For texts of ASCII
characters both are the same, `eq_ignoring_ascii_case_iff_of_ascii`.
-/

namespace Spreadsheet.Text

section Characters

variable {char left right : Char}

/-- Characters that are equal up to ASCII case are equal, or letters both. -/
theorem eq_or_letters_of_to_lower_eq (h : left.toLower = right.toLower) :
    left = right ∨ left.isAlpha = true ∧ right.isAlpha = true := by
  have hletter : ∀ char : Char, char.isUpper = true →
      char.isAlpha = true ∧ char.toLower.isAlpha = true := fun char hupper =>
    have halpha : char.isAlpha = true := Bool.or_eq_true_iff.mpr (.inl hupper)
    ⟨halpha, forall_ascii (fun char => char.isUpper = true → char.toLower.isAlpha = true)
      (ascii_of_letter halpha) (by decide) hupper⟩
  have hsame : ∀ char : Char, ¬char.isUpper = true → char.toLower = char := fun char hupper =>
    dif_neg fun hbounds => hupper (decide_eq_true hbounds)
  by_cases hleft : left.isUpper = true
  · refine .inr ⟨(hletter left hleft).1, ?_⟩
    by_cases hright : right.isUpper = true
    · exact (hletter right hright).1
    · exact hsame right hright ▸ h ▸ (hletter left hleft).2
  · by_cases hright : right.isUpper = true
    · exact .inr ⟨hsame left hleft ▸ h ▸ (hletter right hright).2, (hletter right hright).1⟩
    · exact .inl (hsame left hleft ▸ hsame right hright ▸ h)

/-- A letter of ASCII is cased and not ignored. -/
theorem cased_of_letter (h : char.isAlpha = true) :
    isCaseIgnorable char = false ∧ isCased char = true :=
  forall_ascii
    (fun char => char.isAlpha = true → isCaseIgnorable char = false ∧ isCased char = true)
    (ascii_of_letter h) (by decide +kernel) h

/-- No character of ASCII is a capital sigma. -/
theorem not_sigma_of_ascii (h : char.toNat < 0x80) : char ≠ 'Σ' := by
  rintro rfl
  exact absurd h (by decide)

end Characters

variable {chars left right : List Char}

/-- The lower case of ASCII characters is that of each by itself. -/
theorem lower_from_ascii (h : ∀ char ∈ chars, char.toNat < 0x80) (afterCased : Bool) :
    lowerFrom afterCased chars = chars.map Char.toLower := by
  induction chars generalizing afterCased with
  | nil => rfl
  | cons char rest ih =>
      obtain ⟨hchar, hrest⟩ := List.forall_mem_cons.mp h
      rw [lowerFrom, if_neg (not_sigma_of_ascii hchar), lowerChar, if_pos hchar, ih hrest]
      rfl

/-- A text starts with a cased character if its first character that is not ignored is one. -/
theorem starts_cased_cons (char : Char) (rest : List Char) :
    startsCased (char :: rest) =
      if isCaseIgnorable char then startsCased rest else isCased char := by
  unfold startsCased
  rw [List.dropWhile_cons]
  split <;> rfl

/-- Whether a cased character comes next does not depend on the case of ASCII letters. -/
theorem starts_cased_congr (h : left.map Char.toLower = right.map Char.toLower) :
    startsCased left = startsCased right := by
  induction left generalizing right with
  | nil => rw [List.map_eq_nil_iff.mp h.symm]
  | cons char rest ih =>
      obtain ⟨other, others, rfl, hchar, hrest⟩ := List.map_eq_cons_iff.mp h.symm
      rw [starts_cased_cons, starts_cased_cons, ih hrest.symm]
      rcases eq_or_letters_of_to_lower_eq hchar with rfl | ⟨hother, hletter⟩
      · rfl
      · rw [(cased_of_letter hother).1, (cased_of_letter hletter).1, (cased_of_letter hother).2,
          (cased_of_letter hletter).2]

/-- The lower-case form does not depend on the case of ASCII letters. -/
theorem lower_from_congr (h : left.map Char.toLower = right.map Char.toLower)
    (afterCased : Bool) : lowerFrom afterCased left = lowerFrom afterCased right := by
  induction left generalizing right afterCased with
  | nil => rw [List.map_eq_nil_iff.mp h.symm]
  | cons char rest ih =>
      obtain ⟨other, others, rfl, hchar, hrest⟩ := List.map_eq_cons_iff.mp h.symm
      rw [lowerFrom, lowerFrom, starts_cased_congr hrest.symm]
      rcases eq_or_letters_of_to_lower_eq hchar with rfl | ⟨hother, hletter⟩
      · rw [ih hrest.symm]
      · have hlower : ∀ {letter : Char}, letter.isAlpha = true →
            lowerChar letter = [letter.toLower] := fun h => if_pos (ascii_of_letter h)
        rw [if_neg (not_sigma_of_ascii (ascii_of_letter hother)),
          if_neg (not_sigma_of_ascii (ascii_of_letter hletter)), hlower hother, hlower hletter,
          hchar, (cased_of_letter hother).1, (cased_of_letter hletter).1,
          (cased_of_letter hother).2, (cased_of_letter hletter).2, ih hrest.symm]

variable {first second : String}

/-- Texts that are equal up to ASCII case have the same lower-case form. -/
theorem lower_eq_of_ignoring_ascii_case (h : eqIgnoringAsciiCase first second = true) :
    lower first = lower second :=
  congrArg String.ofList (lower_from_congr (eq_of_beq h) false)

/-- Texts of ASCII characters are equal up to ASCII case exactly if their lower-case forms are
equal. -/
theorem eq_ignoring_ascii_case_iff_of_ascii (hfirst : ∀ char ∈ first.toList, char.toNat < 0x80)
    (hsecond : ∀ char ∈ second.toList, char.toNat < 0x80) :
    eqIgnoringAsciiCase first second = true ↔ lower first = lower second := by
  rw [lower, lower, lower_from_ascii hfirst, lower_from_ascii hsecond, String.ofList_inj]
  exact beq_iff_eq

end Spreadsheet.Text
