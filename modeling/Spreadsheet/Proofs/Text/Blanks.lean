import Mathlib.Data.List.DropRight
import Mathlib.Data.List.TakeWhile
import Spreadsheet.Text.Blank

/-!
# Blanks at the ends of a text

Trimming takes off blanks and nothing else (`exists_blanks_around`), and it takes off all of them:
what is left begins and ends with other characters, and a text that does so stays as it is
(`trim_chars_of_ends`).
-/

namespace Spreadsheet.Text

variable {char : Char} {chars rest before : List Char}

/-! ## The beginning -/

/-- The first character of a text without the blanks it begins with is no blank. -/
theorem head_of_trim_start : ∀ first ∈ (trimStart chars).head?, isBlank first = false := by
  intro first h
  have hnot := List.head?_dropWhile_not isBlank chars
  rw [show (chars.dropWhile isBlank).head? = some first from h] at hnot
  exact hnot

/-- What is trimmed at its start starts with no blank. -/
theorem not_blank_of_trim_start (h : trimStart chars = char :: rest) : isBlank char = false :=
  head_of_trim_start char (congrArg List.head? h)

/-- Where the first character is no blank, there is nothing to take off the beginning. -/
theorem trim_start_eq_self (h : ∀ first ∈ chars.head?, isBlank first = false) :
    trimStart chars = chars := by
  cases chars with
  | nil => rfl
  | cons char rest => exact List.dropWhile_cons_of_neg (by simp [h char rfl])

/-- A text that starts with no blank is its own trimmed start. -/
theorem trim_start_cons (h : isBlank char = false) (rest : List Char) :
    trimStart (char :: rest) = char :: rest :=
  trim_start_eq_self fun _ hfirst => Option.some.inj hfirst ▸ h

/-- Blanks before a text are taken off with those that it begins with. -/
theorem trim_start_append (h : ∀ char ∈ before, isBlank char = true) (rest : List Char) :
    trimStart (before ++ rest) = trimStart rest :=
  List.dropWhile_append_of_pos h

/-! ## The end -/

/-- Trimming the end drops characters from the end while they are blanks. -/
theorem trim_end_eq (chars : List Char) : trimEnd chars = chars.rdropWhile isBlank := rfl

/-- Where the last character is no blank, there is nothing to take off the end. -/
theorem trim_end_eq_self (h : ∀ last ∈ chars.getLast?, isBlank last = false) :
    trimEnd chars = chars := by
  refine List.rdropWhile_eq_self_iff.mpr fun nonempty => ?_
  simpa using h _ (List.getLast?_eq_some_getLast nonempty)

/-- The last character of a trimmed text is no blank. -/
theorem last_of_trim_end : ∀ last ∈ (trimEnd chars).getLast?, isBlank last = false := by
  rw [trim_end_eq]
  intro last h
  obtain ⟨nonempty, rfl⟩ := List.mem_getLast?_eq_getLast h
  simpa using List.rdropWhile_last_not isBlank chars nonempty

/-- Nothing before a character that is no blank is taken off the end. -/
theorem trim_end_append (h : ∀ last ∈ before.getLast?, isBlank last = false) (rest : List Char) :
    trimEnd (before ++ rest) = before ++ trimEnd rest := by
  induction rest using List.reverseRecOn with
  | nil => simpa [trimEnd] using trim_end_eq_self h
  | append_singleton rest last ih =>
      simp only [trim_end_eq, ← List.append_assoc] at ih ⊢
      by_cases hlast : isBlank last = true
      · rw [List.rdropWhile_concat_pos _ _ _ hlast, List.rdropWhile_concat_pos _ _ _ hlast, ih]
      · rw [List.rdropWhile_concat_neg _ _ _ hlast, List.rdropWhile_concat_neg _ _ _ hlast,
          List.append_assoc]

/-- A first character that is no blank stays when the end is trimmed. -/
theorem trim_end_cons (h : isBlank char = false) (rest : List Char) :
    trimEnd (char :: rest) = char :: trimEnd rest := by
  have hlast : ∀ last ∈ [char].getLast?, isBlank last = false := by simpa using h
  exact trim_end_append hlast rest

/-! ## Both ends -/

/-- A text that neither begins nor ends with a blank stays as it is. -/
theorem trim_chars_of_ends (hfirst : ∀ first ∈ chars.head?, isBlank first = false)
    (hlast : ∀ last ∈ chars.getLast?, isBlank last = false) : trimChars chars = chars := by
  rw [trimChars, trim_start_eq_self hfirst, trim_end_eq_self hlast]

/-- A text without blanks is its own trimmed form. -/
theorem trim_chars_eq_self (h : ∀ char ∈ chars, isBlank char = false) : trimChars chars = chars :=
  trim_chars_of_ends (fun _ hfirst => h _ (List.mem_of_head? hfirst))
    fun _ hlast => h _ (List.mem_of_getLast? hlast)

/-- What follows the first character that is no blank loses the blanks at its end. -/
theorem trim_chars_cons (h : trimStart chars = char :: rest) :
    trimChars chars = char :: trimEnd rest := by
  rw [trimChars, h, trim_end_cons (not_blank_of_trim_start h)]

/-- A trimmed text starts as it does when only its start is trimmed. -/
theorem head_trim_chars (chars : List Char) :
    (trimChars chars).head? = (trimStart chars).head? := by
  cases hstart : trimStart chars with
  | nil => simp [trimChars, hstart, trimEnd]
  | cons char rest => rw [trim_chars_cons hstart, List.head?_cons, List.head?_cons]

/-- The ends can be trimmed in either order. -/
theorem trim_start_trim_end (chars : List Char) : trimStart (trimEnd chars) = trimChars chars := by
  have hsplit : chars.takeWhile isBlank ++ trimStart chars = chars :=
    List.takeWhile_append_dropWhile
  have hblank : ∀ char ∈ chars.takeWhile isBlank, isBlank char = true := fun _ hchar =>
    List.mem_takeWhile_imp hchar
  cases hstart : trimStart chars with
  | nil =>
      rw [hstart, List.append_nil] at hsplit
      have hend : trimEnd chars = [] := List.rdropWhile_eq_nil_iff.mpr (hsplit ▸ hblank)
      rw [hend, trimChars, hstart]
      rfl
  | cons char rest =>
      have hfirst := not_blank_of_trim_start hstart
      have hlast : ∀ last ∈ (chars.takeWhile isBlank ++ [char]).getLast?, isBlank last = false := by
        simpa using hfirst
      have hend : trimEnd chars = chars.takeWhile isBlank ++ [char] ++ trimEnd rest := by
        rw [← trim_end_append hlast, List.append_assoc, List.singleton_append, ← hstart, hsplit]
      rw [hend, List.append_assoc, trim_start_append hblank, trim_chars_cons hstart]
      exact trim_start_cons hfirst _

/-- A text is what is left of it between the blanks that it begins and ends with. -/
theorem exists_blanks_around (chars : List Char) : ∃ before after : List Char,
    chars = before ++ (trimChars chars ++ after) ∧ (∀ char ∈ before, isBlank char = true) ∧
      ∀ char ∈ after, isBlank char = true := by
  refine ⟨chars.takeWhile isBlank, (trimStart chars).rtakeWhile isBlank, ?_,
    fun char hchar => List.mem_takeWhile_imp hchar, fun char hchar => List.mem_rtakeWhile_imp hchar⟩
  show chars = _ ++ ((trimStart chars).rdropWhile isBlank ++ _)
  rw [List.rdropWhile_append_rtakeWhile]
  exact List.takeWhile_append_dropWhile.symm

/-- Trimming keeps the characters that are no blanks. -/
theorem mem_trim_chars (hblank : isBlank char = false) (h : char ∈ chars) :
    char ∈ trimChars chars := by
  obtain ⟨before, after, hchars, hbefore, hafter⟩ := exists_blanks_around chars
  rw [hchars, List.mem_append, List.mem_append] at h
  rcases h with htaken | hkept | htaken
  · simp [hbefore _ htaken] at hblank
  · exact hkept
  · simp [hafter _ htaken] at hblank

end Spreadsheet.Text
