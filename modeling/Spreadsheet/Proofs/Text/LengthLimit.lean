import Mathlib.Algebra.Order.BigOperators.Group.List
import Spreadsheet.Builtin.Registry
import Spreadsheet.Proofs.Aggregate.Arrays
import Spreadsheet.Proofs.Number.WrittenLength

/-!
# The longest text

Only repetition looks at the limit of what it makes, and refuses a text beyond it. Functions that
take a part of a text, or drop spaces from it, cannot go beyond the limit if no operand does. Joined
texts are as long as all of them together, and both cases may lengthen a text, so these functions go
beyond the limit whenever the lengths do. The main theorem is `text_lengths`.
-/

namespace Spreadsheet

/-! ## Cases -/

namespace Text

/-- How many characters a character gains in upper case. -/
def upperGrowth (char : Char) : Nat :=
  ((upperExpansions.lookup char.toNat).map fun codes => codes.length - 1).getD 0

/-- Characters that are expanded are not ASCII, and become some characters. -/
theorem expansions_sized : ∀ expansion ∈ upperExpansions,
    0x80 ≤ expansion.1 ∧ 0 < expansion.2.length := by
  decide

/-- Only characters beyond ASCII are expanded, and none of them to nothing. -/
theorem sized_of_lookup {code : Nat} {codes : List Nat}
    (h : upperExpansions.lookup code = some codes) :
    0x80 ≤ code ∧ 0 < codes.length := by
  obtain ⟨before, after, htable, -⟩ := List.lookup_eq_some_iff.mp h
  exact expansions_sized (code, codes) (by simp [htable])

/-- In upper case a character takes as many characters as it grows by, and one. -/
theorem length_upper_char (char : Char) : (upperChar char).length = 1 + upperGrowth char := by
  unfold upperChar upperGrowth
  cases hlookup : upperExpansions.lookup char.toNat with
  | none => split <;> rfl
  | some codes =>
      obtain ⟨hcode, hsome⟩ := sized_of_lookup hlookup
      rw [if_neg (Nat.not_lt.mpr hcode)]
      simp only [List.length_map, Option.map_some, Option.getD_some]
      omega

/-- Upper case is as much longer as its characters gain. -/
theorem length_upper (text : String) :
    (upper text).length = text.length + (text.toList.map upperGrowth).sum := by
  rw [upper, String.length_ofList, ← String.length_toList, List.length_flatMap]
  simp only [length_upper_char]
  induction text.toList with
  | nil => rfl
  | cons char rest ih =>
      simp only [List.map_cons, List.sum_cons, List.length_cons] at ih ⊢
      omega

/-- Of single characters only the dotted capital I becomes longer in lower case. -/
theorem length_lower_char (char : Char) :
    (lowerChar char).length = if char = 'İ' then 2 else 1 := by
  unfold lowerChar
  split
  · rename_i hascii
    have hplain : char ≠ 'İ' := fun hdotted => absurd (hdotted ▸ hascii) (by decide)
    rw [if_neg hplain]
    rfl
  · split
    · rename_i hcode
      rw [if_pos (Char.toNat_inj.mp hcode)]
      rfl
    · rename_i hcode
      have hplain : char ≠ 'İ' := fun hdotted => hcode (hdotted ▸ rfl)
      rw [if_neg hplain]
      rfl

/-- In lower case a text takes as many characters as it has, and one more for
each dotted capital. -/
theorem length_lower_from (afterCased : Bool) (chars : List Char) :
    (lowerFrom afterCased chars).length = chars.length + chars.count 'İ' := by
  induction chars generalizing afterCased with
  | nil => rfl
  | cons char rest ih =>
      simp only [lowerFrom, List.length_append, ih, List.length_cons, List.count_cons, beq_iff_eq]
      by_cases hsigma : char = 'Σ'
      · subst hsigma
        simp only [↓reduceIte, List.length_singleton, show 'Σ' ≠ 'İ' by decide]
        omega
      · rw [if_neg hsigma, length_lower_char]
        split <;> omega

/-- Lower case is longer by one character for each dotted capital I. -/
theorem length_lower (text : String) :
    (lower text).length = text.length + text.toList.count 'İ' := by
  rw [lower, String.length_ofList, length_lower_from, String.length_toList]

/-! ## Words -/

/-- Each separator belongs to the piece before it, and the last piece has none. -/
theorem length_pieces (separator : Char) (chars : List Char) :
    ((pieces separator chars).map fun piece => piece.length + 1).sum = chars.length + 1 := by
  induction chars with
  | nil => rfl
  | cons char rest ih =>
      unfold pieces
      split
      · rw [List.map_cons, List.sum_cons, ih]
        simp only [List.length_nil, List.length_cons]
        omega
      · split
        · rename_i first others hpieces
          rw [hpieces] at ih
          simp only [List.map_cons, List.sum_cons, List.length_cons] at ih ⊢
          omega
        · rename_i hpieces
          rw [hpieces] at ih
          cases ih

/-- Words are joined with a separator after each of them but the last. -/
theorem length_intercalate (separator : Char) (words : List (List Char)) :
    ([separator].intercalate words).length = (words.map fun word => word.length + 1).sum - 1 := by
  induction words with
  | nil => rfl
  | cons word rest ih =>
      cases rest with
      | nil => simp
      | cons next others =>
          rw [List.intercalate_cons_cons]
          simp only [List.length_append, List.length_singleton, ih, List.map_cons, List.sum_cons]
          omega

end Text

/-! ## Operands -/

namespace Value

/-- The value that stands for an array is one of its single values, unless there is none. -/
theorem scalar_mem_flatten (value : Value) :
    value.scalar ∈ value.flatten ∨ value.scalar = .error .value := by
  fun_induction scalar value with
  | case1 first row rows ih =>
      refine ih.imp_left fun hmem => ?_
      rw [flatten_array, List.flatten_cons, List.cons_append, List.flatMap_cons]
      exact List.mem_append_left _ hmem
  | case2 => exact .inr rfl
  | case3 value _ hsingle =>
      have harray : value.isArray = false := by
        cases value with
        | array rows => exact absurd rfl (hsingle rows)
        | empty | number | text | logical | error => rfl
      rw [flatten_single harray]
      exact .inl (List.mem_singleton_self _)

/-- A value is written in no more characters than a limit that no number and no text
of it exceeds. -/
theorem length_written_le {value : Value} {limit : Nat} (hlimit : Number.lengthBound ≤ limit)
    (h : ∀ content, value = .text content → content.length ≤ limit) :
    value.written.length ≤ limit := by
  cases value with
  | number amount => exact Nat.le_trans (Number.length_render_general_le amount) hlimit
  | text content => exact h content rfl
  | logical truth =>
      have hword : (logical truth).written.length ≤ Number.lengthBound := by
        cases truth <;> decide
      exact Nat.le_trans hword hlimit
  | error fault =>
      have hliteral : (error fault).written.length ≤ Number.lengthBound := by
        cases fault <;> decide
      exact Nat.le_trans hliteral hlimit
  | empty | array => exact Nat.zero_le _

/-- The text that a value stands for is no longer than the texts in it, or than a number. -/
theorem length_to_text_le {value : Value} {limit : Nat} {content : String}
    (hlimit : Number.lengthBound ≤ limit)
    (h : ∀ part, .text part ∈ value.flatten → part.length ≤ limit)
    (htext : value.toText = .ok content) : content.length ≤ limit := by
  rcases value.scalar_mem_flatten with hmem | herror
  · unfold toText at htext
    split at htext
    · cases htext
    · cases htext
      exact length_written_le hlimit fun part hpart => h part (hpart ▸ hmem)
  · rw [toText, herror] at htext
    cases htext

end Value

namespace Builtin

/-- Whether no text among operands, arrays included, is longer than the limit. -/
def TextsFit (operands : List Value) : Prop :=
  ∀ content, .text content ∈ operands.flatMap Value.flatten → content.length ≤ textLimit

/-- Whether what a function gives, if anything, is a text within the limit. -/
def Fits (result : Result) : Prop :=
  ∀ value, result = .ok value → ∃ content, value = .text content ∧ content.length ≤ textLimit

section Limits

variable {operands : List Value} {source : String} {index : Nat}

/-- A text read from operands that fit is no longer than the limit. -/
theorem TextsFit.length_text_le (h : TextsFit operands) (htext : text operands index = .ok source) :
    source.toList.length ≤ textLimit := by
  rw [String.length_toList]
  unfold text at htext
  cases hoperand : operands[index]? with
  | none =>
      rw [hoperand] at htext
      cases htext
      decide
  | some value =>
      rw [hoperand] at htext
      refine Value.length_to_text_le (by decide) (fun part hpart => h part ?_) htext
      exact List.mem_flatMap.mpr ⟨value, List.mem_of_getElem? hoperand, hpart⟩

/-- A text of few enough characters fits. -/
theorem fits_of_chars {chars : List Char} (h : chars.length ≤ textLimit) :
    Fits (.ok (ofChars chars)) := by
  rintro _ ⟨⟩
  exact ⟨_, rfl, by rwa [String.length_ofList]⟩

/-- The result of `LEFT` of texts that fit fits. -/
theorem fits_left (h : TextsFit operands) : Fits (left operands) := by
  intro value hvalue
  obtain ⟨source, hsource, hvalue⟩ := bind_eq_ok_iff.mp hvalue
  obtain ⟨count, -, hvalue⟩ := bind_eq_ok_iff.mp hvalue
  refine fits_of_chars ?_ value hvalue
  exact Nat.le_trans (List.length_take_le' _ _) (h.length_text_le hsource)

/-- The result of `RIGHT` of texts that fit fits. -/
theorem fits_right (h : TextsFit operands) : Fits (right operands) := by
  intro value hvalue
  obtain ⟨source, hsource, hvalue⟩ := bind_eq_ok_iff.mp hvalue
  obtain ⟨count, -, hvalue⟩ := bind_eq_ok_iff.mp hvalue
  refine fits_of_chars ?_ value hvalue
  rw [List.length_drop]
  exact Nat.le_trans (Nat.sub_le _ _) (h.length_text_le hsource)

/-- The result of `MID` of texts that fit fits. -/
theorem fits_middle (h : TextsFit operands) : Fits (middle operands) := by
  intro value hvalue
  obtain ⟨source, hsource, hvalue⟩ := bind_eq_ok_iff.mp hvalue
  obtain ⟨start, -, hvalue⟩ := bind_eq_ok_iff.mp hvalue
  obtain ⟨count, -, hvalue⟩ := bind_eq_ok_iff.mp hvalue
  split at hvalue
  · cases hvalue
  · refine fits_of_chars ?_ value hvalue
    refine Nat.le_trans (List.length_take_le' _ _) ?_
    rw [List.length_drop]
    exact Nat.le_trans (Nat.sub_le _ _) (h.length_text_le hsource)

/-- Leaving single spaces only makes no text longer. -/
theorem length_single_spaced_le (chars : List Char) :
    (singleSpaced chars).length ≤ chars.length := by
  have hpieces := Text.length_pieces ' ' chars
  have hwords : (((Text.pieces ' ' chars).filter fun word => !word.isEmpty).map
        fun word => word.length + 1).sum ≤
      ((Text.pieces ' ' chars).map fun word => word.length + 1).sum :=
    (List.filter_sublist.map _).sum_le_sum fun _ _ => Nat.zero_le _
  rw [singleSpaced, Text.length_intercalate]
  omega

/-- The result of `TRIM` of texts that fit fits. -/
theorem fits_trim (h : TextsFit operands) : Fits (trim operands) := by
  intro value hvalue
  obtain ⟨source, hsource, hvalue⟩ := bind_eq_ok_iff.mp hvalue
  refine fits_of_chars ?_ value hvalue
  exact Nat.le_trans (length_single_spaced_le _) (h.length_text_le hsource)

/-- A text is repeated unless the count is negative or the whole would be beyond the limit. -/
theorem repetition_eq {times : Int} (hsource : text operands 0 = .ok source)
    (htimes : integer operands 1 = .ok times) :
    repetition operands =
      if times < 0 ∨ textLimit < source.length * times.toNat then .error .value
      else .ok (ofChars (List.replicate times.toNat source.toList).flatten) := by
  have hrepeated : repetition operands =
      if times < 0 then .error .value
      else if textLimit < source.toList.length * times.toNat then .error .value
      else if source.toList.isEmpty then .ok (ofChars [])
      else .ok (ofChars (List.replicate times.toNat source.toList).flatten) := by
    rw [repetition, hsource, htimes]
    rfl
  rw [hrepeated, String.length_toList]
  by_cases hnegative : times < 0
  · simp [hnegative]
  · by_cases hlong : textLimit < source.length * times.toNat
    · simp [hnegative, hlong]
    · rw [if_neg hnegative, if_neg hlong, if_neg (not_or.mpr ⟨hnegative, hlong⟩)]
      split
      · rename_i hempty
        rw [List.isEmpty_iff.mp hempty, List.flatten_replicate_nil]
      · rfl

/-- A text repeated some times is so many times as long. -/
theorem length_repeated (source : String) (times : Nat) :
    (List.replicate times source.toList).flatten.length = source.length * times := by
  rw [List.length_flatten, List.map_replicate, List.sum_replicate_nat, String.length_toList,
    Nat.mul_comm]

/-- The result of `REPT` always fits. -/
theorem fits_repetition (operands : List Value) : Fits (repetition operands) := by
  intro value hvalue
  obtain ⟨source, hsource, hrest⟩ := bind_eq_ok_iff.mp hvalue
  obtain ⟨times, htimes, -⟩ := bind_eq_ok_iff.mp hrest
  rw [repetition_eq hsource htimes] at hvalue
  split at hvalue
  · cases hvalue
  · rename_i hwithin
    refine fits_of_chars ?_ value hvalue
    rw [length_repeated]
    exact Nat.not_lt.mp (not_or.mp hwithin).2

/-- The function `CONCATENATE` gives a text that is as long as its operands together. -/
theorem concatenate_eq {texts : List String}
    (h : (operands.flatMap Value.flatten).mapM Value.toText = .ok texts) :
    ∃ content, concatenate operands = .ok (.text content) ∧
      content.length = (texts.map String.length).sum := by
  rw [concatenate, h]
  exact ⟨_, rfl, String.length_join⟩

/-- The function `UPPER` gives a text that is longer by what its characters grow by. -/
theorem upper_eq (h : text operands 0 = .ok source) :
    ∃ content, upper operands = .ok (.text content) ∧
      content.length = source.length + (source.toList.map Text.upperGrowth).sum := by
  rw [upper, h]
  exact ⟨_, rfl, Text.length_upper source⟩

/-- The function `LOWER` gives a text that is longer by the number of dotted capitals. -/
theorem lower_eq (h : text operands 0 = .ok source) :
    ∃ content, lower operands = .ok (.text content) ∧
      content.length = source.length + source.toList.count 'İ' := by
  rw [lower, h]
  exact ⟨_, rfl, Text.length_lower source⟩

end Limits

/-- Whether formulas call a function over values by a name. -/
def Calls (name : String) (apply : List Value → Result) : Prop :=
  ∃ least most, find? name = some (ofValues name least most apply)

/-- Of texts within the limit a part, a text with single spaces and a repeated text are within it,
and of these only the last is ever refused for its length. A joined text is as long as its parts
together, and a text gains some characters in upper case and in lower case, so that these texts are
beyond the limit whenever their lengths are. -/
theorem text_lengths {operands : List Value} (h : TextsFit operands) :
    (∀ function ∈ [("LEFT", left), ("RIGHT", right), ("MID", middle), ("TRIM", trim),
        ("REPT", repetition)], Calls function.1 function.2 ∧ Fits (function.2 operands)) ∧
      (∀ source times, text operands 0 = .ok source → integer operands 1 = .ok times →
        if times < 0 ∨ textLimit < source.length * times.toNat then
          repetition operands = .error .value
        else ∃ content, repetition operands = .ok (.text content) ∧
          content.length = source.length * times.toNat) ∧
      (∀ name ∈ ["CONCATENATE", "CONCAT"], Calls name concatenate) ∧
      (∀ texts, (operands.flatMap Value.flatten).mapM Value.toText = .ok texts →
        ∃ content, concatenate operands = .ok (.text content) ∧
          content.length = (texts.map String.length).sum) ∧
      Calls "UPPER" upper ∧ Calls "LOWER" lower ∧
      ∀ source, text operands 0 = .ok source →
        (∃ content, upper operands = .ok (.text content) ∧
          content.length = source.length + (source.toList.map Text.upperGrowth).sum) ∧
        ∃ content, lower operands = .ok (.text content) ∧
          content.length = source.length + source.toList.count 'İ' := by
  refine ⟨?_, fun source times hsource htimes => ?_, ?_, fun texts => concatenate_eq,
    ⟨_, _, rfl⟩, ⟨_, _, rfl⟩, fun source hsource => ⟨upper_eq hsource, lower_eq hsource⟩⟩
  · simp only [List.forall_mem_cons, List.not_mem_nil, false_implies, implies_true, and_true]
    exact ⟨⟨⟨_, _, rfl⟩, fits_left h⟩, ⟨⟨_, _, rfl⟩, fits_right h⟩, ⟨⟨_, _, rfl⟩, fits_middle h⟩,
      ⟨⟨_, _, rfl⟩, fits_trim h⟩, ⟨_, _, rfl⟩, fits_repetition operands⟩
  · rw [repetition_eq hsource htimes]
    split
    · rfl
    · exact ⟨_, rfl, by rw [String.length_ofList, length_repeated]⟩
  · simp only [List.forall_mem_cons, List.not_mem_nil, false_implies, implies_true, and_true]
    exact ⟨⟨_, _, rfl⟩, _, _, rfl⟩

/-- A sharp s becomes two letters, also as the first element of an array. -/
theorem text_lengths_of_sharp_s :
    let operands : List Value := [.array [[.text "Straße", .logical true]], .text "İ"]
    TextsFit operands ∧ Fits (trim operands) ∧
      (∃ content, concatenate operands = .ok (.text content) ∧ content.length = 11) ∧
      (∃ content, upper operands = .ok (.text content) ∧ content.length = 7) ∧
      ∃ content, lower operands = .ok (.text content) ∧ content.length = 6 := by
  intro operands
  have hfit : TextsFit operands := by
    have hflatten : operands.flatMap Value.flatten = [.text "Straße", .logical true, .text "İ"] :=
      rfl
    intro content hcontent
    rw [hflatten] at hcontent
    simp only [List.mem_cons, Value.text.injEq, reduceCtorEq, List.not_mem_nil, or_false,
      false_or] at hcontent
    rcases hcontent with rfl | rfl
    · decide
    · decide
  obtain ⟨hkept, -, -, hjoined, -, -, hcases⟩ := text_lengths hfit
  obtain ⟨hupper, hlower⟩ := hcases "Straße" rfl
  exact ⟨hfit, (hkept ("TRIM", trim) (by simp)).2, hjoined ["Straße", "TRUE", "İ"] rfl, hupper,
    hlower⟩

/-- A text beyond the limit does not fit. -/
theorem not_fits_of_length {result : Result} (h : ∃ content, result = .ok (.text content) ∧
    textLimit < content.length) : ¬ Fits result := by
  intro hfits
  obtain ⟨content, hresult, hlong⟩ := h
  obtain ⟨_, ⟨⟩, hwithin⟩ := hfits _ hresult
  exact Nat.not_lt.mpr hwithin hlong

/-- Texts that are short enough fit. -/
theorem texts_fit_of_texts (texts : List String)
    (h : ∀ content ∈ texts, content.length ≤ textLimit) : TextsFit (texts.map .text) := by
  intro content hcontent
  rw [flatten_singles (by simp [Value.isArray])] at hcontent
  obtain ⟨_, hmem, ⟨⟩⟩ := List.mem_map.mp hcontent
  exact h _ hmem

/-- A single text is read as it is. -/
theorem text_of_one (source : String) : text [.text source] 0 = .ok source := rfl

/-- Two texts are read as they are. -/
theorem texts_of_two (first second : String) :
    ([.text first, .text second].flatMap Value.flatten).mapM Value.toText =
      .ok [first, second] := rfl

/-- A text of as many characters as the limit allows, all the same. -/
def full (char : Char) : String := String.ofList (List.replicate textLimit char)

/-- A full text is as long as a text may be. -/
theorem length_full (char : Char) : (full char).length = textLimit := by
  rw [full, String.length_ofList, List.length_replicate]

/-- A full text fits. -/
theorem texts_fit_full (char : Char) : TextsFit [.text (full char)] :=
  texts_fit_of_texts [full char] (List.forall_mem_singleton.mpr (Nat.le_of_eq (length_full char)))

/-- Texts within the limit, but beyond it with one more character, and in upper and in lower case if
each character becomes two there. -/
theorem texts_beyond_limit :
    (TextsFit [.text (full 'a'), .text "a"] ∧
      ¬ Fits (concatenate [.text (full 'a'), .text "a"])) ∧
      (TextsFit [.text (full 'ß')] ∧ ¬ Fits (upper [.text (full 'ß')])) ∧
      TextsFit [.text (full 'İ')] ∧ ¬ Fits (lower [.text (full 'İ')]) := by
  have hone : "a".length = 1 := rfl
  have hlimit : 0 < textLimit := by decide
  refine ⟨⟨texts_fit_of_texts [full 'a', "a"] ?_, not_fits_of_length ?_⟩,
    ⟨texts_fit_full 'ß', not_fits_of_length ?_⟩, texts_fit_full 'İ', not_fits_of_length ?_⟩
  · simp only [List.forall_mem_cons, length_full, hone, List.not_mem_nil, false_implies,
      implies_true, and_true]
    exact ⟨Nat.le_refl _, hlimit⟩
  · obtain ⟨content, hjoined, hlength⟩ := concatenate_eq (texts_of_two (full 'a') "a")
    refine ⟨content, hjoined, ?_⟩
    simp only [hlength, List.map_cons, List.map_nil, List.sum_cons, List.sum_nil, length_full, hone]
    omega
  · obtain ⟨content, hupper, hlength⟩ := upper_eq (text_of_one (full 'ß'))
    have hgrowth : Text.upperGrowth 'ß' = 1 := by decide
    have hsum : ((full 'ß').toList.map Text.upperGrowth).sum = textLimit := by
      rw [full, String.toList_ofList, List.map_replicate, List.sum_replicate_nat, hgrowth,
        Nat.mul_one]
    refine ⟨content, hupper, ?_⟩
    rw [hlength, length_full, hsum]
    omega
  · obtain ⟨content, hlower, hlength⟩ := lower_eq (text_of_one (full 'İ'))
    refine ⟨content, hlower, ?_⟩
    rw [hlength, length_full, full, String.toList_ofList, List.count_replicate_self]
    omega

end Builtin

end Spreadsheet
