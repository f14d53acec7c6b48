import Spreadsheet.Proofs.Choices.Editing
import Spreadsheet.Proofs.Text.Blanks
import Spreadsheet.Proofs.Text.Delimiters

/-!
# Writing a choice list and reading it back

`parse_eq_ok_iff` says what a formula is read as: the text between its quotes, with quotes that stand
alone again, cut at its separators. Two theorems follow. `parse_lossless` starts from a formula that
can be read: writing its list gives the formula back, up to blanks and an equals sign in front.
`parse_render_iff` starts from a list, whatever it has gone through: reading what was written gives
it back unless its only item is empty, since a list without items is written in the same way.
-/

namespace Spreadsheet.Choices

open SheetQualifier (undouble double)
open Text (pieces trimChars trimStart trimEnd isBlank EvenRuns)

/-! ## What a formula encloses -/

/-- What is left of a formula without blanks around it, an equals sign that it begins with, and the
blanks after that. -/
def remainder (formula : String) : List Char :=
  match trimChars formula.toList with
  | '=' :: rest => trimStart rest
  | chars => chars

/-- What remains of a formula with an equals sign is the text behind the sign and the blanks after
it. -/
theorem remainder_of_equals {formula : String} {rest : List Char}
    (h : trimChars formula.toList = '=' :: rest) : remainder formula = trimStart rest := by
  rw [remainder, h]
  rfl

/-- What remains of a formula without an equals sign is its text without the blanks around it. -/
theorem remainder_of_ne {formula : String}
    (h : ∀ rest, trimChars formula.toList ≠ '=' :: rest) :
    remainder formula = trimChars formula.toList := by
  unfold remainder
  split
  · exact absurd ‹_› (h _)
  · rfl

/-- Reading takes blanks off both ends once more after the equals sign. There are none
at the end. -/
theorem body_eq_remainder (formula : String) : body formula = remainder formula := by
  unfold body
  split
  · rename_i rest trimmed
    rw [remainder_of_equals trimmed]
    show trimEnd (trimStart rest) = trimStart rest
    refine Text.trim_end_eq_self fun last h => ?_
    obtain ⟨before, split⟩ := List.getLast?_eq_some_iff.mp h
    obtain ⟨blanks, suffix⟩ := List.dropWhile_suffix (l := rest) isBlank
    have kept : last ∈ (trimEnd (trimStart formula.toList)).getLast? → isBlank last = false :=
      Text.last_of_trim_end last
    refine kept ?_
    rw [show trimEnd (trimStart formula.toList) = _ from trimmed, ← suffix,
      show rest.dropWhile isBlank = before ++ [last] from split, ← List.append_assoc,
      ← List.cons_append, List.getLast?_concat]
    rfl
  · rename_i other
    exact (remainder_of_ne other).symm

/-- A text between quotes stays as it is. -/
theorem remainder_quoted (text : List Char) :
    remainder (String.ofList ('"' :: text ++ ['"'])) = '"' :: text ++ ['"'] := by
  have trimmed : trimChars ('"' :: text ++ ['"']) = '"' :: text ++ ['"'] :=
    List.rdropWhile_concat_neg isBlank ('"' :: text) '"' (by decide)
  rw [remainder, String.toList_ofList, trimmed]
  rfl

/-- A text is inside quotes exactly if it is written between two of them. -/
theorem inner_eq_some_iff {chars text : List Char} :
    inner chars = some text ↔ chars = '"' :: text ++ ['"'] := by
  constructor
  · intro h
    unfold inner at h
    split at h
    · rename_i rest
      obtain ⟨last, h⟩ := Option.ite_none_right_eq_some.mp h
      obtain ⟨before, rfl⟩ := List.getLast?_eq_some_iff.mp last
      obtain rfl : before = text := by simpa using h
      rfl
    · cases h
  · rintro rfl
    simp [inner]

/-! ## The list of a text -/

/-- The list whose items stand between the separators of a text. The empty text has no items. -/
def cut (text : List Char) : Choices :=
  if text.isEmpty then empty else ⟨(pieces separator text).map String.ofList⟩

/-- A list is written as its items with a comma between any two. -/
theorem serialized_eq (items : List String) :
    (⟨items⟩ : Choices).serialized.toList = [','].intercalate (items.map String.toList) :=
  String.toList_ofList

/-- Nothing of a text is lost when it is cut. -/
theorem serialized_cut (text : List Char) : (cut text).serialized.toList = text := by
  unfold cut
  split
  · rename_i blank
    rw [List.isEmpty_iff.mp blank]
    rfl
  · have same : (String.toList ∘ String.ofList) = id := funext fun _ => String.toList_ofList
    rw [serialized_eq, List.map_map, same, List.map_id]
    exact Text.intercalate_pieces separator text

/-- No item that a text is cut into has a comma in it. -/
theorem unseparated_cut (text : List Char) : ∀ item ∈ (cut text).items, ',' ∉ item.toList := by
  intro item h
  unfold cut at h
  split at h
  · cases h
  · obtain ⟨piece, among, rfl⟩ := List.mem_map.mp h
    rw [String.toList_ofList]
    exact Text.not_mem_of_mem_pieces among

/-- A list whose items hold no separator is found again by cutting, unless its only item is
empty. -/
theorem cut_serialized {choices : Choices} (unseparated : ∀ item ∈ choices.items, ',' ∉ item.toList)
    (h : choices.items ≠ [""]) : cut choices.serialized.toList = choices := by
  obtain ⟨items⟩ := choices
  cases items with
  | nil => rfl
  | cons first rest =>
      have found : pieces separator (⟨first :: rest⟩ : Choices).serialized.toList =
          (first :: rest).map String.toList := by
        rw [serialized_eq]
        refine Text.pieces_intercalate (fun item among => ?_) (by simp)
        obtain ⟨text, member, rfl⟩ := List.mem_map.mp among
        exact unseparated text member
      have nonempty : (⟨first :: rest⟩ : Choices).serialized.toList.isEmpty = false := by
        refine Bool.eq_false_iff.mpr fun empty => h ?_
        rw [List.isEmpty_iff.mp empty] at found
        obtain ⟨blank, rfl⟩ : [] = first.toList ∧ rest = [] := by simpa [pieces] using found
        rw [String.toList_eq_nil_iff.mp blank.symm]
      have same : String.ofList ∘ String.toList = id := funext fun _ => String.ofList_toList
      rw [cut, nonempty, found, List.map_map, same, List.map_id]
      rfl

/-! ## Reading -/

/-- A text that fits is read as the list that it is cut into. -/
theorem read_text_eq_ok_iff {text : List Char} {choices : Choices} :
    (if text.isEmpty then .ok empty else ofItems ((pieces separator text).map String.ofList)) =
      .ok choices ↔ text.length ≤ 255 ∧ cut text = choices := by
  have length : (cut text).serialized.length = text.length := by
    rw [← String.length_toList, serialized_cut]
  have writable : Writable (cut text) ↔ text.length ≤ 255 := by
    rw [← length]
    exact ⟨Writable.short, fun short => ⟨unseparated_cut text, short⟩⟩
  by_cases blank : text.isEmpty = true
  · obtain rfl : text = [] := by simpa using blank
    simp [cut]
  · rw [if_neg blank, of_items_eq_ok_iff, ← writable, cut, if_neg blank]

/-- A formula is the formula of a list if it encloses a text of at most 255 characters, with each
quote in it written twice. The list is what this text is cut into. -/
theorem parse_eq_ok_iff {formula : String} {choices : Choices} :
    parse formula = .ok choices ↔ ∃ text : List Char,
      remainder formula = '"' :: double '"' text ++ ['"'] ∧ text.length ≤ 255 ∧
        cut text = choices := by
  unfold parse
  rw [body_eq_remainder]
  cases enclosed : inner (remainder formula) with
  | none =>
      simp only [reduceCtorEq, false_iff]
      rintro ⟨text, quoted, -⟩
      rw [inner_eq_some_iff.mpr quoted] at enclosed
      cases enclosed
  | some written =>
      have quoted := inner_eq_some_iff.mp enclosed
      by_cases left : '"' ∈ Choices.withoutPairs '"' written
      · simp only [List.contains_iff_mem, left, if_true, reduceCtorEq, false_iff]
        rintro ⟨text, other, -⟩
        obtain rfl : written = double '"' text := by simpa [quoted] using other
        exact Text.not_mem_without_pairs_double '"' text left
      · simp only [List.contains_iff_mem, left, if_false, read_text_eq_ok_iff]
        constructor
        · rintro ⟨short, made⟩
          exact ⟨undouble '"' written, by rw [Text.double_undouble left, quoted], short, made⟩
        · rintro ⟨text, other, short, made⟩
          obtain rfl : written = double '"' text := by simpa [quoted] using other
          rw [Text.undouble_double]
          exact ⟨short, made⟩

/-- A list is written as a formula that is read as what the text of the list is cut into. -/
theorem parse_render {choices : Choices} (short : choices.serialized.length ≤ 255) :
    parse choices.render = .ok (cut choices.serialized.toList) :=
  parse_eq_ok_iff.mpr ⟨choices.serialized.toList, remainder_quoted _,
    by rwa [String.length_toList], rfl⟩

/-! ## There and back -/

/-- Reading a formula loses nothing: the list is written as the formula, without blanks around it and
without an equals sign in front and the blanks after that. A formula can be read exactly if this is
a text between quotes in which all runs of quotes have even length and which, with each pair of
quotes taken as one, has at most 255 characters. -/
theorem parse_lossless (formula : String) :
    (∀ choices, parse formula = .ok choices → choices.render = String.ofList (remainder formula)) ∧
    ((∃ choices, parse formula = .ok choices) ↔ ∃ text : List Char,
      remainder formula = '"' :: text ++ ['"'] ∧ EvenRuns '"' text ∧
        (undouble '"' text).length ≤ 255) := by
  constructor
  · intro choices h
    obtain ⟨text, quoted, -, rfl⟩ := parse_eq_ok_iff.mp h
    rw [render, serialized_cut, quoted]
  · simp only [parse_eq_ok_iff]
    constructor
    · rintro ⟨choices, text, quoted, short, -⟩
      refine ⟨double '"' text, quoted, ?_, by rwa [Text.undouble_double]⟩
      exact Text.not_mem_without_pairs_iff.mp (Text.not_mem_without_pairs_double '"' text)
    · rintro ⟨text, quoted, even, short⟩
      refine ⟨cut (undouble '"' text), undouble '"' text, ?_, short, rfl⟩
      rw [Text.double_undouble (Text.not_mem_without_pairs_iff.mpr even), quoted]

/-- A run of three quotes leaves one over, a run of four stands for two. -/
example : parse "\"a\"\"\"b\"" = .error (.invalidChoices (.notQuoted "\"a\"\"\"b\"")) ∧
    parse " = \"a\"\"\"\",\" " = .ok ⟨["a\"\"", ""]⟩ := by
  exact ⟨rfl, rfl⟩

/-- After any changes of any list, made or refused, what is written is read as the same list, unless
its only item is empty: then it is read as the list without items. -/
theorem parse_render_iff {choices : Choices} (made : Made choices) (history : List Change) :
    (parse (after history choices).render = .ok (after history choices) ↔
      (after history choices).items ≠ [""]) ∧
    ((after history choices).items = [""] → parse (after history choices).render = .ok empty) := by
  have writable := made.writable.after history
  have lost : (after history choices).items = [""] →
      parse (after history choices).render = .ok empty := by
    intro lone
    rw [parse_render writable.short, serialized_eq, lone]
    rfl
  refine ⟨⟨fun same lone => ?_, fun h => ?_⟩, lost⟩
  · have found := (lost lone).symm.trans same
    rw [← Except.ok.inj found] at lone
    cases lone
  · rw [parse_render writable.short, cut_serialized writable.unseparated h]

/-- A list with quotes, an equals sign and two empty items is read as it was written. -/
theorem parse_render_iff_of_quotes :
    parse "\"say \"\"hi\"\",bye\"" = .ok ⟨["say \"hi\"", "bye"]⟩ ∧
      after [.set 1 "", .insert 1 "=a", .push "", .push "a,b"] ⟨["say \"hi\"", "bye"]⟩ =
        ⟨["say \"hi\"", "=a", "", ""]⟩ ∧
      parse (render ⟨["say \"hi\"", "=a", "", ""]⟩) = .ok ⟨["say \"hi\"", "=a", "", ""]⟩ :=
  have parsed : parse "\"say \"\"hi\"\",bye\"" = .ok ⟨["say \"hi\"", "bye"]⟩ := by rfl
  ⟨parsed, by decide, (parse_render_iff (.formula parsed)
    [.set 1 "", .insert 1 "=a", .push "", .push "a,b"]).1.mpr (by decide)⟩

/-- A list whose only item is empty can be made, but it is written as the list without items. -/
theorem lone_empty_item_lost :
    ofItems [""] = .ok ⟨[""]⟩ ∧ after [.push ""] empty = ⟨[""]⟩ ∧
      render ⟨[""]⟩ = "\"\"" ∧ parse "\"\"" = .ok empty ∧
      ¬ ∀ (choices : Choices), Made choices → ∀ history : List Change,
        parse (after history choices).render = .ok (after history choices) := by
  refine ⟨rfl, by decide, rfl, rfl, fun same => ?_⟩
  have made : ofItems [""] = .ok ⟨[""]⟩ := rfl
  have kept : parse "\"\"" = .ok ⟨[""]⟩ := same ⟨[""]⟩ (.items made) []
  have dropped : parse "\"\"" = .ok empty := rfl
  rw [dropped] at kept
  cases kept

end Spreadsheet.Choices
