import Spreadsheet.Proofs.Address.Numerals
import Spreadsheet.Proofs.Machine.Checked
import Spreadsheet.Proofs.Text.LowerCase
import Spreadsheet.Proofs.Workbook.SheetNames

/-!
# New sheets

A new sheet gets the first numbered name that no sheet has. The numbers are tried one after the
other without an end in sight, but there are no more names taken than there are sheets, so that one
of the first numbers is free. The main theorem, `add_sheet_takes_least_free`, says that a sheet can
always be added: the search ends with the least free number, and the name passes the check for new
names.
-/

namespace Spreadsheet

/-! ## Numbered names -/

/-- A digit is its own lower case. -/
theorem Text.lower_digit {char : Char} (h : char.isDigit = true) : char.toLower = char :=
  forall_ascii (fun char => char.isDigit = true → char.toLower = char) (ascii_of_digit h)
    (by decide) h

namespace Workbook

section Names

variable {number other : Nat}

/-- The name of a numbered sheet is spelled with the digits of its number. -/
theorem to_list_numbered_name :
    (numberedName number).toList = ['S', 'h', 'e', 'e', 't'] ++ Nat.toDigits 10 number := by
  have hname : numberedName number = "Sheet" ++ number.repr := rfl
  rw [hname, String.toList_append, Nat.toList_repr]
  rfl

/-- The lower case of that name is spelled with the same digits. -/
theorem to_list_spelling :
    s!"sheet{number}".toList = ['s', 'h', 'e', 'e', 't'] ++ Nat.toDigits 10 number := by
  have hname : s!"sheet{number}" = "sheet" ++ number.repr := rfl
  rw [hname, String.toList_append, Nat.toList_repr]
  rfl

/-- Different numbers have different names, also in lower case. -/
theorem spelling_injective (h : s!"sheet{number}" = s!"sheet{other}") : number = other := by
  rw [← String.toList_inj, to_list_spelling, to_list_spelling, List.append_cancel_left_eq,
    ← Nat.toList_repr, ← Nat.toList_repr, String.toList_inj] at h
  exact Nat.repr_inj.mp h

/-- The name of a numbered sheet differs from its lower case in the first letter only. -/
theorem lower_numbered_name : Text.lower (numberedName number) = s!"sheet{number}" := by
  have hdigit : ∀ char ∈ Nat.toDigits 10 number, char.isDigit = true := fun char =>
    Nat.isDigit_of_mem_toDigits (by decide) (by decide)
  have hascii : ∀ char ∈ (numberedName number).toList, char.toNat < 0x80 := by
    rw [to_list_numbered_name, List.forall_mem_append]
    exact ⟨by simp, fun char hchar => Text.ascii_of_digit (hdigit char hchar)⟩
  have hdigits : (Nat.toDigits 10 number).map Char.toLower = Nat.toDigits 10 number :=
    (List.map_congr_left fun char hchar => Text.lower_digit (hdigit char hchar)).trans
      (List.map_id' _)
  rw [← String.toList_inj, Text.lower, String.toList_ofList, Text.lower_from_ascii hascii,
    to_list_numbered_name, List.map_append, hdigits, to_list_spelling]
  rfl

/-- Numbered names consist of letters and digits. -/
theorem alphanumeric_numbered_name :
    ∀ char ∈ (numberedName number).toList, char.isAlphanum = true := by
  rw [to_list_numbered_name, List.forall_mem_append]
  refine ⟨List.all_eq_true.mp rfl, fun char hchar => ?_⟩
  rw [Char.isAlphanum, Nat.isDigit_of_mem_toDigits (by decide) (by decide) hchar, Bool.or_true]

/-- The check for new names accepts the numbered names that no sheet has, as long as the number is
not too long. -/
theorem check_numbered_name {book : Workbook} (hnumber : number < 10 ^ 26)
    (hunused : book.sheetIndex (numberedName number) = none) :
    book.checkSheetName (numberedName number) = .ok () := by
  have hlength : (numberedName number).toList.length ≤ sheetNameLimit := by
    have hdigits := (Nat.length_toDigits_le_iff (b := 10) (by decide) (by decide)).mpr hnumber
    rw [to_list_numbered_name, List.length_append]
    exact Nat.add_le_add_left hdigits 5
  have hplain : ∀ char ∈ (numberedName number).toList, char ∉ '\'' :: forbiddenChars := by
    have hother : ('\'' :: forbiddenChars).all (!·.isAlphanum) = true := rfl
    intro char hchar hforbidden
    have hsign := List.all_eq_true.mp hother char hforbidden
    rw [alphanumeric_numbered_name char hchar] at hsign
    cases hsign
  have hnonempty : (numberedName number).toList.isEmpty = false := by
    rw [to_list_numbered_name]
    rfl
  have hfind : (numberedName number).toList.find? forbiddenChars.contains = none :=
    List.find?_eq_none.mpr fun char hchar hforbidden =>
      hplain char hchar (.tail _ (List.contains_iff_mem.mp hforbidden))
  have hends : ¬((numberedName number).toList.head? = some '\'' ∨
      (numberedName number).toList.getLast? = some '\'') := by
    rintro (hhead | hlast)
    · exact hplain _ (List.mem_of_head? hhead) (.head _)
    · exact hplain _ (List.mem_of_getLast? hlast) (.head _)
  unfold checkSheetName
  simp only [hnonempty, Nat.not_lt.mpr hlength, hfind, hends, hunused]
  rfl

end Names

/-! ## The search for a free number -/

/-- The numbers whose names no sheet has, whatever the case. -/
def freeNumbers (book : Workbook) : Set Nat :=
  {number | 1 ≤ number ∧ ∀ sheet ∈ book.sheets, Text.lower sheet.name ≠ s!"sheet{number}"}

/-- The name of a numbered sheet is free exactly if no sheet has it in lower case. -/
theorem sheet_index_numbered_eq_none_iff {book : Workbook} {number : Nat} :
    book.sheetIndex (numberedName number) = none ↔
      ∀ sheet ∈ book.sheets, Text.lower sheet.name ≠ s!"sheet{number}" := by
  rw [sheet_index_eq_none_iff, lower_numbered_name]

/-- One of the first numbers is free, as there is one more of them than there are sheets. -/
theorem exists_free_number (book : Workbook) :
    ∃ number ∈ book.freeNumbers, number ≤ book.sheetCount + 1 := by
  by_contra hnone
  let spellings := (List.range' 1 (book.sheetCount + 1)).map fun number => s!"sheet{number}"
  have hdistinct : spellings.Nodup :=
    (List.nodup_range' 1).map fun _ _ hsame => spelling_injective hsame
  have htaken : spellings ⊆ book.sheets.map fun sheet => Text.lower sheet.name := by
    intro spelling hspelling
    obtain ⟨number, hrange, rfl⟩ := List.mem_map.mp hspelling
    rw [List.mem_range'_1] at hrange
    by_contra hfree
    refine hnone ⟨number, ⟨hrange.1, fun sheet hsheet hname => ?_⟩, by omega⟩
    exact hfree (List.mem_map.mpr ⟨sheet, hsheet, hname⟩)
  have hcount := hdistinct.length_le_of_subset htaken
  rw [List.length_map, List.length_map, List.length_range'] at hcount
  exact Nat.not_succ_le_self _ hcount

/-- The number of a new sheet is the least free one, and one of the first. -/
theorem free_number_least (book : Workbook) :
    IsLeast book.freeNumbers book.freeNumber ∧ book.freeNumber ≤ book.sheetCount + 1 := by
  unfold freeNumber
  cases hfind : (List.range' 1 (book.sheetCount + 1)).find? fun number =>
      (book.sheetIndex (numberedName number)).isNone with
  | none =>
      obtain ⟨number, ⟨hpositive, hfree⟩, hnumber⟩ := book.exists_free_number
      have htaken := List.find?_range'_eq_none.mp hfind number hpositive (by omega)
      rw [sheet_index_numbered_eq_none_iff.mpr hfree] at htaken
      cases htaken
  | some number =>
      obtain ⟨hunused, hrange, hbefore⟩ := List.find?_range'_eq_some.mp hfind
      rw [List.mem_range'_1] at hrange
      rw [Option.isNone_iff_eq_none, sheet_index_numbered_eq_none_iff] at hunused
      refine ⟨⟨⟨hrange.1, hunused⟩, ?_⟩, by rw [Option.getD_some]; omega⟩
      intro other ⟨hpositive, hfree⟩
      by_contra hless
      have htaken := hbefore other hpositive (Nat.lt_of_not_le hless)
      rw [sheet_index_numbered_eq_none_iff.mpr hfree] at htaken
      cases htaken

/-! ## The search on a machine -/

/-- The search for a free number from one on, with a counter of 32 bits of which one is for the
sign. The counter moves on before the number that it held is looked at. Nothing is found if `rounds`
rounds do not suffice. -/
def search (book : Workbook) : (rounds number : Nat) → Machine.Checked (Option Nat)
  | 0, _ => return none
  | rounds + 1, number => do
    let following ← Machine.unsigned 31 (number + 1)
    if (book.sheetIndex (numberedName number)).isNone then return some number
    else search book rounds following

/-- From a number on, the search ends with the first free number, in the round in which it comes to
it, if that number and the one after it fit the counter. -/
theorem search_eq {book : Workbook} {found : Nat}
    (hfound : book.sheetIndex (numberedName found) = none) (hfits : found + 1 < 2 ^ 31)
    {rounds number : Nat} (hrounds : found < number + rounds) (hstart : number ≤ found)
    (hbefore : ∀ earlier, number ≤ earlier → earlier < found →
      book.sheetIndex (numberedName earlier) ≠ none) :
    book.search rounds number = .ok (some found) := by
  induction rounds generalizing number with
  | zero => omega
  | succ rounds ih =>
      have hfollowing : Machine.unsigned 31 (number + 1) = .ok (number + 1) :=
        Machine.unsigned_eq (by omega)
      rw [search, hfollowing]
      show (if _ then _ else book.search rounds (number + 1)) = _
      by_cases hhere : number = found
      · rw [hhere, hfound]
        rfl
      · have htaken := hbefore number (Nat.le_refl _) (by omega)
        rw [if_neg (mt Option.isNone_iff_eq_none.mp htaken)]
        exact ih (by omega) (by omega) fun earlier hle => hbefore earlier (by omega)

/-- A sheet can be added to every workbook of less than a thousand million sheets, whatever their
names. It comes last, and the rest stays as it is. Its number is the least from one on whose name no
sheet has in any case, and that is at most the number of sheets and one. The search finds it in that
many rounds. -/
theorem add_sheet_takes_least_free (book : Workbook) (h : book.sheetCount < 10 ^ 9) :
    IsLeast book.freeNumbers book.freeNumber ∧
    book.freeNumber ≤ book.sheetCount + 1 ∧
    (∀ rounds, book.sheetCount + 1 ≤ rounds → book.search rounds 1 = .ok (some book.freeNumber)) ∧
    book.addSheet = .ok (book.sheetCount,
      { book with sheets := book.sheets ++ [.blank s!"Sheet{book.freeNumber}"] }) := by
  obtain ⟨hleast, hbound⟩ := book.free_number_least
  have hunused := sheet_index_numbered_eq_none_iff.mpr hleast.1.2
  refine ⟨hleast, hbound, fun rounds hrounds => ?_, ?_⟩
  · refine search_eq hunused (by omega) (by omega) hleast.1.1 ?_
    intro earlier hpositive hless hfree
    have hlower := hleast.2 ⟨hpositive, sheet_index_numbered_eq_none_iff.mp hfree⟩
    exact Nat.not_lt.mpr hlower hless
  · have hcheck := check_numbered_name (by omega) hunused
    exact bind_eq_ok_iff.mpr ⟨(), hcheck, rfl⟩

/-- The first and the third name are taken, in other cases; the second one is not, as a zero makes
another name. -/
theorem add_sheet_takes_least_free_in_gap :
    let book : Workbook := { empty with
      sheets := [.blank "SHEET1", .blank "sheet3", .blank "Sheet02"] }
    book.sheetCount < 10 ^ 9 ∧ book.search 4 1 = .ok (some 2) ∧
      book.addSheet = .ok (3, { book with sheets := book.sheets ++ [.blank "Sheet2"] }) := by
  intro book
  have hcount : book.sheetCount < 10 ^ 9 := by decide
  have hnumber : book.freeNumber = 2 := by decide +kernel
  obtain ⟨-, -, hsearch, hadded⟩ := add_sheet_takes_least_free book hcount
  rw [hnumber] at hsearch hadded
  exact ⟨hcount, hsearch 4 (Nat.le_refl _), hadded⟩

end Workbook

end Spreadsheet
