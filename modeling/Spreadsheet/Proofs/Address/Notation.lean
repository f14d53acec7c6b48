import Spreadsheet.Proofs.Address.Numerals
import Spreadsheet.Proofs.Formula.Grid
import Spreadsheet.Proofs.Text.Blanks

/-!
# Reading and writing addresses

`Spells` says how an address is written: the letters of its column and the digits of its row, each
after the mark it keeps. Reading accepts exactly these texts (`of_chars_eq_ok_iff`), and writing
gives the text that was read with its letters in upper case and without zeros before the row
(`Spells.written`), which is read as the same address again (`spells_chars`).
-/

namespace Spreadsheet

/-! ## Letters of a column -/

namespace Column

variable {word : List Char} {column : Nat}

/-- A letter takes one byte. -/
theorem byte_size_letters (h : ∀ letter ∈ word, letter.isAlpha = true) :
    (String.ofList word).utf8ByteSize = word.length := by
  induction word with
  | nil => rfl
  | cons letter rest ih =>
      obtain ⟨hletter, hrest⟩ := List.forall_mem_cons.mp h
      have hsize : letter.utf8Size = 1 :=
        Text.forall_ascii (fun letter => letter.utf8Size = 1) (Text.ascii_of_letter hletter)
          (by decide)
      rw [String.ofList_cons, String.utf8ByteSize_append, String.utf8ByteSize_singleton, hsize,
        ih hrest, List.length_cons, Nat.add_comm]

/-- Letters are read as the column that they name, if the grid has it. -/
theorem of_letters_eq_ok_iff :
    ofLetters word = .ok column ↔
      (∀ letter ∈ word, letter.isAlpha = true) ∧ value word = column + 1 ∧
        column < columnLimit := by
  unfold ofLetters
  dsimp only
  constructor
  · intro h
    split at h
    · cases h
    · rename_i hcount
      split at h
      · cases h
      · rename_i hfound
        split at h
        · rename_i hlimit
          cases h
          have hletters : ∀ letter ∈ word, letter.isAlpha = true := by
            simpa using List.find?_eq_none.mp hfound
          have hpositive : 0 < value word := by
            cases word with
            | nil => simp at hcount
            | cons letter rest =>
                exact (Nat.pow_pos (by decide)).trans_le (pow_length_le_value letter rest)
          rw [number_eq_value] at hlimit ⊢
          exact ⟨hletters, by omega, hlimit⟩
        · cases h
  · rintro ⟨hletters, hvalue, hlimit⟩
    have hlength : word.length ≤ 3 := length_le_three (by omega)
    have hnonempty : word.isEmpty = false := by
      cases word with
      | nil => cases hvalue
      | cons letter rest => rfl
    have hfound : word.find? (fun letter => !letter.isAlpha) = none := by
      simpa using hletters
    have hnumber : number word - 1 = column := by
      rw [number_eq_value]
      omega
    rw [if_neg (by simp [hnonempty, byte_size_letters hletters, hlength]), hfound]
    simp only [hnumber, if_pos hlimit]

end Column

namespace Address

/-! ## Marks -/

section Marks

variable {chars : List Char}

/-- A mark that was taken off and what was left give the text again. -/
theorem mark_take_mark (chars : List Char) :
    mark (takeMark chars).1 ++ (takeMark chars).2 = chars := by
  unfold takeMark
  split <;> rfl

/-- A mark is a dollar sign or nothing. -/
theorem eq_dollar_of_mem_mark {fixed : Bool} {char : Char} (h : char ∈ mark fixed) : char = '$' := by
  cases fixed with
  | true => exact List.mem_singleton.mp h
  | false => cases h

/-- A mark is taken off characters that do not begin with another one. -/
theorem take_mark_append (fixed : Bool) (h : ∀ rest, chars ≠ '$' :: rest) :
    takeMark (mark fixed ++ chars) = (fixed, chars) := by
  cases fixed with
  | true => rfl
  | false =>
      show takeMark chars = (false, chars)
      unfold takeMark
      split
      · exact absurd rfl (h _)
      · rfl

end Marks

/-! ## The notation -/

/-- Characters spell an address by letters and digits if they are one to three letters that name its
column and digits that stand for the number of its row, each after the mark it keeps. -/
structure Spells (letters digits chars : List Char) (address : Address) : Prop where
  chars_eq : chars =
    mark address.fixedColumn ++ letters ++ (mark address.fixedRow ++ digits)
  letter_count : 1 ≤ letters.length ∧ letters.length ≤ 3
  are_letters : ∀ letter ∈ letters, letter.isAlpha = true
  column : Column.value letters = address.column + 1
  are_digits : ∀ digit ∈ digits, digit.isDigit = true
  row : Nat.ofDigitChars 10 digits 0 = address.row + 1
  in_grid : address.position.InGrid

section Spelling

variable {letters digits chars : List Char} {address : Address}

/-- Letters and digits of the numbers of an address, with its marks, spell it. -/
theorem Spells.of_numerals (hletters : ∀ letter ∈ letters, letter.isAlpha = true)
    (hcolumn : Column.value letters = address.column + 1)
    (hdigits : ∀ digit ∈ digits, digit.isDigit = true)
    (hrow : Nat.ofDigitChars 10 digits 0 = address.row + 1) (hgrid : address.position.InGrid) :
    Spells letters digits
      (mark address.fixedColumn ++ letters ++ (mark address.fixedRow ++ digits)) address where
  chars_eq := rfl
  letter_count := by
    have hlimit : address.column < columnLimit := hgrid.2
    refine ⟨?_, Column.length_le_three (by omega)⟩
    cases letters with
    | nil => cases hcolumn
    | cons letter rest => exact Nat.succ_pos _
  are_letters := hletters
  column := hcolumn
  are_digits := hdigits
  row := hrow
  in_grid := hgrid

/-- What can be read spells the address it is read as. -/
theorem spells_of_chars (h : ofChars chars = .ok address) :
    ∃ letters digits, Spells letters digits chars address := by
  have hgrid := in_grid_of_chars h
  unfold ofChars at h
  dsimp only at h
  split at h
  · cases h
  · obtain ⟨column, hcolumn, h⟩ := bind_eq_ok_iff.mp h
    obtain ⟨hletters, hvalue, -⟩ := Column.of_letters_eq_ok_iff.mp hcolumn
    split at h
    · cases h
    · rename_i hdigits
      split at h
      · cases h
      · rename_i hrow
        split at h
        · cases h
        · cases h
          simp only [Bool.or_eq_true, Bool.not_eq_true', not_or, Bool.not_eq_false,
            List.all_eq_true, decide_eq_true_eq] at hdigits hrow
          have hspells := Spells.of_numerals hletters hvalue hdigits.2
            (by rw [← Number.digits_value_eq]; dsimp only; omega) hgrid
          rw [mark_take_mark, List.append_assoc, List.takeWhile_append_dropWhile,
            mark_take_mark] at hspells
          exact ⟨_, _, hspells⟩

/-- In front of letters just the mark is taken. -/
theorem take_mark_letters (hletters : ∀ letter ∈ letters, letter.isAlpha = true)
    (hnonempty : letters ≠ []) (fixed : Bool) (rest : List Char) :
    takeMark (mark fixed ++ (letters ++ rest)) = (fixed, letters ++ rest) := by
  refine take_mark_append _ fun after hafter => ?_
  cases letters with
  | nil => exact hnonempty rfl
  | cons letter others =>
      obtain ⟨rfl, -⟩ := List.cons.inj hafter
      exact absurd (hletters _ List.mem_cons_self) (by decide)

/-- In front of digits just the mark is taken. -/
theorem take_mark_digits (hdigits : ∀ digit ∈ digits, digit.isDigit = true) {fixed : Bool} :
    takeMark (mark fixed ++ digits) = (fixed, digits) := by
  refine take_mark_append _ fun rest hrest => ?_
  exact absurd (hdigits '$' (hrest ▸ List.mem_cons_self)) (by decide)

/-- Letters end where a mark or a digit follows. -/
theorem letters_before_digits (hletters : ∀ letter ∈ letters, letter.isAlpha = true) (fixed : Bool)
    (hdigits : ∀ digit ∈ digits, digit.isDigit = true) :
    (letters ++ (mark fixed ++ digits)).takeWhile Char.isAlpha = letters ∧
      (letters ++ (mark fixed ++ digits)).dropWhile Char.isAlpha = mark fixed ++ digits := by
  rw [List.takeWhile_append_of_pos hletters, List.dropWhile_append_of_pos hletters]
  cases fixed with
  | true => exact ⟨List.append_nil _, rfl⟩
  | false =>
      cases digits with
      | nil => exact ⟨List.append_nil _, rfl⟩
      | cons digit rest =>
          have hdigit := Text.digit_not_letter (hdigits digit List.mem_cons_self)
          simp [mark, hdigit]

/-- What spells an address is read as that address. -/
theorem Spells.of_chars (h : Spells letters digits chars address) :
    ofChars chars = .ok address := by
  have hletters : letters ≠ [] := List.length_pos_iff.mp h.letter_count.1
  have hdigits : digits ≠ [] := by
    rintro rfl
    exact absurd h.row (by simp)
  have hcolumnMark : takeMark chars =
      (address.fixedColumn, letters ++ (mark address.fixedRow ++ digits)) := by
    rw [h.chars_eq, List.append_assoc]
    exact take_mark_letters h.are_letters hletters _ _
  obtain ⟨hword, hrest⟩ := letters_before_digits h.are_letters address.fixedRow h.are_digits
  have hcolumn := Column.of_letters_eq_ok_iff.mpr ⟨h.are_letters, h.column, h.in_grid.2⟩
  have hrow : address.row + 1 ≤ rowLimit := h.in_grid.1
  have hlimit : address.row + 1 < digitsLimit := hrow.trans_lt (by decide)
  unfold ofChars
  simp only [hcolumnMark, hword, hrest, take_mark_digits h.are_digits, hcolumn,
    Number.digits_value_eq, h.row]
  rw [if_neg (by simpa using hletters)]
  show (if _ then _ else _) = _
  rw [if_neg (by simpa [hdigits] using h.are_digits), if_neg (by simpa using hlimit),
    if_neg (Nat.not_lt.mpr hrow)]
  rfl

/-- An address is read from exactly those characters that spell it. -/
theorem of_chars_eq_ok_iff :
    ofChars chars = .ok address ↔ ∃ letters digits, Spells letters digits chars address :=
  ⟨spells_of_chars, fun ⟨_, _, h⟩ => h.of_chars⟩

/-! ## Writing -/

/-- An address is written as it was spelled, with its letters in upper case and without zeros before
the row. -/
theorem Spells.written (h : Spells letters digits chars address) :
    address.chars = mark address.fixedColumn ++ letters.map Char.toUpper ++
      (mark address.fixedRow ++ digits.dropWhile (· == '0')) := by
  have hpositive : 0 < Nat.ofDigitChars 10 digits 0 := by
    rw [h.row]
    exact Nat.succ_pos _
  rw [Address.chars, Column.letters_of_value h.are_letters h.column,
    ← Number.to_digits_of_digit_chars h.are_digits hpositive, h.row]

/-- What is written for an address of the grid spells it. -/
theorem spells_chars (hgrid : address.position.InGrid) :
    Spells (Column.letters address.column) (Nat.toDigits 10 (address.row + 1)) address.chars
      address := by
  refine .of_numerals (fun letter hletter => ?_) (Column.value_letters _)
    (fun digit => Nat.isDigit_of_mem_toDigits (by decide) (by decide))
    Nat.ofDigitChars_ten_toDigits hgrid
  show (letter.isUpper || letter.isLower) = true
  rw [Column.upper_letters _ letter hletter]
  rfl

/-- There are no blanks in an address. -/
theorem Spells.not_blank (h : Spells letters digits chars address) :
    ∀ char ∈ chars, Text.isBlank char = false := by
  have hmark : ∀ fixed, ∀ char ∈ mark fixed, Text.isBlank char = false := fun _ char hchar =>
    eq_dollar_of_mem_mark hchar ▸ by decide
  rw [h.chars_eq]
  simp only [List.forall_mem_append]
  exact ⟨⟨hmark _, fun letter hletter => Text.letter_not_blank (h.are_letters letter hletter)⟩,
    hmark _, fun digit hdigit => Text.digit_not_blank (h.are_digits digit hdigit)⟩

/-- An address of the grid is read from its written form. -/
theorem parse_written (hgrid : address.position.InGrid) : parse address.render = .ok address := by
  have hspells := spells_chars hgrid
  rw [parse, render, String.toList_ofList, Text.trim_chars_eq_self hspells.not_blank]
  exact hspells.of_chars

/-- Reading accepts exactly the notation, whose numerals are those of the address and whose marks it
keeps; writing gives the text that was read in its normal form, and what is written for an address of
the grid is read as that address. -/
theorem parse_iff_spells_and_render :
    (∀ (text : String) (address : Address), parse text = .ok address ↔
        ∃ letters digits, Spells letters digits (Text.trim text).toList address) ∧
      (∀ (letters digits : List Char) (text : String) (address : Address),
        Spells letters digits (Text.trim text).toList address →
        address.render = String.ofList (mark address.fixedColumn ++ letters.map Char.toUpper ++
          (mark address.fixedRow ++ digits.dropWhile (· == '0')))) ∧
      ∀ address : Address, address.position.InGrid → parse address.render = .ok address := by
  refine ⟨fun text address => ?_, fun letters digits text address h => ?_, fun _ => parse_written⟩
  · rw [Text.trim, String.toList_ofList]
    exact of_chars_eq_ok_iff
  · rw [render, h.written]

/-- The last cell of the grid, in mixed case and with zeros before its row. -/
theorem parse_iff_spells_and_render_of_last_cell :
    parse " $xfD$001048576 " = .ok ⟨1048575, 16383, true, true⟩ ∧
      render ⟨1048575, 16383, true, true⟩ = "$XFD$1048576" ∧
      parse "$XFD$1048576" = .ok ⟨1048575, 16383, true, true⟩ := by
  have hspells : Spells "xfD".toList "001048576".toList (Text.trim " $xfD$001048576 ").toList
      ⟨1048575, 16383, true, true⟩ :=
    ⟨rfl, by decide, by simp, rfl, by simp, rfl, by decide⟩
  obtain ⟨hread, hwrite, hagain⟩ := parse_iff_spells_and_render
  have hrender : render ⟨1048575, 16383, true, true⟩ = "$XFD$1048576" := hwrite _ _ _ _ hspells
  exact ⟨(hread _ _).mpr ⟨_, _, hspells⟩, hrender, hrender ▸ hagain _ (by decide)⟩

end Spelling

end Address

end Spreadsheet
