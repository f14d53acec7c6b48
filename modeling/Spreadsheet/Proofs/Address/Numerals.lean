import Mathlib.Data.List.Induction
import Mathlib.Tactic.Ring
import Spreadsheet.Address.Basic

/-!
# The numerals of an address

An address writes its column in letters and its row in digits. Letters are a bijective numeral: they
count from one to twenty-six and none of them stands for zero, so a column has one spelling up to
case (`letters_of_value`, `value_letters`). Digits may begin with zeros; what is left without these
is the shortest numeral of the number (`to_digits_of_digit_chars`).
-/

namespace Spreadsheet

/-! ## Letters and digits among the ASCII characters -/

namespace Text

variable {char : Char}

/-- What holds of every ASCII code holds of every ASCII character. -/
theorem forall_ascii (property : Char → Prop) (h : char.toNat < 128)
    (hcodes : ∀ code < 128, property (Char.ofNat code)) : property char := by
  have hchar := hcodes char.toNat h
  rwa [Char.ofNat_toNat] at hchar

/-- Letters are ASCII characters. -/
theorem ascii_of_letter (h : char.isAlpha = true) : char.toNat < 128 := by
  have hcases : char.isUpper = true ∨ char.isLower = true := Bool.or_eq_true_iff.mp h
  have hbound : char.toNat ≤ 'Z'.toNat ∨ char.toNat ≤ 'z'.toNat := by
    refine hcases.imp (fun hupper => ?_) fun hlower => ?_
    · exact UInt32.le_iff_toNat_le.mp (of_decide_eq_true hupper).2
    · exact UInt32.le_iff_toNat_le.mp (of_decide_eq_true (Bool.and_eq_true_iff.mp hlower).2)
  have hupper : 'Z'.toNat = 90 := rfl
  have hlower : 'z'.toNat = 122 := rfl
  omega

/-- Digits stand together in the table of characters. -/
theorem digit_range (h : char.isDigit = true) : 48 ≤ char.toNat ∧ char.toNat ≤ 57 := by
  simpa [Char.isDigit, UInt32.le_iff_toNat_le] using h

/-- Digits are ASCII characters. -/
theorem ascii_of_digit (h : char.isDigit = true) : char.toNat < 128 := by
  have hrange := digit_range h
  omega

/-- No digit is a letter. -/
theorem digit_not_letter (h : char.isDigit = true) : char.isAlpha = false :=
  forall_ascii (fun char => char.isDigit = true → char.isAlpha = false) (ascii_of_digit h)
    (by decide) h

/-- No letter is a blank. -/
theorem letter_not_blank (h : char.isAlpha = true) : isBlank char = false :=
  forall_ascii (fun char => char.isAlpha = true → isBlank char = false) (ascii_of_letter h)
    (by decide) h

/-- No digit is a blank. -/
theorem digit_not_blank (h : char.isDigit = true) : isBlank char = false :=
  forall_ascii (fun char => char.isDigit = true → isBlank char = false) (ascii_of_digit h)
    (by decide) h

end Text

/-! ## Letters -/

namespace Column

/-- The number that letters name in bijective base twenty-six: a letter counts from one to
twenty-six, times twenty-six for every letter after it. -/
def value : List Char → Nat
  | [] => 0
  | letter :: rest => letterNumber letter * 26 ^ rest.length + value rest

section Letters

variable {letter : Char} {word : List Char} {column : Nat}

/-- A letter behind others counts for itself, and they count twenty-six times as much as before. -/
theorem value_append_singleton (word : List Char) (letter : Char) :
    value (word ++ [letter]) = value word * 26 + letterNumber letter := by
  induction word with
  | nil => simp [value]
  | cons first rest ih =>
      rw [List.cons_append, value, value, ih, List.length_append, List.length_singleton, pow_succ]
      ring

/-- Reading letters from the left gives the number they name. -/
theorem number_eq_value (word : List Char) : number word = value word := by
  induction word using List.reverseRecOn with
  | nil => rfl
  | append_singleton before letter ih =>
      rw [value_append_singleton, ← ih, number, List.foldl_append]
      rfl

/-- A letter counts for no more than twenty-six. -/
theorem letter_number_le (h : letter.isAlpha = true) : letterNumber letter ≤ 26 :=
  Text.forall_ascii (fun letter => letter.isAlpha = true → letterNumber letter ≤ 26)
    (Text.ascii_of_letter h) (by decide) h

/-- The letter of a number is the letter that the number was read from, in upper case. -/
theorem letter_of_number (h : letter.isAlpha = true) :
    Char.ofNat ('A'.toNat + (letterNumber letter - 1)) = letter.toUpper :=
  Text.forall_ascii (fun letter => letter.isAlpha = true →
    Char.ofNat ('A'.toNat + (letterNumber letter - 1)) = letter.toUpper)
    (Text.ascii_of_letter h) (by decide) h

/-- Letters put before others add their number, times twenty-six for each of the others. -/
theorem value_letters_before {room number : Nat} (hroom : number ≤ room) (word : List Char) :
    value (lettersBefore room number word) = number * 26 ^ word.length + value word := by
  induction room generalizing number word with
  | zero =>
      obtain rfl : number = 0 := by omega
      simp [lettersBefore]
  | succ room ih =>
      cases number with
      | zero => simp [lettersBefore]
      | succ number =>
          have hletter : letterNumber (Char.ofNat ('A'.toNat + number % 26)) = number % 26 + 1 :=
            (by decide : ∀ digit < 26, letterNumber (Char.ofNat ('A'.toNat + digit)) = digit + 1)
              _ (Nat.mod_lt _ (by decide))
          rw [lettersBefore, ih (by omega), value, hletter, List.length_cons, pow_succ]
          have hdivision := Nat.div_add_mod number 26
          calc number / 26 * (26 ^ word.length * 26)
                + ((number % 26 + 1) * 26 ^ word.length + value word)
              = (26 * (number / 26) + number % 26 + 1) * 26 ^ word.length + value word := by
                ring
            _ = (number + 1) * 26 ^ word.length + value word := by rw [hdivision]

/-- The letters put before others are capitals, if the others are. -/
theorem upper_letters_before {room number : Nat} (h : ∀ letter ∈ word, letter.isUpper = true) :
    ∀ letter ∈ lettersBefore room number word, letter.isUpper = true := by
  induction room generalizing number word with
  | zero => simpa only [lettersBefore] using h
  | succ room ih =>
      cases number with
      | zero => simpa only [lettersBefore] using h
      | succ number =>
          refine ih (List.forall_mem_cons.mpr ⟨?_, h⟩)
          exact (by decide : ∀ digit < 26, (Char.ofNat ('A'.toNat + digit)).isUpper = true)
            _ (Nat.mod_lt _ (by decide))

/-- The letters of a number that letters name are these letters in upper case. -/
theorem letters_before_value {room : Nat} (h : ∀ letter ∈ word, letter.isAlpha = true)
    (hroom : value word ≤ room) (after : List Char) :
    lettersBefore room (value word) after = word.map Char.toUpper ++ after := by
  -- the last letter is put down first
  induction word using List.reverseRecOn generalizing room after with
  | nil => cases room <;> rfl
  | append_singleton before letter ih =>
      rw [List.forall_mem_append, List.forall_mem_singleton] at h
      obtain ⟨hbefore, hletter⟩ := h
      have hnumber := letter_number_le hletter
      have hpositive : 0 < letterNumber letter := Nat.succ_pos _
      rw [value_append_singleton] at hroom ⊢
      obtain ⟨room, rfl⟩ : ∃ rest, room = rest + 1 := ⟨room - 1, by omega⟩
      have hsplit : value before * 26 + letterNumber letter =
          value before * 26 + (letterNumber letter - 1) + 1 := by omega
      have hrest : (value before * 26 + (letterNumber letter - 1)) / 26 = value before := by omega
      have hlast : (value before * 26 + (letterNumber letter - 1)) % 26 =
          letterNumber letter - 1 := by omega
      rw [hsplit, lettersBefore, hrest, hlast, letter_of_number hletter, ih hbefore (by omega),
        List.map_append, List.map_singleton, List.append_assoc, List.singleton_append]

/-- The letters of a column name it. -/
theorem value_letters (column : Nat) : value (letters column) = column + 1 := by
  rw [letters, value_letters_before (Nat.le_refl _)]
  simp [value]

/-- A column is written in capitals. -/
theorem upper_letters (column : Nat) : ∀ letter ∈ letters column, letter.isUpper = true :=
  upper_letters_before nofun

/-- A column is written with the letters that name it, in upper case. -/
theorem letters_of_value (h : ∀ letter ∈ word, letter.isAlpha = true)
    (hvalue : value word = column + 1) : Column.letters column = word.map Char.toUpper := by
  rw [Column.letters, ← hvalue, letters_before_value h (Nat.le_refl _), List.append_nil]

/-- A word of letters counts for at least as much as its first letter counts for if that is an A. -/
theorem pow_length_le_value (letter : Char) (rest : List Char) :
    26 ^ rest.length ≤ value (letter :: rest) := by
  have hletter : 26 ^ rest.length ≤ letterNumber letter * 26 ^ rest.length :=
    Nat.le_mul_of_pos_left _ (Nat.succ_pos _)
  exact hletter.trans (Nat.le_add_right _ _)

/-- Columns of the grid have at most three letters. -/
theorem length_le_three (h : value word ≤ columnLimit) : word.length ≤ 3 := by
  cases word with
  | nil => exact Nat.zero_le _
  | cons letter rest =>
      have hpower : 26 ^ rest.length ≤ 16384 := (pow_length_le_value letter rest).trans h
      by_contra hlong
      have hlength : 3 ≤ rest.length := by
        rw [List.length_cons] at hlong
        omega
      have hlarger : 26 ^ 3 ≤ 26 ^ rest.length := Nat.pow_le_pow_right (by decide) hlength
      exact absurd (hlarger.trans hpower) (by decide)

end Letters

end Column

/-! ## Digits -/

namespace Number

/-- Digits are read to the base of ten. -/
theorem digits_value_eq (digits : List Char) : digitsValue digits = Nat.ofDigitChars 10 digits 0 := by
  simp only [digitsValue, Nat.ofDigitChars, Nat.mul_comm]

section Digits

variable {digit : Char} {digits : List Char}

/-- A digit is the numeral of the number it stands for. -/
theorem to_digits_of_digit (h : digit.isDigit = true) :
    Nat.toDigits 10 (digit.toNat - '0'.toNat) = [digit] := by
  have hrange := Text.digit_range h
  have hzero : '0'.toNat = 48 := rfl
  rw [Nat.toDigits_of_lt_base (by omega), List.singleton_inj]
  apply Char.toNat_inj.mp
  rw [Nat.toNat_digitChar_of_lt_ten (by omega)]
  omega

/-- Digits after the numeral of a positive number give the numeral of what all of them stand for. -/
theorem to_digits_append {number : Nat} (hnumber : 0 < number)
    (h : ∀ digit ∈ digits, digit.isDigit = true) :
    Nat.toDigits 10 number ++ digits = Nat.toDigits 10 (Nat.ofDigitChars 10 digits number) := by
  induction digits generalizing number with
  | nil => simp
  | cons digit rest ih =>
      obtain ⟨hdigit, hrest⟩ := List.forall_mem_cons.mp h
      have hrange := Text.digit_range hdigit
      have hzero : '0'.toNat = 48 := rfl
      have hnext := Nat.toDigits_append_toDigits (b := 10) (d := digit.toNat - '0'.toNat)
        (by decide) hnumber (by omega)
      rw [to_digits_of_digit hdigit] at hnext
      rw [Nat.ofDigitChars_cons, ← ih (by omega) hrest, ← hnext, List.append_assoc,
        List.singleton_append]

/-- The numeral of what digits stand for is these digits without the zeros that they begin with. -/
theorem to_digits_of_digit_chars (h : ∀ digit ∈ digits, digit.isDigit = true)
    (hpositive : 0 < Nat.ofDigitChars 10 digits 0) :
    Nat.toDigits 10 (Nat.ofDigitChars 10 digits 0) = digits.dropWhile (· == '0') := by
  induction digits with
  | nil => exact absurd hpositive (by decide)
  | cons digit rest ih =>
      obtain ⟨hdigit, hrest⟩ := List.forall_mem_cons.mp h
      by_cases hzero : digit = '0'
      · subst hzero
        exact ih hrest hpositive
      · have hnonzero : 0 < digit.toNat - '0'.toNat := by
          have hrange := Text.digit_range hdigit
          have hcode : digit.toNat ≠ '0'.toNat := fun hsame => hzero (Char.toNat_inj.mp hsame)
          have hzeroCode : '0'.toNat = 48 := rfl
          omega
        rw [Nat.ofDigitChars_cons, Nat.mul_zero, Nat.zero_add, ← to_digits_append hnonzero hrest,
          to_digits_of_digit hdigit, List.dropWhile_cons_of_neg (by simpa using hzero)]
        rfl

end Digits

end Number

end Spreadsheet
