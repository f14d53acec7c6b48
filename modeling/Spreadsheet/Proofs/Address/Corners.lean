import Spreadsheet.Proofs.Address.Notation

/-!
# The corners of a range

A range is written by two addresses that a colon joins, or by one. `Names` says which texts are
ranges, and `Blames` which corner of another text is reported: the first that is no address, with its
own refusal (`parse_names_or_blames`). A range that has been read is written by both corners if it has
more than one cell, and by the first corner alone otherwise, so a single cell whose corners have
different marks loses those of the last (`parse_render_eq_iff`).
-/

namespace Spreadsheet

/-! ## Why a text is no address -/

/-- Letters are refused as a column if there are more than three of them, or if the grid has no such
column. -/
theorem Column.error_of_letters {word : List Char} {refusal : DocumentError} (hnonempty : word ≠ [])
    (hletters : ∀ letter ∈ word, letter.isAlpha = true) (h : ofLetters word = .error refusal) :
    (3 < word.length ∧ refusal = .invalidAddress (.letterCount (String.ofList word))) ∨
      ∃ column, columnLimit ≤ column ∧ refusal = .columnOutOfBounds column := by
  have hfound : word.find? (fun letter => !letter.isAlpha) = none := by
    simpa using hletters
  unfold ofLetters at h
  simp only [hfound, byte_size_letters hletters, Bool.or_eq_true, List.isEmpty_iff, hnonempty,
    decide_eq_true_eq, false_or] at h
  split at h
  · rename_i hlong
    cases h
    exact Or.inl ⟨hlong, rfl⟩
  · split at h
    · cases h
    · rename_i hlimit
      cases h
      exact Or.inr ⟨_, le_min (Nat.not_lt.mp hlimit) (by decide), rfl⟩

namespace Address

variable {letters digits chars : List Char} {address : Address} {refusal : DocumentError}

/-- What a text is refused for as an address: a row or a column beyond the grid, or the form of the
text, which is reported with the text itself or with its letters if there are too many. -/
inductive Refusal (text : String) : DocumentError → Prop where
  | row {row : Nat} (hrow : rowLimit ≤ row) : Refusal text (.rowOutOfBounds row)
  | column {column : Nat} (hcolumn : columnLimit ≤ column) :
      Refusal text (.columnOutOfBounds column)
  | malformed : Refusal text (.invalidAddress (.malformed (Text.trim text)))
  | letterCount {letters : List Char} (hcount : 3 < letters.length) :
      Refusal text (.invalidAddress (.letterCount (String.ofList letters)))

/-- An address that cannot be read is refused for one of these reasons. -/
theorem refusal_of_parse {text : String} (h : parse text = .error refusal) :
    Refusal text refusal := by
  unfold parse ofChars at h
  dsimp only at h
  split at h
  · cases h
    exact .malformed
  · rename_i hletters
    rcases bind_eq_error_iff.mp h with hcolumn | ⟨column, hcolumn, h⟩
    · rcases Column.error_of_letters (by simpa using hletters)
        (fun letter hletter => List.mem_takeWhile_imp hletter) hcolumn with
        ⟨hcount, rfl⟩ | ⟨column, hlimit, rfl⟩
      · exact .letterCount hcount
      · exact .column hlimit
    · split at h
      · cases h
        exact .malformed
      · split at h
        · cases h
          exact .malformed
        · split at h
          · rename_i hbeyond
            cases h
            exact .row (Nat.le_sub_one_of_lt hbeyond)
          · cases h

/-- There is nothing in an address but marks, letters and digits. -/
theorem Spells.not_mem (h : Spells letters digits chars address) {char : Char} (hmark : char ≠ '$')
    (hletter : char.isAlpha = false) (hdigit : char.isDigit = false) : char ∉ chars := by
  have habsent : ∀ fixed, char ∉ mark fixed := fun _ hmem => hmark (eq_dollar_of_mem_mark hmem)
  rw [h.chars_eq]
  simp only [List.mem_append, not_or]
  refine ⟨⟨habsent _, fun hmem => ?_⟩, habsent _, fun hmem => ?_⟩
  · simp [h.are_letters _ hmem] at hletter
  · simp [h.are_digits _ hmem] at hdigit

/-- No colon stands in an address, so that the first one of a range divides its corners. -/
theorem Spells.not_colon (h : Spells letters digits chars address) : ':' ∉ chars :=
  h.not_mem (by decide) (by decide) (by decide)

/-- A text that is an address has nothing but blanks around the marks, letters and digits. -/
theorem not_mem_of_parse {text : String} (h : parse text = .ok address) {char : Char}
    (hmark : char ≠ '$') (hletter : char.isAlpha = false) (hdigit : char.isDigit = false)
    (hblank : Text.isBlank char = false) : char ∉ text.toList := by
  obtain ⟨letters, digits, hspells⟩ := of_chars_eq_ok_iff.mp h
  exact fun hchar => hspells.not_mem hmark hletter hdigit (Text.mem_trim_chars hblank hchar)

/-- A text with a colon is no address. -/
theorem not_colon_of_parse {text : String} (h : parse text = .ok address) : ':' ∉ text.toList :=
  not_mem_of_parse h (by decide) (by decide) (by decide) (by decide)

end Address

namespace CellRange

/-! ## Which texts are ranges -/

/-- Characters name a range if they are one address, or two that their first colon joins. -/
inductive Names : List Char → CellRange → Prop where
  | single {chars : List Char} {address : Address}
      (haddress : Address.parse (String.ofList chars) = .ok address) : Names chars (single address)
  | corners {left right : List Char} {first last : Address} (hfirstColon : ':' ∉ left)
      (hleft : Address.parse (String.ofList left) = .ok first)
      (hright : Address.parse (String.ofList right) = .ok last) :
      Names (left ++ ':' :: right) (ofCorners first last)

/-- The corner that characters are refused for as a range, with what it is refused for as an address:
the only corner, the left one, or the right one if the left one is an address. -/
inductive Blames : List Char → String → DocumentError → Prop where
  | single {chars : List Char} {refusal : DocumentError} (hcolon : ':' ∉ chars)
      (hrefused : Address.parse (String.ofList chars) = .error refusal) :
      Blames chars (String.ofList chars) refusal
  | left {left right : List Char} {refusal : DocumentError} (hfirstColon : ':' ∉ left)
      (hleft : Address.parse (String.ofList left) = .error refusal) :
      Blames (left ++ ':' :: right) (String.ofList left) refusal
  | right {left right : List Char} {first : Address} {refusal : DocumentError}
      (hfirstColon : ':' ∉ left) (hleft : Address.parse (String.ofList left) = .ok first)
      (hright : Address.parse (String.ofList right) = .error refusal) :
      Blames (left ++ ':' :: right) (String.ofList right) refusal

section Reading

variable {chars left right : List Char} {range : CellRange} {refusal : DocumentError}

/-- A text without a colon is read as a range of one cell. -/
theorem of_chars_single (h : ':' ∉ chars) :
    ofChars chars = (do return single (← Address.parse (String.ofList chars))) := by
  have hrest : chars.dropWhile (· != ':') = [] := by
    rw [List.dropWhile_eq_nil_iff]
    intro char hchar
    simpa using ne_of_mem_of_not_mem hchar h
  rw [ofChars, hrest, Address.parse, String.toList_ofList]

/-- A text is divided at its first colon, and its corners are read from left to right. -/
theorem of_chars_corners (h : ':' ∉ left) (right : List Char) :
    ofChars (left ++ ':' :: right) = (do
      return ofCorners (← Address.parse (String.ofList left))
        (← Address.parse (String.ofList right))) := by
  have hleft : ∀ char ∈ left, (char != ':') = true := fun char hchar => by
    simpa using ne_of_mem_of_not_mem hchar h
  have hbefore : (left ++ ':' :: right).takeWhile (· != ':') = left := by
    rw [List.takeWhile_append_of_pos hleft]
    exact List.append_nil _
  have hfrom : (left ++ ':' :: right).dropWhile (· != ':') = ':' :: right := by
    rw [List.dropWhile_append_of_pos hleft]
    rfl
  rw [ofChars, hbefore, hfrom]
  simp only [Address.parse, String.toList_ofList]

/-- Characters have no colon, or a first one. -/
theorem colon_cases (chars : List Char) :
    ':' ∉ chars ∨ ∃ left right, chars = left ++ ':' :: right ∧ ':' ∉ left := by
  by_cases h : ':' ∈ chars
  · exact Or.inr (List.eq_append_cons_of_mem h)
  · exact Or.inl h

/-- What names a range is read as that range. -/
theorem Names.of_chars (h : Names chars range) : ofChars chars = .ok range := by
  cases h with
  | single haddress =>
      have hcolon := Address.not_colon_of_parse haddress
      rw [String.toList_ofList] at hcolon
      rw [of_chars_single hcolon, haddress]
      rfl
  | corners hfirstColon hleft hright =>
      rw [of_chars_corners hfirstColon, hleft, hright]
      rfl

/-- Characters are read as a range exactly if they name it. -/
theorem of_chars_eq_ok_iff : ofChars chars = .ok range ↔ Names chars range := by
  refine ⟨fun h => ?_, Names.of_chars⟩
  rcases colon_cases chars with hcolon | ⟨left, right, rfl, hcolon⟩
  · rw [of_chars_single hcolon] at h
    obtain ⟨address, haddress, h⟩ := bind_eq_ok_iff.mp h
    cases h
    exact .single haddress
  · rw [of_chars_corners hcolon] at h
    obtain ⟨first, hfirst, h⟩ := bind_eq_ok_iff.mp h
    obtain ⟨last, hlast, h⟩ := bind_eq_ok_iff.mp h
    cases h
    exact .corners hcolon hfirst hlast

/-- Characters are refused as a range exactly if one of the corners is to blame, and with its
refusal. -/
theorem of_chars_eq_error_iff :
    ofChars chars = .error refusal ↔ ∃ corner, Blames chars corner refusal := by
  constructor
  · intro h
    rcases colon_cases chars with hcolon | ⟨left, right, rfl, hcolon⟩
    · rw [of_chars_single hcolon] at h
      rcases bind_eq_error_iff.mp h with hrefused | ⟨address, -, h⟩
      · exact ⟨_, .single hcolon hrefused⟩
      · cases h
    · rw [of_chars_corners hcolon] at h
      rcases bind_eq_error_iff.mp h with hleft | ⟨first, hfirst, h⟩
      · exact ⟨_, .left hcolon hleft⟩
      · rcases bind_eq_error_iff.mp h with hright | ⟨last, -, h⟩
        · exact ⟨_, .right hcolon hfirst hright⟩
        · cases h
  · rintro ⟨corner, h⟩
    cases h with
    | single hcolon hrefused =>
        rw [of_chars_single hcolon, hrefused]
        rfl
    | left hfirstColon hleft =>
        rw [of_chars_corners hfirstColon, hleft]
        rfl
    | right hfirstColon hleft hright =>
        rw [of_chars_corners hfirstColon, hleft, hright]
        rfl

/-- The corner to blame is refused as an address of its own. -/
theorem Blames.address_refusal {corner : String} (h : Blames chars corner refusal) :
    Address.Refusal corner refusal := by
  cases h with
  | single _ hrefused => exact Address.refusal_of_parse hrefused
  | left _ hleft => exact Address.refusal_of_parse hleft
  | right _ _ hright => exact Address.refusal_of_parse hright

/-- A text is read as a range exactly if it is one address or two that its first colon joins. Any
other text is refused for its first corner that is no address, just as that corner is on its own: for
a row or a column beyond the grid, or for the form of the corner and not of the range. -/
theorem parse_names_or_blames (text : String) :
    (∀ range, parse text = .ok range ↔ Names (Text.trim text).toList range) ∧
      (∀ refusal, parse text = .error refusal ↔
        ∃ corner, Blames (Text.trim text).toList corner refusal) ∧
      ∀ corner refusal, Blames (Text.trim text).toList corner refusal →
        Address.Refusal corner refusal := by
  rw [Text.trim, String.toList_ofList]
  exact ⟨fun range => of_chars_eq_ok_iff, fun refusal => of_chars_eq_error_iff,
    fun corner refusal => Blames.address_refusal⟩

/-- A malformed corner makes a text no range, but what is reported is a malformed address. -/
theorem malformed_corner_refused_as_address :
    ¬ ∀ (text : String) (fault : AddressFault), parse text ≠ .error (.invalidAddress fault) :=
  fun h => h "A0:B1" (.malformed "A0") rfl

end Reading

/-! ## Writing -/

section Writing

variable {range : CellRange}

/-- A range is made of its own corners. -/
theorem of_corners_first_last (range : CellRange) : ofCorners range.first range.last = range := by
  simp [ofCorners, range.rows_ordered, range.columns_ordered]

/-- A range of several cells is written with both of its corners. -/
theorem render_of_multi (h : range.isMulti = true) :
    range.render = String.ofList (range.first.chars ++ ':' :: range.last.chars) := by
  rw [render, if_pos h]
  apply String.toList_injective
  simp [Address.render, toString]

/-- A range of one cell is written as that cell. -/
theorem render_of_not_multi (h : range.isMulti = false) : range.render = range.first.render := by
  rw [render, if_neg (by simp [h])]

/-- A range that can be named lies inside the grid. -/
theorem Names.in_grid {chars : List Char} (h : Names chars range) : range.InGrid := by
  cases h with
  | single haddress => exact in_grid_single (Address.in_grid_of_chars haddress)
  | corners _ hleft hright =>
      exact in_grid_of_corners (Address.in_grid_of_chars hleft) (Address.in_grid_of_chars hright)

/-- What can be read is a range of the grid. -/
theorem in_grid_of_parse {text : String} (h : parse text = .ok range) : range.InGrid :=
  (of_chars_eq_ok_iff.mp h).in_grid

/-- Where no blanks are to be trimmed, a text is read character by character. -/
theorem parse_of_not_blank {chars : List Char} (h : ∀ char ∈ chars, Text.isBlank char = false) :
    parse (String.ofList chars) = ofChars chars := by
  rw [parse, String.toList_ofList, Text.trim_chars_eq_self h]

/-- A range of more than one cell is read from its written form. -/
theorem parse_render_of_multi (hgrid : range.InGrid) (h : range.isMulti = true) :
    parse range.render = .ok range := by
  have hfirst := hgrid _ range.contains_first
  have hlast := hgrid _ range.contains_last
  have hblanks : ∀ char ∈ range.first.chars ++ ':' :: range.last.chars,
      Text.isBlank char = false := by
    rw [List.forall_mem_append, List.forall_mem_cons]
    exact ⟨(Address.spells_chars hfirst).not_blank, by decide,
      (Address.spells_chars hlast).not_blank⟩
  rw [render_of_multi h, parse_of_not_blank hblanks, of_chars_eq_ok_iff]
  have hnames := Names.corners (Address.spells_chars hfirst).not_colon
    (Address.parse_written hfirst) (Address.parse_written hlast)
  rwa [of_corners_first_last] at hnames

/-- A range of one cell is read from its written form as its first corner. -/
theorem parse_render_of_not_multi (hgrid : range.InGrid) (h : range.isMulti = false) :
    parse range.render = .ok (single range.first) := by
  have hfirst := hgrid _ range.contains_first
  have hblanks := (Address.spells_chars hfirst).not_blank
  rw [render_of_not_multi h, Address.render, parse_of_not_blank hblanks, of_chars_eq_ok_iff]
  exact .single (Address.parse_written hfirst)

/-- A range is that of its first cell alone just if its corners are the same. -/
theorem single_first_eq_iff : single range.first = range ↔ range.first = range.last := by
  obtain ⟨first, last, _, _⟩ := range
  simp [single]

/-- A range that has been read is read again from its written form, unless it is a single cell whose
corners have different marks: then it keeps the marks of its first corner alone. -/
theorem parse_render_eq_iff {text : String} (h : parse text = .ok range) :
    (parse range.render = .ok range ↔ (range.isMulti = false → range.first = range.last)) ∧
      (range.isMulti = false → parse range.render = .ok (single range.first)) := by
  have hgrid := in_grid_of_parse h
  refine ⟨?_, parse_render_of_not_multi hgrid⟩
  cases hmulti : range.isMulti with
  | true => simp [parse_render_of_multi hgrid hmulti]
  | false => simp [parse_render_of_not_multi hgrid hmulti, single_first_eq_iff]

/-- A range with its corners in another order, blanks and leading zeros is put into normal form,
which is read back as the same range. -/
theorem parse_render_eq_iff_of_swapped_corners :
    ∃ range, parse " $b3 : A$01 " = .ok range ∧ range.isMulti = true ∧
      range.render = "A$1:$B3" ∧ parse range.render = .ok range :=
  have h : parse " $b3 : A$01 " = .ok (ofCorners ⟨2, 1, false, true⟩ ⟨0, 0, true, false⟩) := rfl
  ⟨_, h, rfl, rfl, (parse_render_eq_iff h).1.mpr nofun⟩

/-- The marks of the last corner of a single cell are not written. -/
theorem last_marks_lost :
    ¬ ∀ (text : String) (range : CellRange), parse text = .ok range →
      parse range.render = .ok range := by
  intro h
  have hread : parse "A1:$A$1" = .ok (ofCorners ⟨0, 0, false, false⟩ ⟨0, 0, true, true⟩) := rfl
  have hagain : parse "A1" = .ok (single ⟨0, 0, false, false⟩) := rfl
  exact absurd (Except.ok.inj (hagain.symm.trans (h _ _ hread))) (by decide)

end Writing

end CellRange

end Spreadsheet
