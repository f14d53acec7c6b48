import Mathlib.Data.List.Infix
import Spreadsheet.Lookup.Search

/-!
# Wildcards

A wildcard text takes a key apart: an asterisk takes a run of characters, a question mark one, and
everything else itself. `Splits` says so character by character, with no word about expressions or
about how a text is read along them. The main theorem, `is_exact_iff_splits`, says that the keys
that match a wildcard text are those that it takes apart. The expression that is written for it is
read as the pieces of the text, and reading a key along them leaves nothing exactly if it splits.
-/

namespace Spreadsheet.Lookup

/-- A text splits according to the characters of a wildcard text. Behind a tilde every character is
an ordinary one, wildcards too. Ordinary characters take themselves, whatever their case. -/
inductive Splits : (wildcards chars : List Char) → Prop
  | done : Splits [] []
  | run {wildcards rest : List Char} (taken : List Char) :
      Splits wildcards rest → Splits ('*' :: wildcards) (taken ++ rest)
  | one {wildcards rest : List Char} (taken : Char) :
      Splits wildcards rest → Splits ('?' :: wildcards) (taken :: rest)
  | tilde : Splits ['~'] ['~']
  | literal {wildcards rest : List Char} {char taken : Char} : char.toLower = taken.toLower →
      Splits wildcards rest → Splits ('~' :: char :: wildcards) (taken :: rest)
  | itself {wildcards rest : List Char} {char taken : Char} : char ∉ ['*', '?', '~'] →
      char.toLower = taken.toLower →
      Splits wildcards rest → Splits (char :: wildcards) (taken :: rest)

/-- Only upper case letters of ASCII differ from their folded forms. -/
def FoldsAsAscii (chars : List Char) : Prop := ∀ char ∈ chars, Text.foldChar char = char.toLower

instance (chars : List Char) : Decidable (FoldsAsAscii chars) := List.decidableBAll _ chars

/-! ## The expression for a wildcard text -/

/-- The pieces that the characters of a wildcard text stand for. -/
def pieces : List Char → List Piece
  | [] => []
  | ['~'] => [.letter '~']
  | '~' :: char :: rest => .letter char :: pieces rest
  | '*' :: rest => .anyRun :: pieces rest
  | '?' :: rest => .anyOne :: pieces rest
  | char :: rest => .letter char :: pieces rest

/-- A character without a meaning in expressions differs from those with one. -/
theorem ne_meta {char other : Char} (h : ¬isMeta char) (hother : other ∈ metaChars) :
    char ≠ other := by
  rintro rfl
  exact h (List.contains_iff_mem.mpr hother)

/-- An escaped character is read as that character. -/
theorem read_escaped (char : Char) (rest : List Char) :
    readPieces (escaped char ++ rest) = (readPieces rest).map (.letter char :: ·) := by
  unfold escaped
  by_cases special : isMeta char
  · rw [if_pos special]
    show readPieces ('\\' :: char :: rest) = _
    rw [readPieces, if_pos special]
  · rw [if_neg special]
    show readPieces (char :: rest) = _
    rw [readPieces, if_neg special]
    · exact fun equal _ => ne_meta special (by decide) equal
    · exact fun _ _ equal _ => ne_meta special (by decide) equal
    · exact fun _ equal _ => ne_meta special (by decide) equal
    · exact fun equal => ne_meta special (by decide) equal

/-- An escaped character never looks like a star. -/
theorem escaped_ne_star (char : Char) (rest others : List Char) :
    escaped char ++ rest ≠ '*' :: others := by
  unfold escaped
  split
  · exact fun equal => absurd (List.cons.inj equal).1 (by decide)
  · rename_i special
    exact fun equal => ne_meta special (by decide) (List.cons.inj equal).1

/-- No expression repeats what stands before it. -/
theorem translated_ne_star (wildcards others : List Char) :
    translated wildcards ++ ['$'] ≠ '*' :: others := by
  fun_cases translated wildcards with
  | case1 | case4 | case5 => exact fun equal => absurd (List.cons.inj equal).1 (by decide)
  | case2 => exact escaped_ne_star _ _ _
  | case3 | case6 =>
      rw [List.append_assoc]
      exact escaped_ne_star _ _ _

/-- What a wildcard text is translated to is read as its pieces. -/
theorem read_translated (wildcards : List Char) :
    readPieces (translated wildcards ++ ['$']) = some (pieces wildcards) := by
  fun_induction pieces wildcards with
  | case1 => rfl
  | case2 => rfl
  | case3 char rest ih =>
      rw [translated, List.append_assoc, read_escaped, ih]
      rfl
  | case4 rest ih =>
      rw [translated]
      show readPieces ('.' :: '*' :: (translated rest ++ ['$'])) = _
      rw [readPieces, ih]
      rfl
  | case5 rest ih =>
      rw [translated]
      show readPieces ('.' :: (translated rest ++ ['$'])) = _
      rw [readPieces, ih]
      · rfl
      · exact fun _ => translated_ne_star _ _
  | case6 char rest notTilde notEscape notRun notOne ih =>
      rw [translated, List.append_assoc, read_escaped, ih]
      · rfl
      all_goals assumption

/-- The expression for a wildcard text is read as its pieces. -/
theorem read_expression (wildcards : List Char) :
    readExpression (expression wildcards) = some (pieces wildcards) := by
  unfold readExpression expression
  rw [List.append_assoc]
  rw [if_pos (List.isPrefixOf_iff_prefix.mpr (List.prefix_append _ _)), List.drop_left]
  exact read_translated wildcards

/-! ## Reading a text along pieces -/

/-- A piece takes something from the beginning of a text and leaves a rest. -/
def Piece.Takes : Piece → (text rest : List Char) → Prop
  | anyRun, text, rest => rest <:+ text
  | anyOne, text, rest => ∃ first, text = first :: rest
  | letter char, text, rest => ∃ first, Text.sameUpToCase char first ∧ text = first :: rest

/-- The pieces of a pattern take a whole text, one after the other. -/
def TakeAll : List Piece → List Char → Prop
  | [], text => text = []
  | piece :: pattern, text => ∃ rest, piece.Takes text rest ∧ TakeAll pattern rest

/-- What can be left of a text, the longest rest first: each is an end of those before it. -/
def Nested (rests : List (List Char)) : Prop :=
  rests.Pairwise fun longer shorter => shorter <:+ longer

/-- The ends of a text are its suffixes. -/
theorem mem_ends_iff {text rest : List Char} : rest ∈ ends text ↔ rest <:+ text := by
  induction text with
  | nil => rw [ends, List.mem_singleton, List.suffix_nil]
  | cons first text ih => rw [ends, List.mem_cons, ih, List.suffix_cons_iff]

/-- The ends of a text are nested. -/
theorem nested_ends (text : List Char) : Nested (ends text) := by
  induction text with
  | nil => exact List.pairwise_singleton _ _
  | cons first text ih =>
      refine List.pairwise_cons.mpr ⟨fun rest among => ?_, ih⟩
      exact (mem_ends_iff.mp among).trans (List.suffix_cons first text)

/-- Behind their first characters, a suffix is still a suffix. -/
theorem suffix_of_cons_suffix_cons {first second : Char} {shorter longer : List Char}
    (h : second :: shorter <:+ first :: longer) : shorter <:+ longer := by
  obtain equal | inside := List.suffix_cons_iff.mp h
  · rw [(List.cons.inj equal).2]
  · exact (List.suffix_cons second shorter).trans inside

/-- What a piece leaves is what it leaves of one of the texts before it. -/
theorem mem_rests_after_iff {piece : Piece} {rests : List (List Char)} (h : Nested rests)
    {rest : List Char} :
    rest ∈ restsAfter piece rests ↔ ∃ text ∈ rests, piece.Takes text rest := by
  cases piece with
  | anyRun =>
      cases rests with
      | nil => simp [restsAfter]
      | cons longest others =>
          rw [restsAfter, mem_ends_iff]
          refine ⟨fun inside => ⟨longest, List.mem_cons_self, inside⟩, ?_⟩
          rintro ⟨text, among, inside⟩
          obtain rfl | other := List.mem_cons.mp among
          · exact inside
          · exact inside.trans ((List.pairwise_cons.mp h).1 text other)
  | anyOne =>
      rw [restsAfter, List.mem_filterMap]
      refine exists_congr fun text => and_congr_right fun _ => ?_
      cases text <;> simp [Piece.Takes]
  | letter char =>
      rw [restsAfter, List.mem_filterMap]
      refine exists_congr fun text => and_congr_right fun _ => ?_
      cases text <;> simp [Piece.Takes]

/-- What is dropped from nested ends leaves nested ends, if exactly one character goes from each. -/
theorem nested_filter_map {dropped : List Char → Option (List Char)} {rests : List (List Char)}
    (hdropped : ∀ text rest, dropped text = some rest → ∃ first, text = first :: rest)
    (h : Nested rests) : Nested (rests.filterMap dropped) := by
  refine List.Pairwise.filterMap dropped (fun text other inside rest left others right => ?_) h
  obtain ⟨first, rfl⟩ := hdropped text rest left
  obtain ⟨second, rfl⟩ := hdropped other others right
  exact suffix_of_cons_suffix_cons inside

/-- After a piece the rests of a text are nested if those before it were. -/
theorem nested_rests_after (piece : Piece) {rests : List (List Char)} (h : Nested rests) :
    Nested (restsAfter piece rests) := by
  cases piece with
  | anyRun =>
      cases rests with
      | nil => exact .nil
      | cons longest others => exact nested_ends longest
  | anyOne =>
      refine nested_filter_map (fun text rest left => ?_) h
      cases text with
      | nil => cases left
      | cons first text => exact ⟨first, congrArg _ (Option.some.inj left)⟩
  | letter char =>
      refine nested_filter_map (fun text rest left => ?_) h
      cases text with
      | nil => cases left
      | cons first text =>
          obtain ⟨-, left⟩ := Option.ite_none_right_eq_some.mp left
          exact ⟨first, congrArg _ (Option.some.inj left)⟩

/-- The rests after all pieces are what is left where they take something one after the other. -/
theorem nil_mem_rests_iff (pattern : List Piece) {rests : List (List Char)} (h : Nested rests) :
    [] ∈ pattern.foldl (fun rests piece => restsAfter piece rests) rests ↔
      ∃ text ∈ rests, TakeAll pattern text := by
  induction pattern generalizing rests with
  | nil => simp [TakeAll]
  | cons piece pattern ih =>
      rw [List.foldl_cons, ih (nested_rests_after piece h)]
      constructor
      · rintro ⟨rest, among, all⟩
        obtain ⟨text, before, takes⟩ := (mem_rests_after_iff h).mp among
        exact ⟨text, before, rest, takes, all⟩
      · rintro ⟨text, before, rest, takes, all⟩
        exact ⟨rest, (mem_rests_after_iff h).mpr ⟨text, before, takes⟩, all⟩

/-- A pattern fits a text exactly if its pieces take all of it. -/
theorem fits_iff (pattern : List Piece) (text : List Char) :
    fits pattern text ↔ TakeAll pattern text := by
  have reached := nil_mem_rests_iff pattern (List.pairwise_singleton _ text)
  rw [fits, List.any_eq_true]
  simp only [List.isEmpty_iff]
  simpa using reached

/-! ## Pieces and characters -/

section Ascii

variable {wildcards chars rest : List Char} {char first : Char}

/-- Characters that fold as in ASCII are the same up to case exactly if their lower case is. -/
theorem same_up_to_case_iff (hchar : Text.foldChar char = char.toLower)
    (hfirst : Text.foldChar first = first.toLower) :
    Text.sameUpToCase char first ↔ char.toLower = first.toLower := by
  rw [Text.sameUpToCase, beq_iff_eq, hchar, hfirst]

/-- Only a tilde has the lower case of a tilde. -/
theorem eq_tilde_of_same (h : '~'.toLower = first.toLower) : first = '~' := by
  by_cases upper : first.val ≥ 'A'.val ∧ first.val ≤ 'Z'.val
  · have shifted : '~' = (⟨first.val + ('a'.val - 'A'.val), _⟩ : Char) := h.trans (dif_pos upper)
    have code : 126 = (first.toNat + 32) % 4294967296 := by
      simpa using congrArg Char.toNat shifted
    have letter : first.toNat ≤ 90 := UInt32.le_iff_toNat_le.mp upper.2
    omega
  · exact (h.trans (dif_neg upper)).symm

/-- Behind its first character, a text folds as in ASCII if all of it does. -/
theorem FoldsAsAscii.tail (h : FoldsAsAscii (first :: rest)) : FoldsAsAscii rest :=
  fun char among => h char (List.mem_cons_of_mem first among)

/-- A character that is no wildcard takes what splits off as itself. -/
theorem take_letter_iff {pattern : List Piece} (hchar : Text.foldChar char = char.toLower)
    (hchars : FoldsAsAscii chars) :
    TakeAll (.letter char :: pattern) chars ↔
      ∃ first rest, chars = first :: rest ∧ char.toLower = first.toLower ∧
        TakeAll pattern rest := by
  constructor
  · rintro ⟨rest, ⟨first, same, rfl⟩, all⟩
    exact ⟨first, rest, rfl,
      (same_up_to_case_iff hchar (hchars first List.mem_cons_self)).mp same, all⟩
  · rintro ⟨first, rest, rfl, same, all⟩
    exact ⟨rest, ⟨first,
      (same_up_to_case_iff hchar (hchars first List.mem_cons_self)).mpr same, rfl⟩, all⟩

/-- The pieces of a wildcard text take all of a text exactly if it splits accordingly. -/
theorem take_all_pieces_iff (hwildcards : FoldsAsAscii wildcards) (hchars : FoldsAsAscii chars) :
    TakeAll (pieces wildcards) chars ↔ Splits wildcards chars := by
  fun_induction pieces wildcards generalizing chars with
  | case1 => exact ⟨fun none => none ▸ .done, fun h => by cases h; rfl⟩
  | case2 =>
      rw [take_letter_iff rfl hchars]
      constructor
      · rintro ⟨first, rest, rfl, same, rfl⟩
        rw [eq_tilde_of_same same]
        exact .tilde
      · intro h
        cases h with
        | tilde => exact ⟨'~', [], rfl, rfl, rfl⟩
        | itself plain => exact absurd (by decide) plain
  | case3 char wildcards ih =>
      rw [take_letter_iff (hwildcards char (by simp)) hchars]
      constructor
      · rintro ⟨first, rest, rfl, same, all⟩
        exact .literal same ((ih hwildcards.tail.tail hchars.tail).mp all)
      · intro h
        cases h with
        | literal same split =>
            exact ⟨_, _, rfl, same, (ih hwildcards.tail.tail hchars.tail).mpr split⟩
        | itself plain => exact absurd (by decide) plain
  | case4 wildcards ih =>
      constructor
      · rintro ⟨rest, ⟨taken, rfl⟩, all⟩
        refine .run taken ((ih hwildcards.tail ?_).mp all)
        exact fun char among => hchars char (List.mem_append_right taken among)
      · intro h
        cases h with
        | run taken split =>
            refine ⟨_, ⟨taken, rfl⟩, (ih hwildcards.tail ?_).mpr split⟩
            exact fun char among => hchars char (List.mem_append_right taken among)
        | itself plain => exact absurd (by decide) plain
  | case5 wildcards ih =>
      constructor
      · rintro ⟨rest, ⟨taken, rfl⟩, all⟩
        exact .one taken ((ih hwildcards.tail hchars.tail).mp all)
      · intro h
        cases h with
        | one taken split =>
            exact ⟨_, ⟨taken, rfl⟩, (ih hwildcards.tail hchars.tail).mpr split⟩
        | itself plain => exact absurd (by decide) plain
  | case6 char wildcards notTilde notEscape notRun notOne ih =>
      have plain : char ∉ ['*', '?', '~'] := by
        rintro among
        simp only [List.mem_cons, List.not_mem_nil, or_false] at among
        obtain rfl | rfl | rfl := among
        · exact notRun rfl
        · exact notOne rfl
        · cases wildcards with
          | nil => exact notTilde rfl rfl
          | cons next wildcards => exact notEscape next wildcards rfl rfl
      rw [take_letter_iff (hwildcards char List.mem_cons_self) hchars]
      constructor
      · rintro ⟨first, rest, rfl, same, all⟩
        exact .itself plain same ((ih hwildcards.tail hchars.tail).mp all)
      · intro h
        cases h with
        | itself _ same split =>
            exact ⟨_, _, rfl, same, (ih hwildcards.tail hchars.tail).mpr split⟩
        | _ => exact absurd (by decide) plain

end Ascii

/-! ## The law -/

/-- A text with wildcards, if it is small enough, is looked for as a pattern. -/
theorem pattern_of_wildcards {wildcards : String}
    (h : ∃ char ∈ ['*', '?', '~'], char ∈ wildcards.toList)
    (small : patternSize (pieces wildcards.toList) ≤ sizeLimit) :
    patternOf (.text wildcards) = some (pieces wildcards.toList) := by
  have wild : hasWildcard wildcards.toList := by
    obtain ⟨char, special, among⟩ := h
    refine List.any_eq_true.mpr ⟨char, among, ?_⟩
    simpa [or_assoc] using special
  rw [patternOf, pattern?]
  simp only [wild, if_true, read_expression]
  exact Option.filter_some_pos (decide_eq_true small)

/-- What a text with wildcards matches, in characters whose case is that of ASCII. It is written as
an expression that can be read, and unless the pattern takes too much room, the keys that match are
those that split according to the text. -/
theorem is_exact_iff_splits {wildcards key : String}
    (h : ∃ char ∈ ['*', '?', '~'], char ∈ wildcards.toList)
    (hwildcards : FoldsAsAscii wildcards.toList) (hkey : FoldsAsAscii key.toList) :
    ∃ pattern, readExpression (expression wildcards.toList) = some pattern ∧
      (patternSize pattern ≤ sizeLimit →
        (isExact (patternOf (.text wildcards)) (.text wildcards) (.text key) ↔
          Splits wildcards.toList key.toList)) := by
  refine ⟨_, read_expression _, fun small => ?_⟩
  rw [pattern_of_wildcards h small, ← take_all_pieces_iff hwildcards hkey, ← fits_iff]
  rfl

/-- A character that is the only one like it takes the room of its bytes. -/
theorem letter_size_of_only (char : Char) (code : Nat)
    (h : let folded := Text.foldChar char
      let capitals := if folded.isLower then [folded.toUpper.toNat] else []
      folded.toNat :: capitals ++ Text.CaseRun.sources Text.foldRuns folded.toNat = [code]) :
    letterSize char = stateSize * (utf8Bytes char.toNat).length := by
  have alone : Text.caseVariants char = [code] := by
    rw [Text.caseVariants]
    dsimp only at h ⊢
    rw [h, List.mergeSort_singleton]
  rw [letterSize, alone]

/-- A line break, a question mark, a letter and a full stop. -/
theorem is_exact_iff_splits_of_line_break :
    (∃ char ∈ ['*', '?', '~'], char ∈ "?~?*.".toList) ∧ FoldsAsAscii "?~?*.".toList ∧
      FoldsAsAscii "\n?B.".toList ∧
      ∃ pattern, readExpression (expression "?~?*.".toList) = some pattern ∧
        patternSize pattern ≤ sizeLimit ∧ Splits "?~?*.".toList "\n?B.".toList ∧
        isExact (patternOf (.text "?~?*.")) (.text "?~?*.") (.text "\n?B.") := by
  have wild : ∃ char ∈ ['*', '?', '~'], char ∈ "?~?*.".toList := ⟨'?', by decide, by decide⟩
  have hwildcards : FoldsAsAscii "?~?*.".toList := by decide +kernel
  have hkey : FoldsAsAscii "\n?B.".toList := by decide +kernel
  have split : Splits "?~?*.".toList "\n?B.".toList :=
    .one '\n' (.literal rfl (.run ['B'] (.itself (by decide) rfl .done)))
  obtain ⟨pattern, read, law⟩ := is_exact_iff_splits wild hwildcards hkey
  have spelled : pattern = [.anyOne, .letter '?', .anyRun, .letter '.'] := by
    rw [read_expression] at read
    rw [← Option.some.inj read]
    decide
  have small : patternSize pattern ≤ sizeLimit := by
    have mark : letterSize '?' = 32 := letter_size_of_only '?' 63 (by decide +kernel)
    have stop : letterSize '.' = 32 := letter_size_of_only '.' 46 (by decide +kernel)
    rw [spelled, patternSize]
    simp only [List.foldl_cons, List.foldl_nil, Piece.size, mark, stop]
    decide +kernel
  exact ⟨wild, hwildcards, hkey, pattern, read, small, split, (law small).mpr split⟩

end Spreadsheet.Lookup
