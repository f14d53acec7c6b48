import Mathlib.Order.Minimal
import Spreadsheet.Proofs.Aggregate.Cells
import Spreadsheet.Proofs.Text.Delimiters

/-!
# Spacing

The words of a text are its longest stretches without a space. `TRIM` keeps the words in their order
and puts one space between two of them, so that the spaces of the text are gone and all its other
characters are left. The main theorem is `trim_words`. Only the plain space separates words; other
blanks belong to them.
-/

namespace Spreadsheet

namespace Text

/-! ## Stretches of a text -/

/-- A part of a text, from one place up to, but not including, another. -/
structure Stretch where
  start : Nat
  stop : Nat

namespace Stretch

/-- Stretches are compared by what they hold. -/
instance : LE Stretch :=
  ⟨fun inner outer => outer.start ≤ inner.start ∧ inner.stop ≤ outer.stop⟩

/-- The characters that a text has in a stretch. -/
def read (stretch : Stretch) (chars : List Char) : List Char :=
  (chars.take stretch.stop).drop stretch.start

/-- Where a stretch is after characters have been put before the text. -/
def shift (count : Nat) (stretch : Stretch) : Stretch :=
  ⟨count + stretch.start, count + stretch.stop⟩

end Stretch

/-- Whether a stretch of a text holds characters, and no space among them. -/
structure SpaceFree (chars : List Char) (stretch : Stretch) : Prop where
  nonempty : stretch.start < stretch.stop
  inside : stretch.stop ≤ chars.length
  spaceless : ∀ place, stretch.start ≤ place → place < stretch.stop → chars[place]? ≠ some ' '

/-- Whether stretches are the words of a text: in their order, all the longest stretches without a
space. -/
structure AreWords (chars : List Char) (stretches : List Stretch) : Prop where
  ordered : stretches.Pairwise fun left right => left.stop < right.start
  longest : ∀ stretch, stretch ∈ stretches ↔ Maximal (SpaceFree chars) stretch

section Stretches

variable {chars piece rest : List Char} {char : Char} {start stop : Nat} {stretch : Stretch}

/-- A stretch without spaces is one with the character before it, if that is no space. -/
theorem SpaceFree.extend_start (h : SpaceFree chars ⟨start + 1, stop⟩)
    (hother : chars[start]? ≠ some ' ') : SpaceFree chars ⟨start, stop⟩ where
  nonempty := Nat.lt_of_succ_lt h.nonempty
  inside := h.inside
  spaceless place hleast hmost := by
    rcases Nat.eq_or_lt_of_le hleast with rfl | hinner
    · exact hother
    · exact h.spaceless place hinner hmost

/-- A stretch without spaces is one with the character behind it, if that is no space. -/
theorem SpaceFree.extend_stop (h : SpaceFree chars ⟨start, stop⟩)
    (hchar : chars[stop]? = some char) (hother : char ≠ ' ') :
    SpaceFree chars ⟨start, stop + 1⟩ where
  nonempty := Nat.lt_succ_of_lt h.nonempty
  inside := (List.getElem?_eq_some_iff.mp hchar).1
  spaceless place hleast hmost := by
    rcases Nat.eq_or_lt_of_le (Nat.le_of_lt_succ hmost) with rfl | hinner
    · rw [hchar]
      exact fun hspace => hother (Option.some.inj hspace)
    · exact h.spaceless place hleast hinner

/-- A stretch without a space is as long as it can be exactly if what stands before it and after it,
if anything, is a space. -/
theorem maximal_space_free_iff : Maximal (SpaceFree chars) ⟨start, stop⟩ ↔
    SpaceFree chars ⟨start, stop⟩ ∧
      (∀ place, place + 1 = start → chars[place]? = some ' ') ∧
      ∀ char, chars[stop]? = some char → char = ' ' := by
  constructor
  · rintro ⟨hfree, hlongest⟩
    refine ⟨hfree, ?_, fun char hchar => ?_⟩
    · rintro place rfl
      by_contra hother
      have hwithin := hlongest (hfree.extend_start hother) ⟨Nat.le_succ place, Nat.le_refl stop⟩
      exact Nat.not_succ_le_self place hwithin.1
    · by_contra hother
      have hlonger := hfree.extend_stop hchar hother
      have hwithin := hlongest hlonger ⟨Nat.le_refl start, Nat.le_succ stop⟩
      exact Nat.not_succ_le_self stop hwithin.2
  · rintro ⟨hfree, hbefore, hafter⟩
    refine ⟨hfree, fun ⟨first, last⟩ hlonger ⟨hfirst, hlast⟩ => ⟨?_, ?_⟩⟩
    · cases start with
      | zero => exact Nat.zero_le first
      | succ place =>
          by_contra hless
          have hplace : first ≤ place := Nat.le_of_lt_succ (Nat.not_le.mp hless)
          have hstop : place < stop := Nat.lt_of_succ_lt hfree.nonempty
          exact hlonger.spaceless place hplace (Nat.lt_of_lt_of_le hstop hlast) (hbefore place rfl)
    · by_contra hless
      have hstop : stop < last := Nat.not_le.mp hless
      have hbound : stop < chars.length := Nat.lt_of_lt_of_le hstop hlonger.inside
      have hchar := List.getElem?_eq_getElem hbound
      have hstart : start ≤ stop := Nat.le_of_lt hfree.nonempty
      exact hlonger.spaceless stop (Nat.le_trans hfirst hstart) hstop (hafter _ hchar ▸ hchar)

/-- The space stands right behind the piece before it. -/
theorem char_at_space (piece rest : List Char) :
    (piece ++ ' ' :: rest)[piece.length]? = some ' ' := by
  rw [List.getElem?_append_right (Nat.le_refl _), Nat.sub_self, List.getElem?_cons_zero]

/-- What stands behind the space is found the length of the piece and one further on. -/
theorem char_after_space (piece rest : List Char) (place : Nat) :
    (piece ++ ' ' :: rest)[piece.length + 1 + place]? = rest[place]? := by
  rw [List.getElem?_append_right (by omega),
    show piece.length + 1 + place - piece.length = place + 1 by omega, List.getElem?_cons_succ]

/-- A stretch without a space is on one side of every space. -/
theorem SpaceFree.beside_space (h : SpaceFree (piece ++ ' ' :: rest) ⟨start, stop⟩) :
    stop ≤ piece.length ∨ piece.length + 1 ≤ start := by
  by_contra hacross
  obtain ⟨hstop, hstart⟩ := not_or.mp hacross
  exact h.spaceless piece.length (Nat.le_of_lt_succ (Nat.not_le.mp hstart)) (Nat.not_le.mp hstop)
    (char_at_space piece rest)

/-- The stretch of a piece that a text begins with, unless the piece is empty. -/
def leading (piece : List Char) : List Stretch :=
  if piece.isEmpty then [] else [⟨0, piece.length⟩]

/-- The leading stretch of a piece is all of it, if there is any. -/
theorem mem_leading_iff :
    ⟨start, stop⟩ ∈ leading piece ↔ start = 0 ∧ stop = piece.length ∧ 0 < piece.length := by
  cases piece with
  | nil => simp [leading]
  | cons first others => simp [leading]

/-- Within a piece that holds no space, and with a space or nothing after it, the only longest
stretch is the piece itself. -/
theorem maximal_within_leading_iff (tail : List Char) (hpiece : ' ' ∉ piece)
    (htail : ∀ char, tail.head? = some char → char = ' ') (hstop : stop ≤ piece.length) :
    Maximal (SpaceFree (piece ++ tail)) ⟨start, stop⟩ ↔ ⟨start, stop⟩ ∈ leading piece := by
  have hnone : ∀ place, place < piece.length → (piece ++ tail)[place]? ≠ some ' ' := by
    intro place hplace hspace
    rw [List.getElem?_append_left hplace] at hspace
    exact hpiece (List.mem_of_getElem? hspace)
  rw [maximal_space_free_iff, mem_leading_iff]
  constructor
  · rintro ⟨hfree, hbefore, hafter⟩
    have hsome : start < stop := hfree.nonempty
    refine ⟨?_, ?_, Nat.lt_of_lt_of_le (Nat.zero_lt_of_lt hsome) hstop⟩
    · cases start with
      | zero => rfl
      | succ place => exact absurd (hbefore place rfl) (hnone place (by omega))
    · refine Nat.le_antisymm hstop (Nat.not_lt.mp fun hshort => ?_)
      have hchar : (piece ++ tail)[stop]? = some piece[stop] := by
        rw [List.getElem?_append_left hshort, List.getElem?_eq_getElem hshort]
      exact hnone stop hshort (hafter _ hchar ▸ hchar)
  · rintro ⟨rfl, rfl, hsome⟩
    refine ⟨⟨hsome, ?_, fun place _ hplace => hnone place hplace⟩, nofun, fun char hchar => ?_⟩
    · rw [List.length_append]
      exact Nat.le_add_right _ _
    · rw [List.getElem?_append_right (Nat.le_refl _), Nat.sub_self] at hchar
      exact htail char (List.head?_eq_getElem?.trans hchar)

/-- Behind a space, the stretches without spaces are those of the rest, moved on. -/
theorem space_free_after_space_iff :
    SpaceFree (piece ++ ' ' :: rest) ⟨piece.length + 1 + start, piece.length + 1 + stop⟩ ↔
      SpaceFree rest ⟨start, stop⟩ := by
  have hlength : (piece ++ ' ' :: rest).length = piece.length + 1 + rest.length := by
    rw [List.length_append, List.length_cons]
    omega
  constructor
  · rintro ⟨hsome, hinside, hnone⟩
    refine ⟨Nat.lt_of_add_lt_add_left hsome, ?_, fun place hleast hmost => ?_⟩
    · rw [hlength] at hinside
      exact Nat.le_of_add_le_add_left hinside
    · rw [← char_after_space piece rest place]
      exact hnone _ (Nat.add_le_add_left hleast _) (Nat.add_lt_add_left hmost _)
  · rintro ⟨hsome, hinside, hnone⟩
    refine ⟨Nat.add_lt_add_left hsome _, ?_, fun place hleast hmost => ?_⟩
    · rw [hlength]
      exact Nat.add_le_add_left hinside _
    · obtain ⟨inner, rfl⟩ := Nat.exists_eq_add_of_le (Nat.le_of_add_right_le hleast)
      rw [char_after_space]
      exact hnone inner (Nat.le_of_add_le_add_left hleast) (Nat.lt_of_add_lt_add_left hmost)

/-- The longest stretches after a space are those of the rest of the text. -/
theorem maximal_after_space_iff :
    Maximal (SpaceFree (piece ++ ' ' :: rest)) ⟨piece.length + 1 + start, piece.length + 1 + stop⟩ ↔
      Maximal (SpaceFree rest) ⟨start, stop⟩ := by
  rw [maximal_space_free_iff, maximal_space_free_iff, space_free_after_space_iff,
    char_after_space]
  refine and_congr_right' (and_congr_left' ⟨fun h place hplace => ?_, fun h place hplace => ?_⟩)
  · rw [← char_after_space piece rest place]
    exact h _ (by omega)
  -- before the first character of the rest stands the space
  · rcases Nat.eq_or_lt_of_le (show piece.length ≤ place by omega) with rfl | hbehind
    · exact char_at_space piece rest
    · obtain ⟨inner, rfl⟩ := Nat.exists_eq_add_of_le hbehind
      rw [char_after_space]
      exact h inner (by omega)

end Stretches

/-! ## The words between spaces -/

section Words

variable {piece rest : List Char} {pieces : List (List Char)} {stretches : List Stretch}

/-- A piece without spaces has one word, or none if it is empty. -/
theorem are_words_leading (hpiece : ' ' ∉ piece) : AreWords piece (leading piece) where
  ordered := by cases piece <;> simp [leading]
  longest := by
    rintro ⟨start, stop⟩
    have hwithin (hstop : stop ≤ piece.length) :
        Maximal (SpaceFree piece) ⟨start, stop⟩ ↔ ⟨start, stop⟩ ∈ leading piece := by
      simpa using maximal_within_leading_iff [] hpiece nofun hstop
    constructor
    · intro hmem
      obtain ⟨-, hstop, -⟩ := mem_leading_iff.mp hmem
      exact (hwithin (Nat.le_of_eq hstop)).mpr hmem
    · intro hlongest
      exact (hwithin hlongest.prop.inside).mp hlongest

/-- The words before and behind a space are the words of both sides. -/
theorem AreWords.append_space (hpiece : ' ' ∉ piece) (h : AreWords rest stretches) :
    AreWords (piece ++ ' ' :: rest)
      (leading piece ++ stretches.map (Stretch.shift (piece.length + 1))) where
  ordered := by
    refine List.pairwise_append.mpr ⟨(are_words_leading hpiece).ordered, ?_, ?_⟩
    · exact List.pairwise_map.mpr (h.ordered.imp fun hless => Nat.add_lt_add_left hless _)
    · rintro ⟨start, stop⟩ hleading _ hshifted
      obtain ⟨inner, -, rfl⟩ := List.mem_map.mp hshifted
      obtain ⟨-, rfl, -⟩ := mem_leading_iff.mp hleading
      exact Nat.le_add_right _ _
  longest := by
    rintro ⟨start, stop⟩
    rw [List.mem_append, List.mem_map]
    have hwithin (hstop : stop ≤ piece.length) :
        Maximal (SpaceFree (piece ++ ' ' :: rest)) ⟨start, stop⟩ ↔ ⟨start, stop⟩ ∈ leading piece :=
      maximal_within_leading_iff (' ' :: rest) hpiece (by simp) hstop
    constructor
    · rintro (hleading | ⟨⟨first, last⟩, hinner, hshift⟩)
      · obtain ⟨-, hstop, -⟩ := mem_leading_iff.mp hleading
        exact (hwithin (Nat.le_of_eq hstop)).mpr hleading
      · rw [← hshift]
        exact maximal_after_space_iff.mpr ((h.longest _).mp hinner)
    · intro hlongest
      rcases hlongest.prop.beside_space with hstop | hstart
      · exact .inl ((hwithin hstop).mp hlongest)
      · obtain ⟨first, rfl⟩ := Nat.exists_eq_add_of_le hstart
        obtain ⟨last, rfl⟩ := Nat.exists_eq_add_of_le
          (Nat.le_of_lt (Nat.lt_of_le_of_lt hstart hlongest.prop.nonempty))
        exact .inr ⟨_, (h.longest _).mpr (maximal_after_space_iff.mp hlongest), rfl⟩

/-- The stretches of the pieces of a text that are not empty. -/
def wordStretches : List (List Char) → List Stretch
  | [] => []
  | piece :: rest => leading piece ++ (wordStretches rest).map (Stretch.shift (piece.length + 1))

/-- The pieces between the spaces of a text are its words, but for the empty ones. -/
theorem are_words_word_stretches (hpieces : ∀ piece ∈ pieces, ' ' ∉ piece) (hsome : pieces ≠ []) :
    AreWords ([' '].intercalate pieces) (wordStretches pieces) := by
  induction pieces with
  | nil => exact absurd rfl hsome
  | cons piece others ih =>
      obtain ⟨hpiece, hothers⟩ := List.forall_mem_cons.mp hpieces
      cases others with
      | nil =>
          rw [List.intercalate_singleton, wordStretches, wordStretches, List.map_nil,
            List.append_nil]
          exact are_words_leading hpiece
      | cons next others =>
          rw [List.intercalate_cons_cons, List.append_assoc]
          exact (ih hothers (List.cons_ne_nil next others)).append_space hpiece

/-- The leading stretch of a piece is read as the piece, if there is any. -/
theorem read_leading (piece tail : List Char) :
    (leading piece).map (·.read (piece ++ tail)) = [piece].filter fun word => !word.isEmpty := by
  cases piece with
  | nil => rfl
  | cons first others => simp [leading, Stretch.read]

/-- A stretch that is moved on behind a space is read as before. -/
theorem read_shift (stretch : Stretch) (piece rest : List Char) :
    (stretch.shift (piece.length + 1)).read (piece ++ ' ' :: rest) = stretch.read rest := by
  have hsplit : piece ++ ' ' :: rest = (piece ++ [' ']) ++ rest := (List.append_cons _ _ _)
  have hlength : piece.length + 1 = (piece ++ [' ']).length := by simp
  rw [Stretch.read, Stretch.shift, hsplit, hlength, List.take_length_add_append,
    List.drop_length_add_append]
  rfl

/-- What the text has in these stretches are the pieces themselves. -/
theorem read_word_stretches (pieces : List (List Char)) :
    (wordStretches pieces).map (·.read ([' '].intercalate pieces)) =
      pieces.filter fun word => !word.isEmpty := by
  induction pieces with
  | nil => rfl
  | cons piece others ih =>
      rw [wordStretches, List.map_append, List.map_map]
      cases others with
      | nil =>
          rw [List.intercalate_singleton, wordStretches, List.map_nil, List.append_nil]
          simpa using read_leading piece []
      | cons next others =>
          have hshift : (Stretch.read · (piece ++ ' ' :: [' '].intercalate (next :: others))) ∘
              Stretch.shift (piece.length + 1) = (·.read ([' '].intercalate (next :: others))) :=
            funext fun stretch => read_shift stretch piece _
          rw [List.intercalate_cons_cons, List.append_assoc, List.singleton_append, read_leading,
            hshift, ih, ← List.filter_append, List.singleton_append]

end Words

/-! ## Words with one space between two -/

/-- Whether a text neither begins nor ends with a space and has no two spaces side by side. -/
structure NoSpareSpace (chars : List Char) : Prop where
  first : chars.head? ≠ some ' '
  last : chars.getLast? ≠ some ' '
  single : ¬[' ', ' '] <:+: chars

section Joined

variable {word rest chars : List Char} {words : List (List Char)}

/-- A text without a space has none to spare. -/
theorem no_spare_space_of_not_mem (h : ' ' ∉ chars) : NoSpareSpace chars where
  first hfirst := h (List.mem_of_head? hfirst)
  last hlast := h (List.mem_of_getLast? hlast)
  single hpair := h (hpair.subset List.mem_cons_self)

/-- Between two texts without spare spaces, neither of them empty, a space is not spare. -/
theorem NoSpareSpace.append_space (hword : NoSpareSpace word) (hrest : NoSpareSpace rest)
    (hsome : word ≠ []) (hmore : rest ≠ []) : NoSpareSpace (word ++ ' ' :: rest) where
  first := by
    rw [List.head?_append_of_ne_nil _ hsome]
    exact hword.first
  last := by
    rw [List.getLast?_append_cons, List.getLast?_cons_of_ne_nil hmore]
    exact hrest.last
  single hpair := by
    have hbegin : ¬[' ', ' '] <+: ' ' :: rest := by
      rintro ⟨after, hafter⟩
      refine hrest.first ?_
      rw [← (List.cons.inj hafter).2]
      rfl
    rcases List.infix_append_iff.mp hpair with hinner | hinner | ⟨left, right, hsplit, hend, hstart⟩
    · exact hword.single hinner
    · rcases List.infix_cons_iff.mp hinner with hfront | hinner
      · exact hbegin hfront
      · exact hrest.single hinner
    -- two spaces around the place where the first text ends: none, one or both belong to it
    · rcases List.append_eq_cons_iff.mp hsplit.symm with ⟨rfl, rfl⟩ | ⟨second, rfl, hsecond⟩
      · exact hbegin hstart
      · rcases List.append_eq_cons_iff.mp hsecond.symm with ⟨rfl, rfl⟩ | ⟨third, rfl, hthird⟩
        · obtain ⟨before, rfl⟩ := hend
          exact hword.last List.getLast?_concat
        · obtain ⟨rfl, -⟩ := List.append_eq_nil_iff.mp hthird.symm
          exact hword.single hend.isInfix

/-- Words with one space between any two have no space to spare. -/
theorem no_spare_space_intercalate (hwords : ∀ word ∈ words, word ≠ [] ∧ ' ' ∉ word) :
    NoSpareSpace ([' '].intercalate words) := by
  induction words with
  | nil => exact no_spare_space_of_not_mem List.not_mem_nil
  | cons word others ih =>
      obtain ⟨⟨hsome, hspace⟩, hothers⟩ := List.forall_mem_cons.mp hwords
      have hword := no_spare_space_of_not_mem hspace
      cases others with
      | nil =>
          rw [List.intercalate_singleton]
          exact hword
      | cons next others =>
          have hnext : next ≠ [] := (hothers next List.mem_cons_self).1
          have hmore : [' '].intercalate (next :: others) ≠ [] := by
            cases others <;> simp [List.intercalate_cons_cons, hnext]
          rw [List.intercalate_cons_cons, List.append_assoc]
          exact hword.append_space (ih hothers) hsome hmore

/-- Characters other than spaces are those of the pieces. -/
theorem filter_intercalate (hwords : ∀ word ∈ words, ' ' ∉ word) :
    ([' '].intercalate words).filter (· ≠ ' ') = words.flatten := by
  induction words with
  | nil => rfl
  | cons word others ih =>
      obtain ⟨hword, hothers⟩ := List.forall_mem_cons.mp hwords
      have hself : word.filter (· ≠ ' ') = word := by
        refine List.filter_eq_self.mpr fun char hchar => decide_eq_true ?_
        exact fun hspace => hword (hspace ▸ hchar)
      cases others with
      | nil => simpa using hself
      | cons next others =>
          rw [List.intercalate_cons_cons, List.filter_append, List.filter_append, hself,
            ih hothers, List.filter_cons_of_neg (by simp), List.filter_nil, List.append_nil]
          rfl

end Joined

/-! ## The words of a text -/

section TextWords

variable {chars word : List Char}

/-- The pieces between the spaces of a text, but for the empty ones. -/
def words (chars : List Char) : List (List Char) :=
  (pieces ' ' chars).filter fun word => !word.isEmpty

/-- No word is empty or has a space in it. -/
theorem word_of_mem_words (h : word ∈ words chars) : word ≠ [] ∧ ' ' ∉ word := by
  obtain ⟨hpiece, hsome⟩ := List.mem_filter.mp h
  exact ⟨by simpa using hsome, not_mem_of_mem_pieces hpiece⟩

/-- The words are what a text has in its longest stretches without a space. -/
theorem exists_word_stretches (chars : List Char) : ∃ stretches,
    AreWords chars stretches ∧ words chars = stretches.map (·.read chars) := by
  have hpieces : ∀ piece ∈ pieces ' ' chars, ' ' ∉ piece := fun _ => not_mem_of_mem_pieces
  have hwords := are_words_word_stretches hpieces (pieces_ne_nil ' ' chars)
  have hread := read_word_stretches (pieces ' ' chars)
  rw [intercalate_pieces] at hwords hread
  exact ⟨_, hwords, hread.symm⟩

/-- Words are found again in what they are joined to. -/
theorem words_intercalate (chars : List Char) :
    words ([' '].intercalate (words chars)) = words chars := by
  by_cases hnone : words chars = []
  -- no words are joined to the empty text, and its only piece is empty
  · rw [hnone]
    rfl
  · rw [words, pieces_intercalate (fun _ hword => (word_of_mem_words hword).2) hnone]
    exact List.filter_eq_self.mpr fun word hword => by simpa using (word_of_mem_words hword).1

end TextWords

end Text

namespace Builtin

open Evaluation (evaluate evaluateDuring evaluate_values operandValues operand_values_cons
  resolveName roomForNames)

/-- A single spaced text is its words with one space between any two. -/
theorem single_spaced_eq (chars : List Char) :
    singleSpaced chars = [' '].intercalate (Text.words chars) := rfl

/-- A single spaced text is its own single spaced form. -/
theorem single_spaced_single_spaced (chars : List Char) :
    singleSpaced (singleSpaced chars) = singleSpaced chars := by
  rw [single_spaced_eq chars, single_spaced_eq, Text.words_intercalate]

/-- Only spaces are lost. -/
theorem filter_single_spaced (chars : List Char) :
    (singleSpaced chars).filter (· ≠ ' ') = chars.filter (· ≠ ' ') :=
  calc (singleSpaced chars).filter (· ≠ ' ')
    _ = (Text.words chars).flatten :=
        Text.filter_intercalate fun _ hword => (Text.word_of_mem_words hword).2
    _ = (Text.pieces ' ' chars).flatten := List.flatten_filter_not_isEmpty
    _ = ([' '].intercalate (Text.pieces ' ' chars)).filter (· ≠ ' ') :=
        (Text.filter_intercalate fun _ => Text.not_mem_of_mem_pieces).symm
    _ = chars.filter (· ≠ ' ') := by rw [Text.intercalate_pieces]

/-- The function `TRIM` gives the single spaced form of its text. -/
theorem trim_eq {operands : List Value} {source : String} (h : text operands 0 = .ok source) :
    trim operands = .ok (ofChars (singleSpaced source.toList)) := by
  rw [trim, h]
  rfl

/-- What a formula gives that calls `TRIM` with an operand that stands for a text. -/
theorem evaluate_trim {context : Context} {tree : Formula.Expr} {seed : Seed} {value : Value}
    {source : String} (hvalue : evaluate context tree ((seed.child 0).child 0) = .ok value)
    (htext : value.toText = .ok source) :
    evaluate context (.call "TRIM" [tree]) seed = .ok (ofChars (singleSpaced source.toList)) := by
  have herror : value.isError = false := by
    cases value with
    | error fault => cases htext
    | empty | number | text | logical | array => rfl
  have hfind : find? "TRIM" = some (.ofValues "TRIM" 1 (some 1) trim) := rfl
  have hread : operandValues context (resolveName context (roomForNames context) []) false [tree]
      (seed.child 0) = .ok (.ok [value]) :=
    operand_values_cons hvalue herror rfl
  have htrim : trim [value] = .ok (ofChars (singleSpaced source.toList)) := trim_eq htext
  rw [evaluate, evaluateDuring, evaluate_values hfind rfl hread, htrim]
  rfl

/-- `TRIM` gives the words of a text, its longest stretches without a space, in their order and with
one space between two. So no space is left at the ends or beside another one, all other characters
are kept, and nothing is left to be done when the result is trimmed again. -/
theorem trim_words {operands : List Value} {source : String} (h : text operands 0 = .ok source) :
    ∃ content stretches, trim operands = .ok (.text content) ∧
      Text.AreWords source.toList stretches ∧
      content.toList = [' '].intercalate (stretches.map (·.read source.toList)) ∧
      Text.NoSpareSpace content.toList ∧
      content.toList.filter (· ≠ ' ') = source.toList.filter (· ≠ ' ') ∧
      trim [.text content] = .ok (.text content) ∧
      ∀ context seed,
        evaluate context (.call "TRIM" [.text source]) seed = .ok (.text content) ∧
        evaluate context (.call "TRIM" [.call "TRIM" [.text source]]) seed =
          .ok (.text content) := by
  obtain ⟨stretches, hwords, hread⟩ := Text.exists_word_stretches source.toList
  have hagain : ofChars (singleSpaced (String.ofList (singleSpaced source.toList)).toList) =
      ofChars (singleSpaced source.toList) := by
    rw [String.toList_ofList, single_spaced_single_spaced]
  refine ⟨String.ofList (singleSpaced source.toList), stretches, trim_eq h, hwords, ?_, ?_, ?_, ?_,
    fun context seed => ⟨evaluate_trim rfl rfl, ?_⟩⟩
  · rw [String.toList_ofList, single_spaced_eq, hread]
  · rw [String.toList_ofList]
    exact Text.no_spare_space_intercalate fun _ => Text.word_of_mem_words
  · rw [String.toList_ofList, filter_single_spaced]
  · exact (trim_eq rfl).trans (congrArg Except.ok hagain)
  · exact (evaluate_trim (evaluate_trim rfl rfl) rfl).trans (congrArg Except.ok hagain)

/-- Spaces go at both ends and between words, whereas a tab is part of the word it stands in. -/
theorem trim_words_of_tab :
    let source := "  a\t   b "
    text [.text source] 0 = .ok source ∧
      ∃ stretches, trim [.text source] = .ok (.text "a\t b") ∧
        Text.AreWords source.toList stretches ∧
        "a\t b".toList = [' '].intercalate (stretches.map (·.read source.toList)) ∧
        Text.NoSpareSpace "a\t b".toList ∧
        trim [.text "a\t b"] = .ok (.text "a\t b") ∧
        evaluate (.bare default) (.call "TRIM" [.call "TRIM" [.text source]]) default =
          .ok (.text "a\t b") := by
  intro source
  have hsource : text [.text source] 0 = .ok source := rfl
  obtain ⟨content, stretches, htrim, hwords, hcontent, hspare, -, hagain, hcalls⟩ :=
    trim_words hsource
  have hspaced : singleSpaced source.toList = "a\t b".toList := by decide
  obtain rfl : content = "a\t b" := by
    rw [trim_eq hsource, hspaced, ofChars, String.ofList_toList] at htrim
    cases htrim
    rfl
  exact ⟨hsource, stretches, htrim, hwords, hcontent, hspare, hagain,
    (hcalls (.bare default) default).2⟩

end Builtin

end Spreadsheet
