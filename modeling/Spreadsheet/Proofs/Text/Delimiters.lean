import Mathlib.Algebra.Group.Nat.Even
import Spreadsheet.Choices

/-!
# Quotes and separators inside a text

A text can hold the quote that encloses it if it is written twice there. Reading undoes what writing
does, and writing undoes what reading does where no quote is left over when pairs are taken out
(`double_undouble`). These are the texts whose runs of quotes all have even length
(`not_mem_without_pairs_iff`). In the same way the pieces of a text and the text joined from pieces
determine each other.
-/

namespace Spreadsheet.Text

open SheetQualifier (undouble double)
open Choices (withoutPairs)

/-! ## Quotes written twice -/

section Quotes

variable {quote char : Char} {chars rest text : List Char}

/-- Undoubling leaves other characters than the quote alone. -/
theorem undouble_cons_of_ne (h : char ≠ quote) (rest : List Char) :
    undouble quote (char :: rest) = char :: undouble quote rest := by
  cases rest <;> simp [undouble, h]

/-- Other characters than the quote belong to no pair. -/
theorem without_pairs_cons_of_ne (h : char ≠ quote) (rest : List Char) :
    withoutPairs quote (char :: rest) = char :: withoutPairs quote rest := by
  cases rest <;> simp [withoutPairs, h]

/-- Doubling writes a quote twice. -/
theorem double_cons_self (quote : Char) (rest : List Char) :
    double quote (quote :: rest) = quote :: quote :: double quote rest := by
  simp [double]

/-- Doubling leaves other characters than the quote alone. -/
theorem double_cons_of_ne (h : char ≠ quote) (rest : List Char) :
    double quote (char :: rest) = char :: double quote rest := by
  simp [double, h]

/-- What was written can be read. -/
theorem undouble_double (quote : Char) (chars : List Char) :
    undouble quote (double quote chars) = chars := by
  induction chars with
  | nil => rfl
  | cons char rest ih =>
      by_cases h : char = quote
      · subst h
        rw [double_cons_self, undouble, if_pos ⟨rfl, rfl⟩, ih]
      · rw [double_cons_of_ne h, undouble_cons_of_ne h, ih]

/-- No quote is left over of what was written. -/
theorem not_mem_without_pairs_double (quote : Char) (chars : List Char) :
    quote ∉ withoutPairs quote (double quote chars) := by
  induction chars with
  | nil => exact List.not_mem_nil
  | cons char rest ih =>
      by_cases h : char = quote
      · subst h
        rwa [double_cons_self, withoutPairs, if_pos ⟨rfl, rfl⟩]
      · rw [double_cons_of_ne h, without_pairs_cons_of_ne h, List.mem_cons, not_or]
        exact ⟨Ne.symm h, ih⟩

/-- A text in which no quote is left over has been written. -/
theorem double_undouble (h : quote ∉ withoutPairs quote text) :
    double quote (undouble quote text) = text := by
  fun_induction withoutPairs quote text with
  | case1 => rfl
  | case2 char =>
      rw [undouble, double_cons_of_ne (by simpa [eq_comm] using h)]
      rfl
  | case3 first second rest hpair ih =>
      obtain ⟨rfl, rfl⟩ := hpair
      rw [undouble, if_pos ⟨rfl, rfl⟩, double_cons_self, ih h]
  | case4 first second rest hpair ih =>
      obtain ⟨hfirst, hrest⟩ := not_or.mp (List.mem_cons.not.mp h)
      rw [undouble_cons_of_ne (Ne.symm hfirst), double_cons_of_ne (Ne.symm hfirst), ih hrest]

/-- Whether every run of quotes that cannot be extended has even length. -/
def EvenRuns (quote : Char) (text : List Char) : Prop :=
  ∀ (before : List Char) (count : Nat) (after : List Char),
    text = before ++ List.replicate count quote ++ after →
      before.getLast? ≠ some quote → after.head? ≠ some quote → Even count

/-- The empty text has even runs only. -/
theorem even_runs_nil (quote : Char) : EvenRuns quote [] := by
  intro before count after h _ _
  obtain rfl : count = 0 := by
    have hlength := congrArg List.length h
    simp only [List.length_append, List.length_replicate, List.length_nil] at hlength
    omega
  exact Even.zero

/-- Two quotes in front of a text belong to the run that it begins with. -/
theorem even_runs_pair (quote : Char) (rest : List Char) :
    EvenRuns quote (quote :: quote :: rest) ↔ EvenRuns quote rest := by
  constructor
  · intro h before count after hsplit hbefore hafter
    cases before with
    | nil =>
        have heven := h [] (count + 2) after (by simp [hsplit, List.replicate_succ]) nofun hafter
        exact (Nat.even_add.mp heven).mpr (by decide : Even 2)
    | cons char before =>
        refine h (quote :: quote :: char :: before) count after (by simp [hsplit]) ?_ hafter
        simpa using hbefore
  · intro h before count after hsplit hbefore hafter
    match before, count with
    | [], 0 => exact Even.zero
    | [], 1 =>
        obtain ⟨-, rfl⟩ : quote = quote ∧ quote :: rest = after := by simpa using hsplit
        exact absurd rfl hafter
    | [], count + 2 =>
        have hrest : rest = [] ++ List.replicate count quote ++ after := by
          simpa [List.replicate_succ] using hsplit
        exact (h [] count after hrest nofun hafter).add (by decide : Even 2)
    | [char], count =>
        obtain ⟨rfl, -⟩ : quote = char ∧ _ := by simpa using hsplit
        exact absurd rfl hbefore
    | first :: second :: before, count =>
        obtain ⟨rfl, rfl, hrest⟩ : quote = first ∧ quote = second ∧
            rest = before ++ (List.replicate count quote ++ after) := by simpa using hsplit
        refine h before count after (by rw [hrest, List.append_assoc]) (fun hlast => hbefore ?_)
          hafter
        rw [List.getLast?_cons_cons, List.getLast?_cons, hlast]
        rfl

/-- A text that begins with one quote has a run of length one. -/
theorem not_even_runs_single (rest : List Char) (h : rest.head? ≠ some quote) :
    ¬ EvenRuns quote (quote :: rest) := by
  intro heven
  have hone := heven [] 1 rest (by simp) nofun h
  exact absurd hone (by decide)

/-- Another character in front of a text belongs to none of its runs. -/
theorem even_runs_cons_of_ne (h : char ≠ quote) :
    EvenRuns quote (char :: rest) ↔ EvenRuns quote rest := by
  constructor
  · intro heven before count after hsplit hbefore hafter
    refine heven (char :: before) count after (by simp [hsplit]) ?_ hafter
    cases before with
    | nil => simpa using h
    | cons first before => simpa using hbefore
  · intro heven before count after hsplit hbefore hafter
    match before, count with
    | [], 0 => exact Even.zero
    | [], count + 1 =>
        obtain ⟨rfl, -⟩ : char = quote ∧ _ := by simpa [List.replicate_succ] using hsplit
        exact absurd rfl h
    | first :: before, count =>
        obtain ⟨rfl, hrest⟩ : char = first ∧
            rest = before ++ (List.replicate count quote ++ after) := by simpa using hsplit
        refine heven before count after (by rw [hrest, List.append_assoc]) (fun hlast => hbefore ?_)
          hafter
        rw [List.getLast?_cons, hlast]
        rfl

/-- No quote is left over exactly if all runs of quotes have even length. -/
theorem not_mem_without_pairs_iff : quote ∉ withoutPairs quote text ↔ EvenRuns quote text := by
  fun_induction withoutPairs quote text with
  | case1 => simpa using even_runs_nil quote
  | case2 char =>
      by_cases h : char = quote
      · subst h
        simpa using not_even_runs_single [] (by simp)
      · simpa [even_runs_cons_of_ne h, Ne.symm h] using even_runs_nil quote
  | case3 first second rest hpair ih =>
      obtain ⟨rfl, rfl⟩ := hpair
      rw [ih, even_runs_pair]
  | case4 first second rest hpair ih =>
      by_cases h : first = quote
      · subst h
        have hsecond : second ≠ first := fun hsecond => hpair ⟨rfl, hsecond⟩
        simpa using not_even_runs_single (second :: rest) (by simpa using hsecond)
      · rw [even_runs_cons_of_ne h, ← ih, List.mem_cons, not_or, and_iff_right (Ne.symm h)]

end Quotes

/-! ## Pieces between separators -/

section Pieces

variable {separator : Char} {chars piece : List Char} {items : List (List Char)}

/-- The pieces of a text are what it is split into at the separator. -/
theorem pieces_eq_split_on (separator : Char) (chars : List Char) :
    pieces separator chars = chars.splitOn separator := by
  induction chars with
  | nil => rfl
  | cons char rest ih =>
      rw [pieces, ih, List.splitOn_cons_eq_if_modifyHead]
      by_cases h : char = separator
      · simp [h]
      · cases hpieces : rest.splitOn separator with
        | nil => exact absurd hpieces (List.splitOn_ne_nil separator rest)
        | cons first others => simp [h]

/-- Every text has a piece. -/
theorem pieces_ne_nil (separator : Char) (chars : List Char) : pieces separator chars ≠ [] := by
  rw [pieces_eq_split_on]
  exact List.splitOn_ne_nil separator chars

/-- Nothing of a text is lost when it is cut into pieces. -/
theorem intercalate_pieces (separator : Char) (chars : List Char) :
    [separator].intercalate (pieces separator chars) = chars := by
  rw [pieces_eq_split_on]
  exact List.intercalate_splitOn separator

/-- Texts without the separator are the pieces of what they are joined to. -/
theorem pieces_intercalate (h : ∀ item ∈ items, separator ∉ item) (hsome : items ≠ []) :
    pieces separator ([separator].intercalate items) = items := by
  rw [pieces_eq_split_on]
  exact List.splitOn_intercalate separator h hsome

/-- No piece holds the separator. -/
theorem not_mem_of_mem_pieces (h : piece ∈ pieces separator chars) : separator ∉ piece := by
  induction chars generalizing piece with
  | nil => simp_all [pieces]
  | cons char rest ih =>
      rw [pieces] at h
      split at h
      · rcases List.mem_cons.mp h with rfl | h
        · exact List.not_mem_nil
        · exact ih h
      · have hchar : separator ≠ char := Ne.symm ‹_›
        cases hpieces : pieces separator rest with
        | nil => simp_all
        | cons first others =>
            rw [hpieces] at h ih
            rcases List.mem_cons.mp h with rfl | h
            · simpa [hchar] using ih List.mem_cons_self
            · exact ih (List.mem_cons_of_mem _ h)

end Pieces

end Spreadsheet.Text
