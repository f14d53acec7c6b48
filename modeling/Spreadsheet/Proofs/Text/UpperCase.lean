import Spreadsheet.Builtin.Registry

/-!
# Upper case twice

Upper case has nothing left to do where it has been done, since what it gives are code points that
it leaves alone. `upper_upper` says so of texts. It follows that a word names a volatile function
exactly if its upper case does.
-/

namespace Spreadsheet

namespace Text

/-- The code points that a run maps. -/
def CaseRun.codes (run : CaseRun) : List Nat :=
  List.range' run.first ((run.last - run.first) / run.stride + 1) run.stride

/-- A code point that a run covers is one that it maps. -/
theorem CaseRun.mem_codes {run : CaseRun} {code : Nat} (h : run.covers code = true) :
    code ∈ run.codes := by
  simp only [covers, Bool.and_eq_true, decide_eq_true_eq, beq_iff_eq] at h
  obtain ⟨⟨hfirst, hlast⟩, hstride⟩ := h
  obtain ⟨steps, hsteps⟩ := Nat.dvd_of_mod_eq_zero hstride
  refine List.mem_range'.mpr ⟨(code - run.first) / run.stride, ?_, ?_⟩
  · exact Nat.lt_succ_of_le (Nat.div_le_div_right (by omega))
  · rw [Nat.mul_div_cancel' ⟨steps, hsteps⟩]
    omega

/-- The code points that are not their own upper case. -/
def lowered : List Nat :=
  List.range' 0x61 26 ++ upperRuns.flatMap CaseRun.codes ++ upperExpansions.map Prod.fst

/-- The code points of upper-case forms. -/
def raised : List Nat :=
  (List.range 0x80).map (fun code => (Char.ofNat code).toUpper.toNat) ++
    upperRuns.flatMap (fun run => run.codes.map fun code => run.target + (code - run.first)) ++
    upperExpansions.flatMap Prod.snd

/-- A number with the bits of some places. -/
def mask (places : List Nat) : Nat := places.foldr (fun place bits => bits ||| 1 <<< place) 0

/-- A mask has exactly the bits of its places. -/
theorem test_bit_mask {places : List Nat} {place : Nat} :
    (mask places).testBit place = true ↔ place ∈ places := by
  induction places with
  | nil => simp [mask]
  | cons first rest ih =>
      simp only [mask, List.foldr_cons, Nat.testBit_or, Bool.or_eq_true, List.mem_cons] at ih ⊢
      rw [ih, Nat.one_shiftLeft, Nat.testBit_two_pow, decide_eq_true_eq]
      exact or_comm.trans (or_congr_left eq_comm)

/-- The tables are too long to compare each entry with each, so they are compared as masks. -/
theorem masks_disjoint : mask lowered &&& mask raised = 0 := by
  decide +kernel

/-- No code point of an upper-case form has another one. -/
theorem not_mem_lowered_of_mem_raised {code : Nat} (h : code ∈ raised) : code ∉ lowered := by
  intro hlowered
  have hboth : (mask lowered &&& mask raised).testBit code = true := by
    rw [Nat.testBit_and, test_bit_mask.mpr hlowered, test_bit_mask.mpr h]
    rfl
  simp [masks_disjoint] at hboth

/-- A character other than the lower-case letters of ASCII is its own upper case, as far as ASCII
goes. -/
theorem to_upper_eq_self {char : Char} (h : char.toNat ∉ List.range' 0x61 26) :
    char.toUpper = char := by
  refine dif_neg fun hsmall => h (List.mem_range'_1.mpr ?_)
  have hfirst : 0x61 ≤ char.toNat := hsmall.1
  have hlast : char.toNat ≤ 0x7A := hsmall.2
  omega

/-- Where nothing is mapped or expanded, upper case leaves a character alone. -/
theorem upper_char_eq_self {char : Char} (h : char.toNat ∉ lowered) : upperChar char = [char] := by
  simp only [lowered, List.mem_append, not_or] at h
  obtain ⟨⟨hascii, hruns⟩, hexpansions⟩ := h
  unfold upperChar
  split
  · rw [to_upper_eq_self hascii]
  · have hlookup : upperExpansions.lookup char.toNat = none := by
      refine List.lookup_eq_none_iff.mpr fun expansion hmem => ?_
      simpa using fun hsame => hexpansions (List.mem_map.mpr ⟨expansion, hmem, hsame.symm⟩)
    have hfind : upperRuns.find? (·.covers char.toNat) = none :=
      List.find?_eq_none.mpr fun run hrun hcovers =>
        hruns (List.mem_flatMap.mpr ⟨run, hrun, run.mem_codes hcovers⟩)
    simp [hlookup, CaseRun.image, hfind]

/-- The code point zero belongs to an upper-case form, its own. -/
theorem zero_mem_raised : 0 ∈ raised :=
  List.mem_append_left _ (List.mem_append_left _ (List.mem_map.mpr ⟨0, by decide, by decide⟩))

/-- A number that is no character stands for the character zero. -/
theorem mem_raised_of_code {code : Nat} (h : code ∈ raised) : (Char.ofNat code).toNat ∈ raised := by
  by_cases hvalid : code.isValidChar
  · have hcode : (Char.ofNat code).toNat = code := by
      rw [Char.ofNat, dif_pos hvalid]
      rfl
    rwa [hcode]
  · rw [Char.ofNat, dif_neg hvalid]
    exact zero_mem_raised

/-- A character is left alone unless its upper-case form is in the tables. -/
theorem upper_char_cases (char : Char) :
    (∀ other ∈ upperChar char, other.toNat ∈ raised) ∨ upperChar char = [char] := by
  unfold upperChar
  split
  · rename_i hascii
    refine .inl fun other hother => ?_
    obtain rfl := List.mem_singleton.mp hother
    refine List.mem_append_left _ (List.mem_append_left _ (List.mem_map.mpr ⟨char.toNat, ?_, ?_⟩))
    · exact List.mem_range.mpr hascii
    · rw [Char.ofNat_toNat]
  · split
    · rename_i codes hlookup
      obtain ⟨before, after, htable, -⟩ := List.lookup_eq_some_iff.mp hlookup
      refine .inl fun other hother => ?_
      obtain ⟨code, hcode, rfl⟩ := List.mem_map.mp hother
      refine mem_raised_of_code (List.mem_append_right _ (List.mem_flatMap.mpr ?_))
      exact ⟨(char.toNat, codes), by simp [htable], hcode⟩
    · cases hfind : upperRuns.find? (·.covers char.toNat) with
      | none => simp [CaseRun.image, hfind]
      | some run =>
          have hcovers : run.covers char.toNat = true := by simpa using List.find?_some hfind
          have himage : run.target + (char.toNat - run.first) ∈ raised := by
            refine List.mem_append_left _ (List.mem_append_right _ (List.mem_flatMap.mpr ?_))
            exact ⟨run, List.mem_of_find?_eq_some hfind,
              List.mem_map.mpr ⟨_, run.mem_codes hcovers, rfl⟩⟩
          simpa [CaseRun.image, hfind] using .inl (mem_raised_of_code himage)

/-- Upper case is its own upper case, character by character. -/
theorem upper_char_upper_char (char : Char) :
    (upperChar char).flatMap upperChar = upperChar char := by
  rcases upper_char_cases char with hraised | hsame
  · have halone : ∀ other ∈ upperChar char, upperChar other = [other] := fun other hother =>
      upper_char_eq_self (not_mem_lowered_of_mem_raised (hraised other hother))
    rw [List.flatMap_def, List.map_congr_left halone, ← List.flatMap_def, List.flatMap_singleton']
  · rw [hsame, List.flatMap_singleton, hsame]

/-- Upper case of upper case is upper case. -/
theorem upper_upper (text : String) : upper (upper text) = upper text := by
  rw [upper, upper, String.toList_ofList, List.flatMap_assoc]
  simp only [upper_char_upper_char]

end Text

namespace Builtin

/-- A word names the function that its upper case names. -/
theorem find_upper (word : String) : find? (Text.upper word) = find? word := by
  unfold find?
  rw [Text.upper_upper]

/-- A name is that of a volatile function exactly if it is so in upper case. -/
theorem is_volatile_name_upper (word : String) :
    isVolatileName (Text.upper word) = isVolatileName word := by
  rw [isVolatileName, isVolatileName, find_upper]

end Builtin

end Spreadsheet
