import Spreadsheet.Proofs.Dependency.Words
import Spreadsheet.Proofs.Dependency.Worklist
import Spreadsheet.Proofs.Text.UpperCase

/-!
# The expansion of names

The references of a formula are collected in one walk over its tokens. A defined name that comes up
is put on a stack unless a definition with its number has been there, and the definitions on the
stack are walked over one after the other, each with the names that come up in it. The main theorem,
`scan_spec`, says that the stack runs empty, also if definitions are cyclic, that the definitions
walked over are those that the tree of the formula leads to, that a volatile function has been found
exactly if the tree leads to a call of one, and that what has been collected are the references of
the tokens.
-/

namespace Spreadsheet.Dependency

open Formula (Token Expr)

/-- The references collected so far, and the definitions that have come up, by the numbers that
tell them apart. -/
structure Scanner where
  references : References
  names : Worklist NameKey (compare : UInt64 → UInt64 → Ordering)

namespace Scanner

/-- The scanner that has seen nothing. -/
def empty : Scanner := ⟨⟨[], [], false⟩, .empty⟩

section Scan

variable (book : Workbook) (home : Nat) (identify : NameKey → UInt64)

/-- Collects a reference, notes that a function is volatile, or puts the definition of a name on the
stack. -/
def take (scanner : Scanner) : Mention → Scanner
  | .cell sheet position => { scanner with
      references.cells := scanner.references.cells ++ [(sheet, position)] }
  | .range sheet area => { scanner with
      references.ranges := scanner.references.ranges ++ [(sheet, area)] }
  | .function word =>
    if Builtin.isVolatileName word then { scanner with references.isVolatile := true } else scanner
  | .name sheet name =>
    match book.names.get name sheet with
    | some definition => { scanner with
        names := scanner.names.notice .stack identify definition.key }
    | none => scanner

/-- Takes what has been mentioned from left to right. -/
def takeAll (scanner : Scanner) (found : List Mention) : Scanner :=
  found.foldl (take book identify) scanner

/-- Takes a definition off the stack, if there is one, and what it mentions. -/
def round (scanner : Scanner) : Scanner :=
  match scanner.names.pop with
  | none => scanner
  | some (key, rest) => takeAll book identify { scanner with names := rest } (mentionsOf book home key)

/-- Goes through a number of rounds. -/
def rounds : Nat → Scanner → Scanner
  | 0, scanner => scanner
  | count + 1, scanner => rounds count (round book home identify scanner)

/-- Scans tokens written on a sheet, and the definitions that come up. -/
def scan (tokens : List Token) : Scanner :=
  rounds book home identify book.names.size
    (takeAll book identify .empty (mentionsOn book home tokens))

end Scan

variable {book : Workbook} {home : Nat} {identify : NameKey → UInt64} {scanner : Scanner}

/-- What has been mentioned so far is what has been collected. -/
theorem take_references {found : List Mention}
    (h : scanner.references = References.ofMentions found) (mention : Mention) :
    (take book identify scanner mention).references = References.ofMentions (found ++ [mention]) := by
  cases mention with
  | cell | range => simp [take, h, References.ofMentions]
  | function word =>
      by_cases hword : Builtin.isVolatileName word = true <;>
        simp [take, h, References.ofMentions, hword]
  | name sheet name =>
      cases hget : book.names.get name sheet <;> simp [take, h, References.ofMentions, hget]

/-- The references of what has been found and of what is taken up then are those of both. -/
theorem take_all_references {found : List Mention}
    (h : scanner.references = References.ofMentions found) (more : List Mention) :
    (takeAll book identify scanner more).references = References.ofMentions (found ++ more) := by
  induction more generalizing scanner found with
  | nil => rw [List.append_nil]; exact h
  | cons mention rest ih =>
      rw [takeAll, List.foldl_cons, ← List.singleton_append, ← List.append_assoc]
      exact ih (take_references h mention)

/-- The definitions of the names that come up are noticed. -/
theorem take_names (mention : Mention) :
    (take book identify scanner mention).names =
      scanner.names.noticeAll .stack identify (definitionsIn book [mention]) := by
  cases mention with
  | cell | range => rfl
  | function word =>
      simp only [take]
      split <;> rfl
  | name sheet name =>
      cases hget : book.names.get name sheet <;> simp [take, hget, definitionsIn, Worklist.noticeAll]

/-- Taking up mentions puts the definitions of the names among them on the list of names. -/
theorem take_all_names (found : List Mention) :
    (takeAll book identify scanner found).names =
      scanner.names.noticeAll .stack identify (definitionsIn book found) := by
  induction found generalizing scanner with
  | nil => rfl
  | cons mention rest ih =>
      have hsplit : definitionsIn book (mention :: rest) =
          definitionsIn book [mention] ++ definitionsIn book rest := by
        rw [← List.singleton_append]
        exact List.filterMap_append
      rw [takeAll, List.foldl_cons, hsplit, Worklist.noticeAll, List.foldl_append]
      refine ih.trans ?_
      rw [take_names]
      rfl

/-- The definitions of the names in a definition. -/
abbrev definitionsOf (book : Workbook) (home : Nat) (key : NameKey) : List NameKey :=
  definitionsIn book (mentionsOf book home key)

/-- Whether what has been collected are the references of what was written and of the definitions
walked over. -/
def Reports (book : Workbook) (home : Nat) (written : List Mention) (scanner : Scanner) : Prop :=
  scanner.references =
    References.ofMentions (written ++ scanner.names.taken.flatMap (mentionsOf book home))

/-- A round takes one name off the list and puts the names in its definition on it. -/
theorem round_names : (round book home identify scanner).names =
    scanner.names.round .stack identify (definitionsOf book home) := by
  cases hpop : scanner.names.pop with
  | none => simp only [round, Worklist.round, hpop]
  | some popped =>
      simp only [round, Worklist.round, hpop]
      exact take_all_names _

/-- A round leaves a scanner that reports what it has found. -/
theorem Reports.round {written : List Mention} (h : Reports book home written scanner) :
    Reports book home written (scanner.round book home identify) := by
  unfold Scanner.round
  split
  · exact h
  · rename_i key rest hpop
    obtain ⟨-, htaken, -⟩ := Worklist.pop_eq_some hpop
    have hbefore : ({ scanner with names := rest } : Scanner).references =
        .ofMentions (written ++ scanner.names.taken.flatMap (mentionsOf book home)) := h
    rw [Reports, take_all_references hbefore, take_all_names, Worklist.taken_notice_all, htaken,
      List.flatMap_append, List.flatMap_singleton, List.append_assoc]

/-- Rounds take names off the list until none is left or the rounds are used up. -/
theorem rounds_names (count : Nat) : (rounds book home identify count scanner).names =
    scanner.names.drain .stack identify (definitionsOf book home) count := by
  induction count generalizing scanner with
  | zero => rfl
  | succ count ih =>
      rw [rounds, ih, round_names]
      rfl

/-- Any number of rounds leaves a scanner that reports what it has found. -/
theorem Reports.rounds {written : List Mention} (h : Reports book home written scanner)
    (count : Nat) : Reports book home written (scanner.rounds book home identify count) := by
  induction count generalizing scanner with
  | zero => exact h
  | succ count ih => exact ih h.round

variable {tokens : List Token}

/-- A scan is a walk over the definitions, and collects what they and the tokens mention. -/
theorem scan_eq (book : Workbook) (home : Nat) (identify : NameKey → UInt64)
    (tokens : List Token) :
    (scan book home identify tokens).names =
        .drain .stack identify (definitionsOf book home) book.names.size
          (.noticeAll .stack identify .empty (definitionsIn book (mentionsOn book home tokens))) ∧
      Reports book home (mentionsOn book home tokens) (scan book home identify tokens) := by
  have hstart : (takeAll book identify .empty (mentionsOn book home tokens)).references =
      .ofMentions ([] ++ mentionsOn book home tokens) := take_all_references rfl _
  constructor
  · rw [scan, rounds_names, take_all_names]
    rfl
  · refine Reports.rounds ?_ _
    rw [Reports, hstart, take_all_names, Worklist.taken_notice_all]
    simp [empty, Worklist.empty]

end Scanner

section Closure

variable {book : Workbook} {home : Nat} {identify : NameKey → UInt64} {tokens : List Token}
  {tree : Expr}

/-- Whether numbers tell the definitions of a workbook apart. -/
def TellsApart (book : Workbook) (identify : NameKey → UInt64) : Prop :=
  ∀ left ∈ book.names.entries, ∀ right ∈ book.names.entries,
    identify left = identify right → left = right

/-- No definition is reached twice. -/
theorem definitions_reached_nodup (found : List Mention) :
    (definitionsReached book home found).Nodup :=
  Std.TreeSet.distinct_toList.imp fun hdistinct heq =>
    hdistinct (Std.LawfulEqCmp.compare_eq_iff_eq.mpr heq)

/-- The stack of a scan runs empty, and the definitions that have been on it are those found. -/
theorem scan_names_spec (hids : TellsApart book identify) (home : Nat) (tokens : List Token) :
    let done := Scanner.scan book home identify tokens
    done.names.waiting = [] ∧
      done.names.taken.Perm (definitionsReached book home (mentionsOn book home tokens)) := by
  intro done
  have hkeyed : Worklist.Keyed identify (Scanner.definitionsOf book home)
      book.names.entries.keys.toFinset := by
    refine ⟨fun _ _ _ => mem_keys_of_definitions_in, fun left hleft right hright => ?_⟩
    rw [List.mem_toFinset, Std.ExtTreeMap.mem_keys] at hleft hright
    exact hids left hleft right hright
  have hroots : ∀ root ∈ definitionsIn book (mentionsOn book home tokens),
      root ∈ book.names.entries.keys.toFinset := fun _ => mem_keys_of_definitions_in
  obtain ⟨hempty, hnodup, htaken, -⟩ :=
    Worklist.drain_spec compare .stack hkeyed hroots card_keys_le
  have hdone := (Scanner.scan_eq book home identify tokens).1
  rw [← hdone] at hempty hnodup htaken
  refine ⟨hempty, (List.perm_ext_iff_of_nodup hnodup (definitions_reached_nodup _)).mpr fun key => ?_⟩
  exact (htaken key).trans mem_definitions_reached_iff.symm

/-- References are volatile if they mention a volatile function, in whatever case. -/
theorem is_volatile_of_mentions_iff {found : List Mention} :
    (References.ofMentions found).isVolatile = true ↔
      ∃ word, .function word ∈ found.map Mention.upper ∧ Builtin.isVolatileName word = true := by
  simp only [References.ofMentions, List.any_eq_true]
  constructor
  · rintro ⟨mention, hmention, hvolatile⟩
    cases mention with
    | function word =>
        exact ⟨Text.upper word, List.mem_map.mpr ⟨_, hmention, rfl⟩,
          (Builtin.is_volatile_name_upper word).trans hvolatile⟩
    | cell | range | name => cases hvolatile
  · rintro ⟨word, hword, hvolatile⟩
    obtain ⟨mention, hmention, hupper⟩ := List.mem_map.mp hword
    cases mention with
    | function written =>
        obtain rfl := Mention.function.inj hupper
        exact ⟨_, hmention, (Builtin.is_volatile_name_upper written).symm.trans hvolatile⟩
    | cell | range | name => cases hupper

/-- In which order things are mentioned makes no difference but to the order of references. -/
theorem of_mentions_perm {left right : List Mention} (h : left.Perm right) :
    (References.ofMentions left).isVolatile = (References.ofMentions right).isVolatile ∧
      (References.ofMentions left).cells.Perm (References.ofMentions right).cells ∧
      (References.ofMentions left).ranges.Perm (References.ofMentions right).ranges :=
  ⟨h.any_eq, h.filterMap _, h.filterMap _⟩

/-- If every definition can be read and numbers tell definitions apart, the stack of a scan runs
empty, no definition has been on it twice, and those that have been are those that the tree of the
formula leads to, each name resolved on its sheet. A volatile function has been found exactly if the
tree leads to a call of one. What has been collected are the references of the tokens. -/
theorem scan_spec (hids : TellsApart book identify) (hreadable : Readable book)
    (hparse : Formula.parseTokens tokens = .ok tree) (home : Nat) :
    let done := Scanner.scan book home identify tokens
    let references := References.ofTokens book home tokens
    done.names.waiting = [] ∧ done.names.taken.Nodup ∧
      (∀ key, key ∈ done.names.taken ↔ LeadsToDefinition book home tree key) ∧
      (done.references.isVolatile = true ↔
        ∃ word, tree.LeadsTo book home (.function word) ∧ Builtin.isVolatileName word = true) ∧
      done.references.isVolatile = references.isVolatile ∧
      done.references.cells.Perm references.cells ∧
      done.references.ranges.Perm references.ranges := by
  intro done references
  obtain ⟨hempty, hperm⟩ := scan_names_spec hids home tokens
  have hreports := (Scanner.scan_eq book home identify tokens).2
  have hmentions : (mentionsOn book home tokens ++
      done.names.taken.flatMap (mentionsOf book home)).Perm (allMentions book home tokens) :=
    (hperm.flatMap_right _).append_left _
  obtain ⟨hvolatile, hcells, hranges⟩ := of_mentions_perm hmentions
  rw [← hreports] at hvolatile hcells hranges
  refine ⟨hempty, hperm.nodup_iff.mpr (definitions_reached_nodup _), fun key => ?_, ?_, hvolatile,
    hcells, hranges⟩
  · exact hperm.mem_iff.trans (mem_definitions_reached_iff_leads hparse hreadable)
  · rw [hvolatile, is_volatile_of_mentions_iff]
    exact exists_congr fun word => and_congr_left' (mem_words_iff hparse hreadable rfl)

/-- Of two names that stand for each other, one by way of a volatile function, both are found. -/
theorem scan_spec_of_cyclic_names :
    let loop : DefinedName := ⟨"Loop", .workbook, "=Other+1", none⟩
    let other : DefinedName := ⟨"Other", .workbook, "=loop+now()", none⟩
    let book := { Workbook.new with names := (NameTable.empty.insert loop).insert other }
    let identify : NameKey → UInt64 := fun key => .ofNat key.spelling.length
    let tokens : List Token := [.identifier "LOOP"]
    let tree : Expr := .name none "LOOP"
    TellsApart book identify ∧ Readable book ∧ Formula.parseTokens tokens = .ok tree ∧
      (Scanner.scan book 0 identify tokens).names.taken = [loop.key, other.key] ∧
      (Scanner.scan book 0 identify tokens).references.isVolatile = true ∧
      ∃ word, tree.LeadsTo book 0 (.function word) ∧ Builtin.isVolatileName word = true := by
  intro loop other book identify tokens tree
  have hkeys : ∀ key ∈ book.names.entries, key = loop.key ∨ key = other.key := by
    have hall : book.names.entries.keys = [loop.key, other.key] := by decide +kernel
    intro key hkey
    rw [← Std.ExtTreeMap.mem_keys, hall] at hkey
    simpa using hkey
  have hids : TellsApart book identify := by
    intro left hleft right hright hsame
    rcases hkeys left hleft with rfl | rfl <;> rcases hkeys right hright with rfl | rfl
    · rfl
    · exact absurd hsame (by decide +kernel)
    · exact absurd hsame (by decide +kernel)
    · rfl
  have hloop : loop.parsed.toOption.isSome = true := by decide +kernel
  have hother : other.parsed.toOption.isSome = true := by decide +kernel
  have hreadable : Readable book := (readable_new.insert hloop).insert hother
  have hparse : Formula.parseTokens tokens = .ok tree := rfl
  have hvolatile : (Scanner.scan book 0 identify tokens).references.isVolatile = true := by
    decide +kernel
  obtain ⟨-, -, -, hcalls, -⟩ := scan_spec hids hreadable hparse 0
  exact ⟨hids, hreadable, hparse, by decide +kernel, hvolatile, hcalls.mp hvolatile⟩

end Closure

end Spreadsheet.Dependency
