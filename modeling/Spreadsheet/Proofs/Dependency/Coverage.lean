import Spreadsheet.Proofs.Dependency.Scan
import Spreadsheet.Proofs.Dependency.Walk
import Spreadsheet.Proofs.Evaluation.Locality

/-!
# What references cover

The main theorem, `evaluate_eq_of_reads`: where every colon stands between two addresses, in a
formula and in the definitions it leads to, the value of the formula depends on nothing but the
cells that its references read.
-/

namespace Spreadsheet

/-- A workbook with one sheet. -/
def Workbook.ofSheet (sheet : Worksheet) : Workbook := { Workbook.new with sheets := [sheet] }

/-- Writing a cell leaves what other cells show. -/
theorem Workbook.shown_of_insert {sheet : Worksheet} {position other : Position} {content : Cell}
    (hfits : content.FitsAt position) (hother : other ≠ position) (on : Nat) :
    (ofSheet (sheet.insert position content hfits)).shown on other =
      (ofSheet sheet).shown on other := by
  cases on with
  | zero =>
      simp [ofSheet, shown, sheet?, Worksheet.shown, Worksheet.cell, Worksheet.insert,
        Std.ExtTreeMap.getElem?_insert, Std.LawfulEqCmp.compare_eq_iff_eq, Ne.symm hother]
  | succ on => rfl

namespace Dependency

open Formula (Token Expr)

variable {book : Workbook} {home : Nat}

/-- The definitions that some mentions lead to directly are those of the names mentioned. -/
theorem mem_definitions_in_iff {found : List Mention} {key : NameKey} :
    key ∈ definitionsIn book found ↔ ∃ sheet name definition, .name sheet name ∈ found ∧
      book.names.get name sheet = some definition ∧ definition.key = key := by
  simp only [definitionsIn, List.mem_filterMap]
  constructor
  · rintro ⟨mention, hmention, hkey⟩
    cases mention with
    | name sheet name =>
        obtain ⟨definition, hdefinition, rfl⟩ := Option.map_eq_some_iff.mp hkey
        exact ⟨sheet, name, definition, hmention, hdefinition, rfl⟩
    | cell | range | function => cases hkey
  · rintro ⟨sheet, name, definition, hmention, hdefinition, rfl⟩
    exact ⟨.name sheet name, hmention, by simp [hdefinition]⟩

/-- Mentions resolve to definitions of the workbook. -/
theorem mem_keys_of_definitions_in {found : List Mention} {key : NameKey}
    (h : key ∈ definitionsIn book found) : key ∈ book.names.entries.keys.toFinset := by
  obtain ⟨_, _, definition, -, hdefinition, rfl⟩ := mem_definitions_in_iff.mp h
  rw [List.mem_toFinset, Std.ExtTreeMap.mem_keys, Std.ExtTreeMap.mem_iff_isSome_getElem?,
    NameTable.get_key_of_get hdefinition]
  rfl

/-- There are at most as many keys as the workbook has names. -/
theorem card_keys_le : book.names.entries.keys.toFinset.card ≤ book.names.size := by
  rw [NameTable.size, ← Std.ExtTreeMap.length_keys]
  exact List.toFinset_card_le _

/-- The definitions found are those that mentions lead to from name to name. -/
theorem mem_definitions_reached_iff {found : List Mention} {key : NameKey} :
    key ∈ definitionsReached book home found ↔ ∃ root ∈ definitionsIn book found,
      Reaches (fun key => definitionsIn book (mentionsOf book home key)) root key := by
  rw [definitionsReached, Std.TreeSet.mem_toList]
  exact mem_reachable_iff _ (fun _ _ _ => mem_keys_of_definitions_in) card_keys_le
    fun _ => mem_keys_of_definitions_in

/-- Whether every colon stands between two addresses, in tokens and in the readable definitions that
they lead to. -/
def ReadsDirectly (book : Workbook) (home : Nat) (tokens : List Token) : Prop :=
  Formula.ColonsDirect tokens ∧
    ∀ key ∈ definitionsReached book home (mentionsOn book home tokens), ∀ definition words tree,
      book.names.entries[key]? = some definition → definition.tokens = .ok words →
        Formula.parseTokens words = .ok tree → Formula.ColonsDirect words

/-- Whether formulas read directly is the same in workbooks with the same frame. -/
theorem ReadsDirectly.congr {other : Workbook} {tokens : List Token}
    (h : ReadsDirectly book home tokens) (hframe : book.SameFrame other) :
    ReadsDirectly other home tokens := by
  simpa only [ReadsDirectly, hframe.definitions_reached, hframe.mentions_on, hframe.names] using h

/-- All that tokens mention, themselves and by the definitions that they lead to. -/
def allMentions (book : Workbook) (home : Nat) (tokens : List Token) : List Mention :=
  mentionsOn book home tokens ++
    (definitionsReached book home (mentionsOn book home tokens)).flatMap (mentionsOf book home)

/-- Upper case makes a mention a name only if it was that name. -/
theorem upper_eq_name {mention : Mention} {sheet : Nat} {name : String}
    (h : mention.upper = .name sheet name) : mention = .name sheet name := by
  cases mention <;> simp_all [Mention.upper]

/-- What a name among all mentions stands for is among them. -/
theorem mentions_of_mem_all {tokens : List Token} {sheet : Nat} {name : String}
    {definition : DefinedName} (hname : .name sheet name ∈ allMentions book home tokens)
    (hdefinition : book.names.get name sheet = some definition) :
    definition.key ∈ definitionsReached book home (mentionsOn book home tokens) := by
  rw [mem_definitions_reached_iff]
  rcases List.mem_append.mp hname with hwritten | hdefined
  · exact ⟨definition.key, mem_definitions_in_iff.mpr ⟨_, _, _, hwritten, hdefinition, rfl⟩, .refl⟩
  · obtain ⟨key, hkey, hmention⟩ := List.mem_flatMap.mp hdefined
    obtain ⟨root, hroot, hreach⟩ := mem_definitions_reached_iff.mp hkey
    exact ⟨root, hroot, hreach.tail
      (mem_definitions_in_iff.mpr ⟨_, _, _, hmention, hdefinition, rfl⟩)⟩

/-- The tokens of a definition that can be read are read as its tree, and it mentions what they
do. -/
theorem mentions_of_parsed {key : NameKey} {definition : DefinedName} {tree : Expr}
    (hentry : book.names.entries[key]? = some definition) (hparsed : definition.parsed = .ok tree) :
    ∃ words, definition.tokens = .ok words ∧ Formula.parseTokens words = .ok tree ∧
      mentionsOf book home key = mentionsOn book home words := by
  obtain ⟨words, hwords, hread⟩ := bind_eq_ok_iff.mp hparsed
  exact ⟨words, hwords, hread, by simp [mentionsOf, hentry, hwords, Except.toOption]⟩

/-- Whether what is kept of the mentions of a tree has been found. -/
def Finds (book : Workbook) (home : Nat) (keep : Mention → Prop) (found : List Mention)
    (tree : Expr) : Prop :=
  ∀ mention ∈ tree.mentions book.sheetIndex home, keep mention → mention ∈ found.map Mention.upper

/-- What is kept of all that a tree leads to is mentioned by its tokens or by the definitions that
they lead to, if that holds of the tree and of each definition by itself and names are kept. -/
theorem mem_all_of_finds (keep : Mention → Prop) (hnames : ∀ sheet name, keep (.name sheet name))
    {tokens : List Token} {tree : Expr}
    (hwritten : Finds book home keep (mentionsOn book home tokens) tree)
    (hdefined : ∀ key ∈ definitionsReached book home (mentionsOn book home tokens),
      ∀ definition inner, book.names.entries[key]? = some definition →
        definition.parsed = .ok inner → Finds book home keep (mentionsOf book home key) inner)
    {mention : Mention} (h : tree.LeadsTo book home mention) (hkeep : keep mention) :
    mention ∈ (allMentions book home tokens).map Mention.upper := by
  obtain ⟨first, hfirst, hleads⟩ := h
  induction hleads with
  | refl => exact List.map_subset _ (List.subset_append_left _ _) (hwritten _ hfirst hkeep)
  | tail _ hnext ih =>
      -- a name among the mentions leads on by its definition, which is then reached
      obtain ⟨sheet, name, definition, inner, rfl, hdefinition, hinner, hmention⟩ := hnext
      obtain ⟨found, hfound, hupper⟩ := List.mem_map.mp (ih (hnames sheet name))
      obtain rfl := upper_eq_name hupper
      have hreached := mentions_of_mem_all hfound hdefinition
      have hfinds := hdefined _ hreached definition inner (NameTable.get_key_of_get hdefinition)
        hinner
      refine List.map_subset _ (fun other hother => ?_) (hfinds _ hmention hkeep)
      exact List.mem_append_right _ (List.mem_flatMap.mpr ⟨_, hreached, hother⟩)

/-- Where every colon stands between two addresses, nothing that a tree leads to is missed. -/
theorem mem_all_of_leads_to {tokens : List Token} {tree : Expr}
    (hparse : Formula.parseTokens tokens = .ok tree) (hdirect : ReadsDirectly book home tokens)
    {mention : Mention} (h : tree.LeadsTo book home mention) :
    mention ∈ (allMentions book home tokens).map Mention.upper := by
  refine mem_all_of_finds (fun _ => True) (fun _ _ => trivial) (fun other hother _ => ?_)
    (fun key hkey definition inner hentry hparsed other hother _ => ?_) h trivial
  · rwa [← (colons_direct_iff hparse).mp hdirect.1] at hother
  · obtain ⟨words, hwords, hread, hmentions⟩ := mentions_of_parsed hentry hparsed
    have hinnerDirect := hdirect.2 key hkey definition words inner hentry hwords hread
    rw [hmentions]
    rwa [← (colons_direct_iff hread).mp hinnerDirect] at hother

/-- References read the cells of what was mentioned. -/
theorem reads_of_covers {found : List Mention} {mention : Mention} {sheet : Nat}
    {position : Position} (hmention : mention ∈ found.map Mention.upper)
    (hcovers : mention.Covers sheet position) :
    (References.ofMentions found).reads sheet position = true := by
  obtain ⟨written, hwritten, rfl⟩ := List.mem_map.mp hmention
  cases written with
  | cell on place =>
      obtain ⟨rfl, rfl⟩ := hcovers
      have hcell : (on, place) ∈ (References.ofMentions found).cells :=
        List.mem_filterMap.mpr ⟨_, hwritten, rfl⟩
      simp [References.reads, hcell]
  | range on area =>
      obtain ⟨rfl, hcontains⟩ := hcovers
      have hrange : (on, area) ∈ (References.ofMentions found).ranges :=
        List.mem_filterMap.mpr ⟨_, hwritten, rfl⟩
      rw [References.reads, Bool.or_eq_true]
      exact .inr (List.any_eq_true.mpr ⟨_, hrange, by simpa using hcontains⟩)
  | name | function => cases hcovers

/-- The value of a formula depends on nothing but the cells that its references read, if every colon
stands between two addresses, in the formula and in the definitions that it leads to. -/
theorem evaluate_eq_of_direct {left right : Workbook} (hframe : left.SameFrame right) {home : Nat}
    {tokens : List Token} {tree : Expr} (hparse : Formula.parseTokens tokens = .ok tree)
    (hdirect : ReadsDirectly left home tokens)
    (hshown : ∀ sheet position, (References.ofTokens left home tokens).reads sheet position = true →
      left.shown sheet position = right.shown sheet position)
    (position : Position) (moment otherMoment : Moment) (seed otherSeed : Seed)
    (hchance : tree.Steady left home ∨ moment = otherMoment ∧ seed = otherSeed) :
    Evaluation.evaluate (.ofCell left home position moment) tree seed =
      Evaluation.evaluate (.ofCell right home position otherMoment) tree otherSeed :=
  Evaluation.evaluate_congr hframe (fun _ hleads _ _ hcovers =>
    hshown _ _ (reads_of_covers (mem_all_of_leads_to hparse hdirect hleads) hcovers))
    moment otherMoment seed otherSeed hchance

/-- What is read off the tokens of a formula is what its tree mentions exactly if every colon
stands between two addresses. If that holds in the definitions that the formula leads to as well,
its value is the same in all workbooks with the same sheets, names and dates that show the same at
the cells that were found. -/
theorem evaluate_eq_of_reads {tokens : List Token} {tree : Expr}
    (hparse : Formula.parseTokens tokens = .ok tree) :
    (Formula.ColonsDirect tokens ↔ ∀ sheetIndex home,
      (mentions sheetIndex home (some home) tokens).map Mention.upper =
        tree.mentions sheetIndex home) ∧
    ∀ (left right : Workbook) (home : Nat), left.SameFrame right → ReadsDirectly left home tokens →
      (∀ sheet position, (References.ofTokens left home tokens).reads sheet position = true →
        left.shown sheet position = right.shown sheet position) →
      ∀ (position : Position) (moment otherMoment : Moment) (seed otherSeed : Seed),
        (tree.Steady left home ∨ moment = otherMoment ∧ seed = otherSeed) →
          Evaluation.evaluate (.ofCell left home position moment) tree seed =
            Evaluation.evaluate (.ofCell right home position otherMoment) tree otherSeed :=
  ⟨colons_direct_iff hparse, fun _ _ _ => fun hframe hdirect hshown =>
    evaluate_eq_of_direct hframe hparse hdirect hshown⟩

section Samples

/-- A sheet with a text in `A2`. -/
def sampleSheet : Worksheet := (Worksheet.blank "Sheet1").insert ⟨1, 0⟩ (.text "x") ⟨by decide, rfl⟩

/-- The tokens of `A1:A3` lead to the cells of this range only, whatever stands in `C1`. -/
theorem evaluate_eq_of_reads_of_direct_range :
    let tokens : List Token :=
      [.cell ⟨0, 0, false, false⟩, .symbol .colon, .cell ⟨2, 0, false, false⟩]
    let tree : Expr := .range none (.ofCorners ⟨0, 0, false, false⟩ ⟨2, 0, false, false⟩)
    let left := Workbook.ofSheet sampleSheet
    let right := Workbook.ofSheet (sampleSheet.insert ⟨0, 2⟩ (.text "y") ⟨by decide, rfl⟩)
    Formula.parseTokens tokens = .ok tree ∧ ReadsDirectly left 0 tokens ∧
      left.shown 0 ⟨0, 2⟩ = .empty ∧ right.shown 0 ⟨0, 2⟩ = .text "y" ∧
      Evaluation.evaluate (.ofCell left 0 ⟨0, 1⟩ default) tree default =
        Evaluation.evaluate (.ofCell right 0 ⟨0, 1⟩ default) tree default := by
  intro tokens tree left right
  have hparse : Formula.parseTokens tokens = .ok tree := rfl
  have hdirect : ReadsDirectly left 0 tokens := by
    have hnone : definitionsReached left 0 (mentionsOn left 0 tokens) = [] := by decide +kernel
    refine ⟨by simp [tokens, Formula.ColonsDirect, Formula.MayTouch], ?_⟩
    simp [hnone]
  have hreferences : References.ofTokens left 0 tokens =
      ⟨[], [(0, .ofPositions ⟨0, 0⟩ ⟨2, 0⟩)], false⟩ := rfl
  refine ⟨hparse, hdirect, rfl, rfl, ?_⟩
  refine (evaluate_eq_of_reads hparse).2 left right 0 ⟨rfl, rfl, rfl⟩ hdirect
    (fun sheet position hreads => ?_) _ _ _ _ _ (.inr ⟨rfl, rfl⟩)
  refine (Workbook.shown_of_insert _ ?_ sheet).symm
  rintro rfl
  rw [hreferences] at hreads
  simp [References.reads, CellRange.contains, CellRange.ofPositions, CellRange.ofCorners,
    Address.ofPosition] at hreads

/-- Of the range `Sheet1!A1:Sheet1!A3` only the corners are found, so that its value changes with
`A2` although no cell that was found does. -/
theorem indirect_range_not_covered :
    ∃ (left right : Workbook) (tokens : List Token) (tree : Expr),
      Formula.tokens "=Sheet1!A1:Sheet1!A3" = .ok tokens ∧ Formula.parseTokens tokens = .ok tree ∧
        left.SameFrame right ∧
        (∀ sheet position, (References.ofTokens left 0 tokens).reads sheet position = true →
          left.shown sheet position = right.shown sheet position) ∧
        Evaluation.evaluate (.ofCell left 0 ⟨0, 1⟩ default) tree default ≠
          Evaluation.evaluate (.ofCell right 0 ⟨0, 1⟩ default) tree default := by
  let tokens : List Token := [.sheet "Sheet1", .cell ⟨0, 0, false, false⟩, .symbol .colon,
    .sheet "Sheet1", .cell ⟨2, 0, false, false⟩]
  let tree : Expr := .range (some "Sheet1") (.ofCorners ⟨0, 0, false, false⟩ ⟨2, 0, false, false⟩)
  refine ⟨.new, Workbook.ofSheet sampleSheet, tokens, tree, by decide +kernel, rfl, ⟨rfl, rfl, rfl⟩,
    ?_, ?_⟩
  · intro sheet position hreads
    refine (Workbook.shown_of_insert _ ?_ sheet).symm
    rintro rfl
    have hreferences : References.ofTokens .new 0 tokens =
        ⟨[(0, ⟨0, 0⟩), (0, ⟨2, 0⟩)], [], false⟩ := rfl
    rw [hreferences] at hreads
    simp [References.reads] at hreads
  · have hblank : Evaluation.evaluate (.ofCell .new 0 ⟨0, 1⟩ default) tree default =
        .ok (.array [[.empty], [.empty], [.empty]]) := rfl
    have htext :
        Evaluation.evaluate (.ofCell (.ofSheet sampleSheet) 0 ⟨0, 1⟩ default) tree default =
          .ok (.array [[.empty], [.text "x"], [.empty]]) := rfl
    rw [hblank, htext]
    simp

end Samples

end Dependency

end Spreadsheet
