import Spreadsheet.Evaluation.Context
import Spreadsheet.Proofs.Results

/-!
# Names of sheets

Sheets are found by their names, whatever the case, so each of them is found under its own name as
long as no two have the same one. A new sheet gets a name that no sheet has. A sheet that is there
already takes every name it is given, also that of another sheet. The main theorem,
`sheets_named_apart_iff`, follows a workbook through any number of changes: all sheets are found
under their own names, at any time, exactly if no sheet is ever given the name of another one.
-/

namespace Spreadsheet

/-! ## Changes of a sheet -/

namespace Worksheet

/-- A change of a sheet. -/
inductive Change where
  | write (position : Position) (content : Cell)
  | writeAt (address : String) (content : Cell)
  | storeResult (position : Position) (result : Cell)
  | clear (position : Position)
  | setRowHidden (row : Nat) (hidden : Bool)
  | rename (name : String)

/-- The name that a change gives to the sheet. -/
def Change.name? : Change → Option String
  | rename name => some name
  | write _ _ | writeAt _ _ | storeResult _ _ | clear _ | setRowHidden _ _ => none

/-- The sheet after a change, which may be refused. -/
def changed (sheet : Worksheet) : Change → Except DocumentError Worksheet
  | .write position content => sheet.write position content
  | .writeAt address content => sheet.writeAt address content
  | .storeResult position result => sheet.storeResult position result
  | .clear position => .ok (sheet.clear position)
  | .setRowHidden row hidden => .ok (sheet.setRowHidden row hidden)
  | .rename name => .ok (sheet.rename name)

section Names

variable {sheet after : Worksheet} {position : Position} {content : Cell}

/-- Writing a cell leaves the name of the sheet alone. -/
theorem name_of_write (h : sheet.write position content = .ok after) : after.name = sheet.name := by
  unfold write at h
  split at h
  · cases h
  · split at h
    · cases h
      rfl
    · cases h
      rfl

/-- Storing a result leaves the name of the sheet alone. -/
theorem name_of_store_result (h : sheet.storeResult position content = .ok after) :
    after.name = sheet.name := by
  unfold storeResult at h
  split at h
  · cases h
    rfl
  · cases h

/-- A sheet keeps its name unless it is given another one. -/
theorem name_of_changed {change : Change} (h : sheet.changed change = .ok after) :
    after.name = change.name?.getD sheet.name := by
  cases change with
  | write position content => exact name_of_write h
  | writeAt address content =>
      obtain ⟨parsed, -, hwrite⟩ := bind_eq_ok_iff.mp h
      exact name_of_write hwrite
  | storeResult position result => exact name_of_store_result h
  | clear position =>
      cases h
      rfl
  | setRowHidden row hidden =>
      cases h
      rfl
  | rename name =>
      cases h
      rfl

/-- A sheet is never refused a name. -/
theorem changed_of_name {change : Change} {name : String} (h : change.name? = some name) :
    sheet.changed change = .ok (sheet.rename name) := by
  cases change with
  | rename given =>
      obtain rfl := Option.some.inj h
      rfl
  | write | writeAt | storeResult | clear | setRowHidden => cases h

end Names

end Worksheet

namespace Workbook

/-! ## Finding sheets -/

section Finding

variable {book : Workbook} {name : String} {index : Nat}

/-- No sheet is found under a name exactly if none has it in lower case. -/
theorem sheet_index_eq_none_iff : book.sheetIndex name = none ↔
    ∀ sheet ∈ book.sheets, Text.lower sheet.name ≠ Text.lower name := by
  simp [sheetIndex]

/-- A sheet is found under a name if it bears the name and no sheet before it does. -/
theorem sheet_index_eq_some_iff : book.sheetIndex name = some index ↔
    (∃ sheet, book.sheet? index = some sheet ∧ Text.lower sheet.name = Text.lower name) ∧
      ∀ earlier other, earlier < index → book.sheet? earlier = some other →
        Text.lower other.name ≠ Text.lower name := by
  simp only [sheetIndex, List.findIdx?_eq_some_iff_getElem, beq_iff_eq, sheet?,
    List.getElem?_eq_some_iff]
  constructor
  · intro ⟨hindex, hsame, hearlier⟩
    refine ⟨⟨_, ⟨hindex, rfl⟩, hsame⟩, ?_⟩
    intro earlier other hless ⟨_, hother⟩
    exact hother ▸ hearlier earlier hless
  · intro ⟨⟨sheet, ⟨hindex, hsheet⟩, hsame⟩, hearlier⟩
    refine ⟨hindex, hsheet ▸ hsame, fun earlier hless => ?_⟩
    exact hearlier earlier _ hless ⟨by omega, rfl⟩

end Finding

/-- No two sheets have the same name, whatever the case. -/
def NamedApart (book : Workbook) : Prop :=
  book.sheets.Pairwise fun left right => Text.lower left.name ≠ Text.lower right.name

instance (book : Workbook) : Decidable book.NamedApart :=
  inferInstanceAs (Decidable (book.sheets.Pairwise _))

/-- Where sheets are named apart, the name of a sheet determines its number. -/
theorem named_apart_iff {book : Workbook} : book.NamedApart ↔
    ∀ index other sheet found, book.sheet? index = some sheet → book.sheet? other = some found →
      Text.lower sheet.name = Text.lower found.name → index = other := by
  simp only [NamedApart, List.pairwise_iff_getElem, sheet?, List.getElem?_eq_some_iff]
  constructor
  · intro hapart index other sheet found ⟨hindex, hsheet⟩ ⟨hother, hfound⟩ hsame
    subst hsheet hfound
    obtain hless | heq | hless := Nat.lt_trichotomy index other
    · exact absurd hsame (hapart _ _ hindex hother hless)
    · exact heq
    · exact absurd hsame.symm (hapart _ _ hother hindex hless)
  · intro hnumber index other hindex hother hless hsame
    exact Nat.ne_of_lt hless (hnumber _ _ _ _ ⟨hindex, rfl⟩ ⟨hother, rfl⟩ hsame)

/-- Sheets are named apart exactly if each is found under its own name. -/
theorem named_apart_iff_found {book : Workbook} : book.NamedApart ↔
    ∀ index sheet, book.sheet? index = some sheet → book.sheetIndex sheet.name = some index := by
  constructor
  · intro hapart index sheet hsheet
    refine sheet_index_eq_some_iff.mpr ⟨⟨sheet, hsheet, rfl⟩, ?_⟩
    intro earlier other hless hother hsame
    exact absurd (named_apart_iff.mp hapart _ _ _ _ hother hsheet hsame) (Nat.ne_of_lt hless)
  · intro hfound
    refine named_apart_iff.mpr ?_
    intro index other sheet found hsheet hother hsame
    have hindex := hfound index sheet hsheet
    have hagain := hfound other found hother
    rw [sheetIndex, hsame] at hindex
    exact Option.some.inj (hindex.symm.trans hagain)

/-! ## Changes of a workbook -/

/-- A change of a workbook. -/
inductive Change where
  | addSheet
  | addSheetNamed (name : String)
  /-- Changes a sheet, if there is one of this number. -/
  | alter (index : Nat) (change : Worksheet.Change)

/-- The workbook after a change, which may be refused. -/
def changed (book : Workbook) : Change → Except DocumentError Workbook
  | .addSheet => book.addSheet.map Prod.snd
  | .addSheetNamed name => (book.addSheetNamed name).map Prod.snd
  | .alter index change =>
    match book.sheet? index with
    | none => .ok book
    | some sheet => (sheet.changed change).map (book.setSheet index)

/-- The workbook that a change leaves; one that is refused changes nothing. -/
def next (book : Workbook) (change : Change) : Workbook :=
  (book.changed change).toOption.getD book

/-- The workbook after some changes. -/
def after (history : List Change) (book : Workbook) : Workbook := history.foldl next book

/-- Whether a change gives a sheet the name of another one, whatever the case. -/
def TakesName (book : Workbook) : Change → Prop
  | .addSheet | .addSheetNamed _ => False
  | .alter index change => index < book.sheetCount ∧ ∃ name ∈ change.name?,
      ∃ other ∈ book.sheets.eraseIdx index, Text.lower other.name = Text.lower name

instance (book : Workbook) (change : Change) : Decidable (book.TakesName change) :=
  match change with
  | .addSheet | .addSheetNamed _ => inferInstanceAs (Decidable False)
  | .alter _ _ => inferInstanceAs (Decidable (_ ∧ _))

section Steps

variable {book : Workbook} {name : String}

/-- A name that passes its check is not taken. -/
theorem unused_of_check_sheet_name (h : book.checkSheetName name = .ok ()) :
    book.sheetIndex name = none := by
  unfold checkSheetName at h
  dsimp only at h
  split at h
  · cases h
  split at h
  · cases h
  split at h
  · cases h
  split at h
  · cases h
  split at h
  · cases h
  · simpa using ‹¬(book.sheetIndex name).isSome = true›

/-- A sheet is added at the end, under a name that no sheet has. -/
theorem add_sheet_named_eq_ok {result : Nat × Workbook} (h : book.addSheetNamed name = .ok result) :
    book.sheetIndex name = none ∧
      result = (book.sheetCount, { book with sheets := book.sheets ++ [.blank name] }) := by
  obtain ⟨_, hcheck, hadded⟩ := bind_eq_ok_iff.mp h
  exact ⟨unused_of_check_sheet_name hcheck, (Except.ok.inj hadded).symm⟩

/-- Behind sheets that are named apart, one with a name of its own is named apart. -/
theorem NamedApart.append {sheet : Worksheet} (h : book.NamedApart)
    (hunused : book.sheetIndex sheet.name = none) :
    NamedApart { book with sheets := book.sheets ++ [sheet] } := by
  refine List.pairwise_append.mpr ⟨h, List.pairwise_singleton _ _, ?_⟩
  intro other hother last hlast
  obtain rfl := List.mem_singleton.mp hlast
  exact sheet_index_eq_none_iff.mp hunused other hother

/-- Where another sheet takes the place of one, sheets stay named apart exactly if no other one has
its name. -/
theorem NamedApart.set_sheet_iff (h : book.NamedApart) {index : Nat}
    (hindex : index < book.sheetCount) (sheet : Worksheet) :
    (book.setSheet index sheet).NamedApart ↔
      ∀ other ∈ book.sheets.eraseIdx index, Text.lower other.name ≠ Text.lower sheet.name := by
  have hplaces : ∀ other, (book.setSheet index sheet).sheet? other =
      if other = index then some sheet else book.sheet? other := by
    intro other
    simp only [sheet?, setSheet, List.getElem?_set]
    by_cases hsame : index = other
    · subst hsame
      rw [if_pos rfl, if_pos rfl]
      exact if_pos hindex
    · rw [if_neg hsame, if_neg (Ne.symm hsame)]
  simp only [named_apart_iff, hplaces, List.mem_eraseIdx_iff_getElem?]
  constructor
  · intro hnumber found ⟨other, hother, hfound⟩ hsame
    refine hother (hnumber other index found sheet ?_ (if_pos rfl) hsame)
    rw [if_neg hother]
    exact hfound
  · intro hothers first second left right hleft hright hsame
    by_cases hfirst : first = index <;> by_cases hsecond : second = index
    · rw [hfirst, hsecond]
    · rw [if_pos hfirst] at hleft
      rw [if_neg hsecond] at hright
      cases hleft
      exact absurd hsame.symm (hothers _ ⟨_, hsecond, hright⟩)
    · rw [if_neg hfirst] at hleft
      rw [if_pos hsecond] at hright
      cases hright
      exact absurd hsame (hothers _ ⟨_, hfirst, hleft⟩)
    · rw [if_neg hfirst] at hleft
      rw [if_neg hsecond] at hright
      exact named_apart_iff.mp h _ _ _ _ hleft hright hsame

/-- Sheets stay named apart when one is added, which may be refused. -/
theorem NamedApart.added (h : book.NamedApart) :
    (((book.addSheetNamed name).map Prod.snd).toOption.getD book).NamedApart := by
  cases hadded : book.addSheetNamed name with
  | error refusal => exact h
  | ok result =>
      obtain ⟨hunused, rfl⟩ := add_sheet_named_eq_ok hadded
      exact h.append hunused

/-- Sheets stay named apart by a change of one of them exactly if it does not take the name of
another. -/
theorem NamedApart.altered_iff (h : book.NamedApart) {index : Nat} {sheet : Worksheet}
    (hsheet : book.sheet? index = some sheet) (change : Worksheet.Change) :
    (((sheet.changed change).map (book.setSheet index)).toOption.getD book).NamedApart ↔
      ¬ book.TakesName (.alter index change) := by
  obtain ⟨hindex, -⟩ := List.getElem?_eq_some_iff.mp hsheet
  cases hchanged : sheet.changed change with
  | error refusal =>
      refine iff_of_true h ?_
      intro ⟨_, name, hname, _⟩
      rw [Worksheet.changed_of_name hname] at hchanged
      cases hchanged
  | ok after =>
      show (book.setSheet index after).NamedApart ↔ _
      rw [h.set_sheet_iff hindex, Worksheet.name_of_changed hchanged]
      cases hname : change.name? with
      | none =>
          refine iff_of_true ?_ ?_
          · intro found hfound hsame
            obtain ⟨other, hother, hfound⟩ := List.mem_eraseIdx_iff_getElem?.mp hfound
            exact hother (named_apart_iff.mp h _ _ _ _ hfound hsheet hsame)
          · intro ⟨_, name, hgiven, _⟩
            rw [hname] at hgiven
            cases hgiven
      | some name =>
          constructor
          · intro hothers ⟨_, given, hgiven, other, hother, hsame⟩
            rw [hname] at hgiven
            cases hgiven
            exact hothers other hother hsame
          · intro hnot other hother hsame
            exact hnot ⟨hindex, name, hname, other, hother, hsame⟩

/-- Sheets stay named apart by a change exactly if it does not give one the name of another. -/
theorem NamedApart.next_iff (h : book.NamedApart) (change : Change) :
    (book.next change).NamedApart ↔ ¬ book.TakesName change := by
  cases change with
  | addSheet => exact iff_of_true h.added not_false
  | addSheetNamed name => exact iff_of_true h.added not_false
  | alter index change =>
      cases hsheet : book.sheet? index with
      | none =>
          have hnext : book.next (.alter index change) = book := by
            rw [next, changed, hsheet]
            rfl
          rw [hnext]
          refine iff_of_true h fun htakes => ?_
          exact absurd htakes.1 (Nat.not_lt.mpr (List.getElem?_eq_none_iff.mp hsheet))
      | some sheet =>
          rw [next, changed, hsheet]
          exact h.altered_iff hsheet change

end Steps

/-! ## Histories -/

/-- Sheets are named apart throughout some changes exactly if none of these gives a sheet the name
of another one. -/
theorem NamedApart.throughout_iff {book : Workbook} (h : book.NamedApart) (history : List Change) :
    (∀ count, (after (history.take count) book).NamedApart) ↔
      ∀ count, (hcount : count < history.length) →
        ¬ (after (history.take count) book).TakesName history[count] := by
  induction history generalizing book with
  | nil =>
      refine iff_of_true (fun count => ?_) nofun
      rw [List.take_nil]
      exact h
  | cons change history ih =>
      constructor
      · intro hapart count hcount
        have hnext : (book.next change).NamedApart := hapart 1
        cases count with
        | zero => exact (h.next_iff change).mp hnext
        | succ count =>
            have hlater := (ih hnext).mp fun count => hapart (count + 1)
            exact hlater count (Nat.lt_of_succ_lt_succ hcount)
      · intro huntaken count
        have hnext := (h.next_iff change).mpr (huntaken 0 (Nat.succ_pos _))
        cases count with
        | zero => exact h
        | succ count =>
            exact (ih hnext).mpr (fun count hcount =>
              huntaken (count + 1) (Nat.succ_lt_succ hcount)) count

/-- Every sheet name before a reference leads to the sheet that bears it, in any case and wherever
the formula stands. -/
def PrefixesLead (book : Workbook) : Prop :=
  ∀ index sheet, book.sheet? index = some sheet →
    ∀ spelling, Text.lower spelling = Text.lower sheet.name →
      ∀ (home : Nat) (position : Position) (moment : Moment),
        (Context.ofCell book home position moment).sheetIndex (some spelling) = .ok index

/-- Where sheets are named apart, every sheet name before a reference leads to the sheet that bears
it. -/
theorem NamedApart.prefixes_lead {book : Workbook} (h : book.NamedApart) : book.PrefixesLead := by
  intro index sheet hsheet spelling hspelling home position moment
  have hindex : book.sheetIndex spelling = some index := by
    rw [sheetIndex, hspelling]
    exact named_apart_iff_found.mp h index sheet hsheet
  show (book.sheetIndex spelling).elim _ _ = _
  rw [hindex]
  rfl

/-- From a new or an empty workbook on, throughout any changes of it, no two sheets have the same
name, each is found under its own name, and every sheet name before a reference leads to the sheet
that bears it, exactly if no change gives a sheet the name of another one. -/
theorem sheets_named_apart_iff {book : Workbook} (hstart : book = new ∨ book = empty)
    (history : List Change) :
    (∀ count, let reached := after (history.take count) book
      reached.NamedApart ∧
        (∀ index sheet, reached.sheet? index = some sheet →
          reached.sheetIndex sheet.name = some index) ∧
        reached.PrefixesLead) ↔
      ∀ count, (hcount : count < history.length) →
        ¬ (after (history.take count) book).TakesName history[count] := by
  have hapart : book.NamedApart := by
    obtain rfl | rfl := hstart <;> decide
  rw [← hapart.throughout_iff]
  constructor
  · intro hnamed count
    exact (hnamed count).1
  · intro hnamed count
    exact ⟨hnamed count, named_apart_iff_found.mp (hnamed count), (hnamed count).prefixes_lead⟩

/-- The first sheet gets a new name, the second one the name that it has in upper case. -/
theorem sheets_named_apart_iff_of_renamed :
    let history : List Change :=
      [.addSheetNamed "Data", .alter 0 (.rename "Summary"), .alter 1 (.rename "DATA")]
    (after history new).sheets.map Worksheet.name = ["Summary", "DATA"] ∧
      (after history new).NamedApart ∧ (after history new).PrefixesLead := by
  intro history
  have huntaken : ∀ count, (hcount : count < history.length) →
      ¬ (after (history.take count) new).TakesName history[count] := by
    decide +kernel
  obtain ⟨hapart, -, hlead⟩ := (sheets_named_apart_iff (.inl rfl) history).mpr huntaken 3
  exact ⟨by decide +kernel, hapart, hlead⟩

/-- Two sheets of which the second is given the name of the first, which is then found for it. -/
theorem renamed_sheet_not_found :
    let book := after [.addSheet, .alter 1 (.rename "sheet1")] new
    (book.sheet? 1).map Worksheet.name = some "sheet1" ∧ book.sheetIndex "sheet1" = some 0 ∧
      ¬ book.NamedApart := by
  decide +kernel

end Workbook

end Spreadsheet
