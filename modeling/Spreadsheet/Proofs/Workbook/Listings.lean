import Mathlib.Logic.Function.Basic
import Spreadsheet.Proofs.Address.Walk
import Spreadsheet.Proofs.Prefixes
import Spreadsheet.Proofs.Workbook.SheetNames

/-!
# What a sheet lists

A sheet is followed through any changes, refused ones included, beside a record of what each change
leaves at each position. The listings of the sheet are then compared with the record: they give
every recorded cell once and row by row, and the used range is the smallest one that holds them all.
The main theorem is `listings_of_history`; the stored cells are sorted, so the cells of a range are
found between two positions, and the rows of the used range at both ends of the listing.
-/

namespace Spreadsheet

/-! ## Order of positions -/

/-- A position is less than another one exactly if it comes before it, row by row. -/
theorem Position.order_eq_lt_iff {left right : Position} :
    Position.order left right = .lt ↔ left.Before right := by
  simp [Position.order, Position.Before, Ordering.then_eq_lt, Nat.compare_eq_lt]

/-- A position is greater than another one exactly if it comes behind it, row by row. -/
theorem Position.order_eq_gt_iff {left right : Position} :
    Position.order left right = .gt ↔ right.Before left := by
  rw [← Position.order_eq_lt_iff, Std.OrientedCmp.gt_iff_lt]

namespace Worksheet

/-! ## Records of changes -/

/-- What is stored at a position. -/
def stored (sheet : Worksheet) (position : Position) : Option Cell := sheet.cells[position]?

/-- The sheet that a change leaves; one that is refused changes nothing. -/
def next (sheet : Worksheet) (change : Change) : Worksheet :=
  (sheet.changed change).toOption.getD sheet

/-- The sheet after some changes. -/
def after (history : List Change) (sheet : Worksheet) : Worksheet := history.foldl next sheet

/-- A record with a cell written at a position of the grid; a blank leaves nothing there. -/
def recordWritten (before : Position → Option Cell) (position : Position) (content : Cell) :
    Position → Option Cell :=
  if position.InGrid then
    Function.update before position (if content.isEmpty then none else some content)
  else before

/-- The record that a change leaves. -/
def Change.recordAfter (before : Position → Option Cell) : Change → Position → Option Cell
  | .write position content => recordWritten before position content
  | .writeAt address content =>
    match Address.parse address with
    | .ok parsed => recordWritten before parsed.position content
    | .error _ => before
  | .storeResult position result =>
    match before position with
    | some (.formula source _) =>
      Function.update before position (some (.formula source (some result)))
    | _ => before
  | .clear position => Function.update before position none
  | .setRowHidden _ _ | .rename _ => before

/-- The record of some changes, beginning without any cell. -/
def record (history : List Change) : Position → Option Cell :=
  history.foldl Change.recordAfter fun _ => none

section Records

variable {sheet : Worksheet} {position : Position} {content : Cell}
  {before : Position → Option Cell}

/-- Inserting a cell stores it there and nothing elsewhere. -/
theorem stored_insert (h : content.FitsAt position) :
    (sheet.insert position content h).stored =
      Function.update sheet.stored position (some content) := by
  funext other
  rw [stored, insert, Std.ExtTreeMap.getElem?_insert, Function.update_apply]
  exact if_congr (Std.LawfulEqCmp.compare_eq_iff_eq.trans eq_comm) rfl rfl

/-- Clearing a cell takes what is stored there and nothing elsewhere. -/
theorem stored_clear :
    (sheet.clear position).stored = Function.update sheet.stored position none := by
  funext other
  rw [stored, clear, Std.ExtTreeMap.getElem?_erase, Function.update_apply]
  exact if_congr (Std.LawfulEqCmp.compare_eq_iff_eq.trans eq_comm) rfl rfl

/-- The cells stored after a write are those recorded, whether it is refused or not. -/
theorem stored_write :
    ((sheet.write position content).toOption.getD sheet).stored =
      recordWritten sheet.stored position content := by
  unfold write recordWritten
  split
  · rename_i refusal hrefused
    have houtside : ¬ position.InGrid := fun hgrid => by
      rw [Position.check_eq_ok_iff.mpr hgrid] at hrefused
      cases hrefused
    rw [if_neg houtside]
    rfl
  · rename_i hgrid
    rw [if_pos (Position.check_eq_ok_iff.mp hgrid)]
    split
    · exact stored_clear
    · rename_i hblank
      exact stored_insert ⟨Position.check_eq_ok_iff.mp hgrid, Bool.eq_false_iff.mpr hblank⟩

/-- Storing a result changes what is stored as the record says, and nothing if it is refused. -/
theorem stored_store_result :
    ((sheet.storeResult position content).toOption.getD sheet).stored =
      (Change.storeResult position content).recordAfter sheet.stored := by
  unfold storeResult
  split
  · rename_i source earlier hstored
    simp only [Change.recordAfter, stored, hstored]
    exact stored_insert ⟨(sheet.fits _ _ hstored).1, rfl⟩
  · rename_i hother
    simp only [Change.recordAfter, stored]
    rfl

/-- The cells stored after a change are those recorded. -/
theorem stored_next (change : Change) :
    (sheet.next change).stored = change.recordAfter sheet.stored := by
  cases change with
  | write position content => exact stored_write
  | writeAt address content =>
      simp only [next, changed, writeAt, Change.recordAfter]
      cases Address.parse address with
      | error refusal => rfl
      | ok parsed => exact stored_write
  | storeResult position result => exact stored_store_result
  | clear position => exact stored_clear
  | setRowHidden row hidden => rfl
  | rename name => rfl

/-- The cells stored after some changes are those recorded. -/
theorem stored_after (history : List Change) :
    (sheet.after history).stored = history.foldl Change.recordAfter sheet.stored := by
  induction history generalizing sheet with
  | nil => rfl
  | cons change history ih =>
      rw [List.foldl_cons, ← stored_next, ← ih, after, after, List.foldl_cons]

/-! ## What a record holds -/

/-- Whether all recorded cells may be stored where they are. -/
def Fit (recorded : Position → Option Cell) : Prop :=
  ∀ position content, recorded position = some content → content.FitsAt position

/-- A record fits if what is changed in it does. -/
theorem Fit.update (h : Fit before) {content : Option Cell}
    (hfits : ∀ stored ∈ content, stored.FitsAt position) :
    Fit (Function.update before position content) := by
  intro other stored hstored
  rw [Function.update_apply] at hstored
  split at hstored
  · subst other
    exact hfits stored hstored
  · exact h other stored hstored

/-- A record fits after a cell is written. -/
theorem Fit.written (h : Fit before) : Fit (recordWritten before position content) := by
  unfold recordWritten
  split
  · rename_i hgrid
    refine h.update fun stored hstored => ?_
    split at hstored
    · cases hstored
    · rename_i hblank
      obtain rfl := Option.some.inj hstored
      exact ⟨hgrid, Bool.eq_false_iff.mpr hblank⟩
  · exact h

/-- A change leaves cells of the grid that are not blank, if there were no others before. -/
theorem Fit.recordAfter (h : Fit before) (change : Change) : Fit (change.recordAfter before) := by
  cases change with
  | write position content => exact h.written
  | writeAt address content =>
      simp only [Change.recordAfter]
      split
      · exact h.written
      · exact h
  | storeResult position result =>
      simp only [Change.recordAfter]
      split
      · rename_i hstored
        refine h.update fun stored hresult => ?_
        obtain rfl := Option.some.inj hresult
        exact ⟨(h _ _ hstored).1, rfl⟩
      · exact h
  | clear position => exact h.update fun _ hnone => nomatch hnone
  | setRowHidden | rename => exact h

/-- The record of every history fits. -/
theorem fit_record (history : List Change) : Fit (record history) :=
  List.foldlRecOn history Change.recordAfter (fun _ _ hnone => nomatch hnone)
    fun _ h change _ => h.recordAfter change

end Records

/-! ## Listings -/

section Listings

variable {sheet : Worksheet} {position : Position} {content : Cell} {range : CellRange}

/-- The stored cells are listed row by row. -/
theorem listed_row_by_row (sheet : Worksheet) :
    sheet.cells.toList.Pairwise fun left right => left.1.Before right.1 :=
  sheet.cells.ordered_keys_toList.imp Position.order_eq_lt_iff.mp

/-- A cell is listed with its content exactly if that is stored there. -/
theorem mem_listed_iff :
    (position, content) ∈ sheet.cells.toList ↔ sheet.stored position = some content :=
  Std.ExtTreeMap.mem_toList_iff_getElem?_eq_some

/-- The cells between two positions are those of the whole listing that come neither before the one
nor after the other. -/
theorem cells_between_eq (first last : Position) : sheet.cellsBetween first last =
    sheet.cells.toList.filter fun entry =>
      Position.order entry.1 first != .lt && Position.order entry.1 last != .gt := by
  have hreached : sheet.cells.toList.Pairwise fun left right =>
      (Position.order right.1 first == .lt) = true → (Position.order left.1 first == .lt) = true :=
    sheet.listed_row_by_row.imp fun hbefore => by
      simp only [beq_iff_eq, Position.order_eq_lt_iff, Position.Before] at hbefore ⊢
      omega
  have hpassed : sheet.cells.toList.Pairwise fun left right =>
      (Position.order right.1 last != .gt) = true → (Position.order left.1 last != .gt) = true :=
    sheet.listed_row_by_row.imp fun hbefore => by
      simp only [bne_iff_ne, ne_eq, Position.order_eq_gt_iff, Position.Before] at hbefore ⊢
      omega
  unfold cellsBetween
  rw [drop_while_eq_filter hreached, take_while_eq_filter (hpassed.filter _), List.filter_filter]
  exact List.filter_congr fun entry _ => Bool.and_comm _ _

/-- A range lists its cells row by row. -/
theorem cells_in_row_by_row (sheet : Worksheet) (range : CellRange) :
    (sheet.cellsIn range).Pairwise fun left right => left.1.Before right.1 := by
  unfold cellsIn
  rw [cells_between_eq]
  exact (sheet.listed_row_by_row.filter _).filter _

/-- A range lists the stored cells that it contains. -/
theorem mem_cells_in_iff : (position, content) ∈ sheet.cellsIn range ↔
    sheet.stored position = some content ∧ range.contains position = true := by
  unfold cellsIn
  rw [cells_between_eq]
  simp only [List.mem_filter, mem_listed_iff, Bool.and_eq_true,
    bne_iff_ne, ne_eq, Position.order_eq_lt_iff, Position.order_eq_gt_iff, decide_eq_true_eq,
    CellRange.contains_iff_between, Position.Before, and_assoc]
  refine and_congr_right fun hstored => ?_
  -- the last column of the band is the last one of the grid
  have hcolumn : position.column < columnLimit := (sheet.fits _ _ hstored).1.2
  omega

/-- Formulas are listed row by row. -/
theorem formulas_row_by_row (sheet : Worksheet) :
    sheet.formulas.Pairwise fun left right => left.1.Before right.1 := by
  refine List.Pairwise.filterMap _ ?_ sheet.listed_row_by_row
  intro left right hbefore first hfirst second hsecond
  obtain ⟨-, -, rfl⟩ := Option.map_eq_some_iff.mp hfirst
  obtain ⟨-, -, rfl⟩ := Option.map_eq_some_iff.mp hsecond
  exact hbefore

/-- A content has the text of a formula exactly if it is a formula with that text. -/
theorem formula_text_eq_some_iff {source : String} :
    content.formulaText = some source ↔ ∃ result, content = .formula source result := by
  cases content with
  | formula text result => simp [Cell.formulaText]
  | empty | logical | number | text | error => simp [Cell.formulaText]

/-- The formulas listed are those of the stored cells. -/
theorem mem_formulas_iff {source : String} : (position, source) ∈ sheet.formulas ↔
    ∃ result, sheet.stored position = some (.formula source result) := by
  simp only [formulas, List.mem_filterMap, Option.map_eq_some_iff, formula_text_eq_some_iff,
    Prod.mk.injEq, Prod.exists, mem_listed_iff]
  constructor
  · rintro ⟨_, _, hstored, _, ⟨result, rfl⟩, rfl, rfl⟩
    exact ⟨result, hstored⟩
  · rintro ⟨result, hstored⟩
    exact ⟨position, _, hstored, source, ⟨result, rfl⟩, rfl, rfl⟩

end Listings

/-! ## The used range -/

section UsedRange

variable {sheet : Worksheet} {first last position : Position} {range : CellRange}

/-- Whether a range contains all recorded cells. -/
def Encloses (recorded : Position → Option Cell) (range : CellRange) : Prop :=
  ∀ position content, recorded position = some content → range.contains position = true

/-- The positions of the cells are kept row by row. -/
theorem keys_row_by_row (sheet : Worksheet) : sheet.cells.keys.Pairwise Position.Before :=
  sheet.cells.ordered_keys.imp Position.order_eq_lt_iff.mp

/-- A position is kept exactly if a cell is stored there. -/
theorem mem_keys_iff : position ∈ sheet.cells.keys ↔
    ∃ content, sheet.stored position = some content := by
  rw [stored, Std.ExtTreeMap.mem_keys, Std.ExtTreeMap.mem_iff_isSome_getElem?,
    Option.isSome_iff_exists]

/-- No stored cell stands above the first one. -/
theorem first_row_le (hfirst : sheet.cells.keys.head? = some first)
    (h : position ∈ sheet.cells.keys) : first.row ≤ position.row := by
  obtain ⟨rest, hkeys⟩ := List.head?_eq_some_iff.mp hfirst
  have hsorted := sheet.keys_row_by_row
  rw [hkeys] at hsorted h
  rcases List.mem_cons.mp h with rfl | hrest
  · exact Nat.le_refl _
  · rcases List.rel_of_pairwise_cons hsorted hrest with hrow | ⟨hrow, -⟩
    · exact Nat.le_of_lt hrow
    · exact Nat.le_of_eq hrow

/-- No stored cell stands below the last one. -/
theorem row_le_last (hlast : sheet.cells.keys.getLast? = some last)
    (h : position ∈ sheet.cells.keys) : position.row ≤ last.row := by
  obtain ⟨front, hkeys⟩ := List.getLast?_eq_some_iff.mp hlast
  have hsorted := sheet.keys_row_by_row
  rw [hkeys] at hsorted h
  rcases List.mem_append.mp h with hfront | hend
  · rcases (List.pairwise_append.mp hsorted).2.2 _ hfront _ (List.mem_singleton_self _) with
      hrow | ⟨hrow, -⟩
    · exact Nat.le_of_lt hrow
    · exact Nat.le_of_eq hrow
  · exact Nat.le_of_eq (congrArg _ (List.mem_singleton.mp hend))

/-- Folding columns with a bound of two numbers gives a bound of them all. -/
theorem fold_columns_bound {bound : Nat → Nat → Nat} (within : Nat → Nat → Prop)
    [Std.Refl within] [IsTrans Nat within]
    (hbound : ∀ column other, within (bound column other) column ∧
      within (bound column other) other) (positions : List Position) (start : Nat) :
    within (positions.foldl (fun column position => bound column position.column) start) start ∧
      ∀ position ∈ positions, within
        (positions.foldl (fun column position => bound column position.column) start)
        position.column := by
  induction positions generalizing start with
  | nil => exact ⟨Std.Refl.refl start, fun _ hmem => nomatch hmem⟩
  | cons position rest ih =>
      obtain ⟨hstart, hrest⟩ := ih (bound start position.column)
      obtain ⟨hleft, hright⟩ := hbound start position.column
      refine ⟨IsTrans.trans _ _ _ hstart hleft, fun other hother => ?_⟩
      rcases List.mem_cons.mp hother with rfl | hlater
      · exact IsTrans.trans _ _ _ hstart hright
      · exact hrest other hlater

/-- No column lies before the first one. -/
theorem fold_min_le {positions : List Position} (h : position ∈ positions) (start : Nat) :
    positions.foldl (fun column position => min column position.column) start ≤ position.column :=
  (fold_columns_bound (· ≤ ·) (fun _ _ => ⟨Nat.min_le_left _ _, Nat.min_le_right _ _⟩)
    positions start).2 position h

/-- No column lies behind the last one. -/
theorem le_fold_max {positions : List Position} (h : position ∈ positions) (start : Nat) :
    position.column ≤ positions.foldl (fun column position => max column position.column) start :=
  (fold_columns_bound (· ≥ ·) (fun _ _ => ⟨Nat.le_max_left _ _, Nat.le_max_right _ _⟩)
    positions start).2 position h

/-- The used range ends at the rows of the first and the last stored cell, and at the least and the
greatest of the columns. -/
theorem used_range_sides (h : sheet.usedRange = some range) :
    ∃ first last, sheet.cells.keys.head? = some first ∧ sheet.cells.keys.getLast? = some last ∧
      range.first.row = first.row ∧ range.last.row = last.row ∧
      range.first.column = sheet.cells.keys.foldl
        (fun column position => min column position.column) first.column ∧
      range.last.column = sheet.cells.keys.foldl
        (fun column position => max column position.column) 0 := by
  unfold usedRange at h
  dsimp only at h
  split at h
  · rename_i first last hfirst hlast
    have hkey : first ∈ sheet.cells.keys := List.mem_of_head? hfirst
    have hrows := first_row_le hfirst (List.mem_of_getLast? hlast)
    have hcolumns := Nat.le_trans (fold_min_le hkey first.column) (le_fold_max hkey 0)
    obtain rfl := Option.some.inj h
    refine ⟨first, last, hfirst, hlast, ?_⟩
    simp [CellRange.ofPositions, CellRange.ofCorners, Address.ofPosition, hrows, hcolumns]
  · cases h

/-- Nothing is used exactly if nothing is stored. -/
theorem used_range_eq_none_iff :
    sheet.usedRange = none ↔ ∀ position, sheet.stored position = none := by
  have hempty : sheet.cells.keys = [] ↔ ∀ position, sheet.stored position = none := by
    simp only [List.eq_nil_iff_forall_not_mem, mem_keys_iff, Option.eq_none_iff_forall_ne_some,
      not_exists, ne_eq]
  rw [← hempty]
  unfold usedRange
  cases hkeys : sheet.cells.keys with
  | nil => simp
  | cons first rest => simp [List.getLast?_cons]

/-- The used range contains all stored cells. -/
theorem encloses_used_range (h : sheet.usedRange = some range) : Encloses sheet.stored range := by
  intro position content hstored
  have hkey := mem_keys_iff.mpr ⟨content, hstored⟩
  obtain ⟨first, last, hfirst, hlast, htop, hbottom, hleft, hright⟩ := used_range_sides h
  rw [CellRange.contains_iff_between, htop, hbottom, hleft, hright]
  exact ⟨⟨first_row_le hfirst hkey, row_le_last hlast hkey⟩, fold_min_le hkey _, le_fold_max hkey _⟩

/-- Every range that contains all stored cells contains the used range. -/
theorem used_range_within {other : CellRange} (h : sheet.usedRange = some range)
    (hother : Encloses sheet.stored other) (hposition : range.contains position = true) :
    other.contains position = true := by
  obtain ⟨first, last, hfirst, hlast, htop, hbottom, hleft, hright⟩ := used_range_sides h
  have hwithin : ∀ key ∈ sheet.cells.keys,
      (other.first.row ≤ key.row ∧ key.row ≤ other.last.row) ∧
        other.first.column ≤ key.column ∧ key.column ≤ other.last.column := fun key hkey => by
    obtain ⟨content, hstored⟩ := mem_keys_iff.mp hkey
    exact CellRange.contains_iff_between.mp (hother key content hstored)
  have hfirstKey := hwithin first (List.mem_of_head? hfirst)
  have hlastKey := hwithin last (List.mem_of_getLast? hlast)
  -- a fold that chooses among columns of the other range stays inside it
  have hfrom : other.first.column ≤ range.first.column := by
    rw [hleft]
    exact List.foldlRecOn (motive := (other.first.column ≤ ·)) _ _ hfirstKey.2.1
      fun _ hcolumn key hkey => Nat.le_min.mpr ⟨hcolumn, (hwithin key hkey).2.1⟩
  have hto : range.last.column ≤ other.last.column := by
    rw [hright]
    exact List.foldlRecOn (motive := (· ≤ other.last.column)) _ _ (Nat.zero_le _)
      fun _ hcolumn key hkey => Nat.max_le.mpr ⟨hcolumn, (hwithin key hkey).2.2⟩
  rw [CellRange.contains_iff_between] at hposition ⊢
  obtain ⟨⟨habove, hbelow⟩, hbefore, hafter⟩ := hposition
  refine ⟨⟨?_, ?_⟩, Nat.le_trans hfrom hbefore, Nat.le_trans hafter hto⟩
  · exact Nat.le_trans hfirstKey.1.1 (htop ▸ habove)
  · exact Nat.le_trans (hbottom ▸ hbelow) hlastKey.1.2

end UsedRange

/-- After any changes, refused ones included, the stored cells are those that the changes have left,
all of them in the grid and none of them blank. Every range lists exactly its own, the formulas are
listed wherever they stand, both once and row by row, and the used range is the smallest one around
all of them, if there are any. -/
theorem listings_of_history (name : String) (history : List Change) :
    let sheet := (blank name).after history
    (∀ position, sheet.cells[position]? = record history position) ∧
      (∀ position content, record history position = some content →
        position.InGrid ∧ content ≠ .empty) ∧
      (∀ range, (sheet.cellsIn range).Pairwise (fun left right => left.1.Before right.1) ∧
        ∀ position content, (position, content) ∈ sheet.cellsIn range ↔
          record history position = some content ∧ range.contains position = true) ∧
      (sheet.formulas.Pairwise (fun left right => left.1.Before right.1) ∧
        ∀ position source, (position, source) ∈ sheet.formulas ↔
          ∃ result, record history position = some (.formula source result)) ∧
      (sheet.usedRange = none ↔ ∀ position, record history position = none) ∧
      ∀ range, sheet.usedRange = some range → Encloses (record history) range ∧
        ∀ other, Encloses (record history) other →
          ∀ position, range.contains position = true → other.contains position = true := by
  intro sheet
  have hnothing : (blank name).stored = fun _ => none :=
    funext fun _ => Std.ExtTreeMap.getElem?_empty
  have hstored : sheet.stored = record history := by
    rw [stored_after, hnothing, record]
  rw [← hstored]
  refine ⟨fun position => rfl, fun position content hcontent => ?_, fun range => ?_, ?_,
    used_range_eq_none_iff, fun range hrange => ?_⟩
  · obtain ⟨hgrid, hblank⟩ := fit_record history position content (hstored ▸ hcontent)
    exact ⟨hgrid, fun hempty => by simp [hempty, Cell.isEmpty] at hblank⟩
  · exact ⟨sheet.cells_in_row_by_row range, fun position content => mem_cells_in_iff⟩
  · exact ⟨sheet.formulas_row_by_row, fun position source => mem_formulas_iff⟩
  · exact ⟨encloses_used_range hrange, fun other hother position => used_range_within hrange hother⟩

end Worksheet

end Spreadsheet
