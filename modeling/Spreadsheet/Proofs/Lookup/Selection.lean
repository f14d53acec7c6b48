import Spreadsheet.Proofs.Aggregate.Arrays
import Spreadsheet.Proofs.Machine.Values

/-!
# Selecting parts of a table

`INDEX` selects an item of a table, one of its rows or columns, or all of it. A number alone counts
columns where there is a single row, and rows otherwise; a single column needs no column number. The
main theorem, `index_selects`, says that an item is reached directly, by way of its row, and by way
of its column, and what becomes of numbers that lead out of the table.
-/

namespace Spreadsheet.Builtin

/-- The rows of a table have one length, and there is something in them. -/
structure IsTable (rows : List (List Value)) (height width : Nat) : Prop where
  height_eq : rows.length = height
  width_eq : ∀ row ∈ rows, row.length = width
  height_pos : 1 ≤ height
  width_pos : 1 ≤ width

/-- The item in a row and a column, counted from one. -/
def itemAt (rows : List (List Value)) (row column : Nat) : Option Value :=
  (rows[row - 1]?).bind fun items => items[column - 1]?

/-- An operand reads as an integer, its whole part. -/
def ReadsAs (operand : Value) (amount : Int) : Prop :=
  operand.toNumber.map Number.wholePart = .ok amount

/-! ## Numbers of rows and columns -/

/-- The row and the column that two numbers mean, by the number of operands that were given. -/
def meant (rows : List (List Value)) (given : Nat) (row column : Int) : Int × Int :=
  if given = 2 ∧ rows.length = 1 then (1, row)
  else if (rows.headD []).length = 1 ∧ column = 0 then (row, 1)
  else (row, column)

/-- What a row and a column select, unless they lie beyond the last ones. -/
def selected (rows : List (List Value)) (place : Int × Int) : Result :=
  if (rows.length : Int) < place.1 ∨ ((rows.headD []).length : Int) < place.2 then
    .error .reference
  else part rows place.1.toNat place.2.toNat

/-- The function `INDEX` reads its row and its column, refuses negative ones and selects from the
rows of its operand. -/
theorem index_eq (operands : List Value) :
    index operands = (do
      let row ← integer operands 1
      let column ← if operands.length ≤ 2 then pure 0 else integer operands 2
      let rows := rowsOf (operand operands 0)
      if row < 0 ∨ column < 0 then .error .value
      else selected rows (meant rows operands.length row column)) := by
  -- the column is read in one branch alone, so what comes after it is settled for any selection
  have hselected : ∀ (rows : List (List Value)) (place : Int × Int),
      (if (rows.length : Int) < place.1 ∨ ((rows.headD []).length : Int) < place.2 then do
        throw ErrorValue.reference
        part rows place.1.toNat place.2.toNat
      else part rows place.1.toNat place.2.toNat) = selected rows place := by
    intro rows place
    unfold selected
    split
    · rfl
    · rfl
  refine bind_congr_of_ok fun row _ => ?_
  dsimp only
  split
  · refine bind_congr_of_ok fun column _ => ?_
    split
    · rfl
    · exact hselected _ _
  · refine bind_congr_of_ok fun column _ => ?_
    split
    · rfl
    · exact hselected _ _

section Numbers

variable {array row column one : Value} {rows : List (List Value)} {height width : Nat}
  {r c : Int}

/-- The function `INDEX` with a row and a column selects what both mean. -/
theorem index_of_both (hrow : ReadsAs row r) (hcolumn : ReadsAs column c) :
    index [array, row, column] =
      if r < 0 ∨ c < 0 then .error .value
      else selected (rowsOf array) (meant (rowsOf array) 3 r c) := by
  have hfirst : integer [array, row, column] 1 = .ok r := hrow
  have hsecond : integer [array, row, column] 2 = .ok c := hcolumn
  rw [index_eq, hfirst, hsecond]
  rfl

/-- The function `INDEX` with one number selects what it means along the only line, or as a row. -/
theorem index_of_one (hrow : ReadsAs row r) :
    index [array, row] =
      if r < 0 then .error .value else selected (rowsOf array) (meant (rowsOf array) 2 r 0) := by
  have hfirst : integer [array, row] 1 = .ok r := hrow
  rw [index_eq, hfirst]
  show (if r < 0 ∨ (0 : Int) < 0 then _ else _) = _
  simp only [Int.lt_irrefl, or_false]
  rfl

/-- Numbers from one on mean what they say where both are given. -/
theorem meant_of_pos (rows : List (List Value)) (r : Int) (hcolumn : 1 ≤ c) :
    meant rows 3 r c = (r, c) := by
  rw [meant, if_neg (by omega), if_neg (by omega)]

/-- The first row of a table is as long as the others. -/
theorem IsTable.head_length (h : IsTable rows height width) : (rows.headD []).length = width := by
  cases rows with
  | nil =>
      have hheight := h.height_pos
      rw [← h.height_eq] at hheight
      cases hheight
  | cons first rest => exact h.width_eq first List.mem_cons_self

/-- What is selected from a table is a part of it, unless it lies beyond the last row or column. -/
theorem IsTable.selected_eq (h : IsTable rows height width) (place : Int × Int) :
    selected rows place =
      if (height : Int) < place.1 ∨ (width : Int) < place.2 then .error .reference
      else part rows place.1.toNat place.2.toNat := by
  rw [selected, h.height_eq, h.head_length]

/-- A number alone counts the columns of a single row. -/
theorem index_of_single_row (htable : IsTable (rowsOf array) 1 width) (hrow : ReadsAs row r)
    (hone : ReadsAs one 1) (hpos : 1 ≤ r) : index [array, row] = index [array, one, row] := by
  rw [index_of_one hrow, index_of_both hone hrow, if_neg (by omega), if_neg (by omega),
    meant_of_pos _ _ hpos, meant, if_pos ⟨rfl, htable.height_eq⟩]

/-- A number alone counts the rows of a single column. -/
theorem index_of_single_column (htable : IsTable (rowsOf array) height 1) (hrow : ReadsAs row r)
    (hone : ReadsAs one 1) (hpos : 1 ≤ r) : index [array, row] = index [array, row, one] := by
  rw [index_of_one hrow, index_of_both hrow hone, if_neg (by omega), if_neg (by omega),
    meant_of_pos _ _ (Int.le_refl 1), meant]
  split
  · -- a single item is a row and a column, and any other number leads out of it either way
    rename_i hsingle
    obtain rfl : height = 1 := htable.height_eq.symm.trans hsingle.2
    rw [htable.selected_eq, htable.selected_eq]
    by_cases hmore : 1 < r
    · rw [if_pos (.inr hmore), if_pos (.inl hmore)]
    · obtain rfl : r = 1 := by omega
      rfl
  · rw [if_pos ⟨htable.head_length, rfl⟩]

/-- The function `INDEX` refuses a negative row or column. -/
theorem index_of_negative (hrow : ReadsAs row r) (hcolumn : ReadsAs column c)
    (hnegative : r < 0 ∨ c < 0) : index [array, row, column] = .error .value := by
  rw [index_of_both hrow hcolumn, if_pos hnegative]

/-- The function `INDEX` refuses a row or a column beyond the last one. -/
theorem index_beyond (htable : IsTable (rowsOf array) height width) (hrow : ReadsAs row r)
    (hcolumn : ReadsAs column c) (hnatural : 0 ≤ r ∧ 0 ≤ c) (hbeyond : height < r ∨ width < c) :
    index [array, row, column] = .error .reference := by
  rw [index_of_both hrow hcolumn, if_neg (by omega), htable.selected_eq, if_pos]
  rw [meant, if_neg (by omega)]
  split
  · rename_i hcolumnOnly
    exact .inl (by omega)
  · exact hbeyond

/-! ## Items, rows and columns -/

/-- A row and a column select the item at their crossing. -/
theorem part_of_item {row column : Nat} {item : Value} (hrow : 1 ≤ row) (hcolumn : 1 ≤ column)
    (h : itemAt rows row column = some item) : part rows row column = .ok item := by
  obtain ⟨row, rfl⟩ := Nat.exists_eq_add_of_le' hrow
  obtain ⟨column, rfl⟩ := Nat.exists_eq_add_of_le' hcolumn
  change (rows[row]?).bind (fun items => items[column]?) = some item at h
  rw [part, h]
  rfl

/-- Two numbers from one on select the item in that row and column. -/
theorem index_of_item {item : Value} (htable : IsTable (rowsOf array) height width)
    (hrow : ReadsAs row r) (hcolumn : ReadsAs column c) (hr : 1 ≤ r ∧ r ≤ height)
    (hc : 1 ≤ c ∧ c ≤ width) (hitem : itemAt (rowsOf array) r.toNat c.toNat = some item) :
    index [array, row, column] = .ok item := by
  rw [index_of_both hrow hcolumn, if_neg (by omega), meant_of_pos _ _ hc.1, htable.selected_eq,
    if_neg (by dsimp only; omega)]
  exact part_of_item (by omega) (by omega) hitem

/-- A single value has one row with one item. -/
theorem rows_of_single {single : Value} (h : single.isArray = false) :
    rowsOf single = [[single]] := by
  cases single with
  | array rows => cases h
  | empty | number | text | logical | error => rfl

/-- A row is selected as a table of its own, the only item of a single column as itself. -/
theorem index_of_row {zero : Value} {items : List Value} (htable : IsTable rows height width)
    (hsingle : ∀ items ∈ rows, ∀ item ∈ items, item.isArray = false) (hrow : ReadsAs row r)
    (hzero : ReadsAs zero 0) (hr : 1 ≤ r ∧ r ≤ height) (hitems : rows[r.toNat - 1]? = some items) :
    ∃ line, index [.array rows, row, zero] = .ok line ∧ rowsOf line = [items] := by
  have hmem : items ∈ rows := List.mem_of_getElem? hitems
  rw [index_of_both hrow hzero, if_neg (by omega)]
  show ∃ line, selected rows (meant rows 3 r 0) = _ ∧ _
  rw [meant, if_neg (by omega), htable.head_length]
  by_cases honly : width = 1
  · have hlength := htable.width_eq items hmem
    obtain ⟨item, rfl⟩ := List.length_eq_one_iff.mp (hlength.trans honly)
    refine ⟨item, ?_, rows_of_single (hsingle _ hmem item List.mem_cons_self)⟩
    rw [if_pos ⟨honly, rfl⟩, htable.selected_eq, if_neg (by dsimp only; omega)]
    refine part_of_item (by omega) (Nat.le_refl 1) ?_
    rw [itemAt, hitems]
    rfl
  · refine ⟨.array [items], ?_, rfl⟩
    rw [if_neg (fun hboth => honly hboth.1), htable.selected_eq, if_neg (by dsimp only; omega)]
    obtain ⟨index, hindex⟩ := Nat.exists_eq_add_of_le' (show 1 ≤ r.toNat by omega)
    rw [hindex, Nat.add_sub_cancel] at hitems
    dsimp only
    rw [hindex]
    show (rows[index]?).elim _ _ = _
    rw [hitems]
    rfl

/-- A column is selected as a table of its own. -/
theorem index_of_column {zero : Value} (htable : IsTable rows height width)
    (hcolumn : ReadsAs column c) (hzero : ReadsAs zero 0) (hc : 1 ≤ c ∧ c ≤ width) :
    index [.array rows, zero, column] =
      .ok (.array (rows.map fun items => [itemIn items (c.toNat - 1)])) := by
  rw [index_of_both hzero hcolumn, if_neg (by omega), meant_of_pos _ _ hc.1]
  show selected rows (0, c) = _
  rw [htable.selected_eq, if_neg (by dsimp only; omega)]
  obtain ⟨index, hindex⟩ := Nat.exists_eq_add_of_le' (show 1 ≤ c.toNat by omega)
  dsimp only
  rw [hindex]
  rfl

/-- A row of a table is a table of one row. -/
theorem IsTable.of_line {items : List Value} (h : IsTable rows height width)
    (hitems : items ∈ rows) : IsTable [items] 1 width where
  height_eq := rfl
  width_eq := List.forall_mem_singleton.mpr (h.width_eq items hitems)
  height_pos := Nat.le_refl 1
  width_pos := h.width_pos

/-- A column of a table is a table of one column. -/
theorem IsTable.of_column (h : IsTable rows height width) (place : Nat) :
    IsTable (rows.map fun items => [itemIn items place]) height 1 where
  height_eq := by rw [List.length_map, h.height_eq]
  width_eq := List.forall_mem_map.mpr fun _ _ => rfl
  height_pos := h.height_pos
  width_pos := Nat.le_refl 1

/-- Every place of a table has an item. -/
theorem IsTable.exists_item (h : IsTable rows height width) (hr : 1 ≤ r ∧ r ≤ height)
    (hc : 1 ≤ c ∧ c ≤ width) :
    ∃ items item, rows[r.toNat - 1]? = some items ∧ items[c.toNat - 1]? = some item := by
  have hheight := h.height_eq
  have hless : r.toNat - 1 < rows.length := by omega
  have hwidth := h.width_eq _ (List.getElem_mem hless)
  exact ⟨_, _, List.getElem?_eq_getElem hless, List.getElem?_eq_getElem (by omega)⟩

end Numbers

/-- An item of a table of single values is selected by its row and its column, from its row by its
column, and from its column by its row. A number alone counts columns in a single row and rows in a
single column. Where two numbers are given, a negative one is refused as a value, and any other
beyond the last row or column as a reference. Whatever the operands, a machine is not stopped. -/
theorem index_selects {rows : List (List Value)} {height width : Nat}
    (htable : IsTable rows height width)
    (hsingle : ∀ items ∈ rows, ∀ item ∈ items, item.isArray = false)
    {row column zero one : Value} {r c : Int} (hrow : ReadsAs row r) (hcolumn : ReadsAs column c)
    (hzero : ReadsAs zero 0) (hone : ReadsAs one 1) :
    (1 ≤ r → r ≤ height → 1 ≤ c → c ≤ width → ∃ item line stripe,
      itemAt rows r.toNat c.toNat = some item ∧ index [.array rows, row, column] = .ok item ∧
      index [.array rows, row, zero] = .ok line ∧ index [line, one, column] = .ok item ∧
      index [.array rows, zero, column] = .ok stripe ∧ index [stripe, row, one] = .ok item) ∧
    (height = 1 → 1 ≤ r → index [.array rows, row] = index [.array rows, one, row]) ∧
    (width = 1 → 1 ≤ r → index [.array rows, row] = index [.array rows, row, one]) ∧
    (r < 0 ∨ c < 0 → index [.array rows, row, column] = .error .value) ∧
    (0 ≤ r → 0 ≤ c → height < r ∨ width < c →
      index [.array rows, row, column] = .error .reference) ∧
    ∀ operands, (Machine.index operands).run = .ok (index operands) := by
  refine ⟨?_, ?_, ?_, index_of_negative hrow hcolumn, ?_, fun operands =>
    (Machine.index_follows operands).run_eq⟩
  · intro hr hheight hc hwidth
    obtain ⟨items, item, hitems, hitem⟩ := htable.exists_item ⟨hr, hheight⟩ ⟨hc, hwidth⟩
    have hplace : itemAt rows r.toNat c.toNat = some item := by
      rw [itemAt, hitems]
      exact hitem
    obtain ⟨line, hline, hlineRows⟩ := index_of_row htable hsingle hrow hzero ⟨hr, hheight⟩ hitems
    refine ⟨item, line, _, hplace,
      index_of_item htable hrow hcolumn ⟨hr, hheight⟩ ⟨hc, hwidth⟩ hplace, hline, ?_,
      index_of_column htable hcolumn hzero ⟨hc, hwidth⟩, ?_⟩
    · have hlineTable : IsTable (rowsOf line) 1 width :=
        hlineRows ▸ htable.of_line (List.mem_of_getElem? hitems)
      refine index_of_item hlineTable hone hcolumn ⟨Int.le_refl 1, Int.le_refl 1⟩ ⟨hc, hwidth⟩ ?_
      rw [hlineRows]
      exact hitem
    · refine index_of_item (htable.of_column _) hrow hone ⟨hr, hheight⟩
        ⟨Int.le_refl 1, Int.le_refl 1⟩ ?_
      rw [itemAt, rowsOf, List.getElem?_map, hitems]
      show some (itemIn items (c.toNat - 1)) = some item
      rw [itemIn, hitem]
      rfl
  · rintro rfl hpos
    exact index_of_single_row htable hrow hone hpos
  · rintro rfl hpos
    exact index_of_single_column htable hrow hone hpos
  · intro hr hc hbeyond
    exact index_beyond htable hrow hcolumn ⟨hr, hc⟩ hbeyond

/-- An error value in a table of two columns is an item like any other; two and a half reads as
two, a blank as zero and a logical value as one. -/
theorem index_selects_of_fault :
    let rows : List (List Value) :=
      [[.number 1.0, .text "x"], [.error .notAvailable, .logical true]]
    IsTable rows 2 2 ∧ (∀ items ∈ rows, ∀ item ∈ items, item.isArray = false) ∧
      ReadsAs (.number 2.5) 2 ∧ ReadsAs (.logical true) 1 ∧ ReadsAs .empty 0 ∧
      ∃ line stripe,
        index [.array rows, .number 2.5, .logical true] = .ok (.error .notAvailable) ∧
        index [.array rows, .number 2.5, .empty] = .ok line ∧
        index [line, .logical true, .logical true] = .ok (.error .notAvailable) ∧
        index [.array rows, .empty, .logical true] = .ok stripe ∧
        index [stripe, .number 2.5, .logical true] = .ok (.error .notAvailable) := by
  intro rows
  have htable : IsTable rows 2 2 := ⟨rfl, by simp [rows], by decide, by decide⟩
  have hsingle : ∀ items ∈ rows, ∀ item ∈ items, item.isArray = false := by
    simp [rows, Value.isArray]
  have hrow : ReadsAs (.number 2.5) 2 := congrArg Except.ok (by decide +kernel)
  have hone : ReadsAs (.logical true) 1 := congrArg Except.ok (by decide +kernel)
  have hzero : ReadsAs .empty 0 := congrArg Except.ok (by decide +kernel)
  obtain ⟨item, line, stripe, hitem, hplace, hline, hline', hstripe, hstripe'⟩ :=
    (index_selects htable hsingle hrow hone hzero hone).1 (by decide) (by decide) (by decide)
      (by decide)
  obtain rfl : .error .notAvailable = item := Option.some.inj hitem
  exact ⟨htable, hsingle, hrow, hone, hzero, line, stripe, hplace, hline, hline', hstripe, hstripe'⟩

end Spreadsheet.Builtin
