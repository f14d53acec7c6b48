import Mathlib.Algebra.Group.Nat.Defs
import Spreadsheet.Proofs.Address.Range

/-!
# Keys of cells

Every cell of the grid has a key on each of the sheets that keys have room for (`exists_pack`), and
its place can be read off the key (`place_of_pack`). On a machine a key is a word of 64 bits in which
the sheet, the row and the column stand side by side (`word`). The main theorem, `keys_order_cells`,
says that keys are ordered as the cells they name: by sheet, then by row, then by column.
-/

namespace Spreadsheet

namespace CellId

/-! ## Packing -/

section Packing

variable {sheet : Nat} {position : Position} {id : CellId}

/-- A cell of the grid has a key, from which its place can be read off. -/
theorem exists_pack (hsheet : sheet < sheetLimit) (hposition : position.InGrid) :
    ∃ id, pack sheet position = .ok id ∧ id.sheet = sheet ∧ id.position = position := by
  obtain ⟨row, column⟩ := position
  have hrow : row < rowLimit := hposition.1
  have hcolumn : column < columnLimit := hposition.2
  have hupper : ((sheet * rowLimit + row) * columnLimit + column) / columnLimit =
      sheet * rowLimit + row := by
    rw [Nat.mul_comm, Nat.mul_add_div (by decide), Nat.div_eq_of_lt hcolumn, Nat.add_zero]
  refine ⟨⟨(sheet * rowLimit + row) * columnLimit + column⟩, ?_, ?_, ?_⟩
  · rw [pack, Position.check_eq_ok_iff.mpr hposition]
    simp [bind, Except.bind, Nat.not_le.mpr hsheet]
  · rw [CellId.sheet, hupper, Nat.mul_comm, Nat.mul_add_div (by decide), Nat.div_eq_of_lt hrow,
      Nat.add_zero]
  · rw [CellId.position, CellId.row, CellId.column, hupper, Nat.mul_comm sheet,
      Nat.mul_add_mod, Nat.mod_eq_of_lt hrow, Nat.mul_comm _ columnLimit, Nat.mul_add_mod,
      Nat.mod_eq_of_lt hcolumn]

/-- Only the cells of the grid have keys, and only on as many sheets as there is room for. -/
theorem bounds_of_pack (h : pack sheet position = .ok id) :
    sheet < sheetLimit ∧ position.InGrid := by
  have hposition : position.InGrid := by
    cases hcheck : position.check with
    | error refusal => simp [pack, hcheck, bind, Except.bind] at h
    | ok _ => exact Position.check_eq_ok_iff.mp hcheck
  refine ⟨Nat.not_le.mp fun hbeyond => ?_, hposition⟩
  simp [pack, Position.check_eq_ok_iff.mpr hposition, bind, Except.bind, hbeyond] at h

/-- What was packed into a key is unpacked from it. -/
theorem place_of_pack (h : pack sheet position = .ok id) :
    id.sheet = sheet ∧ id.position = position := by
  obtain ⟨hsheet, hposition⟩ := bounds_of_pack h
  obtain ⟨found, hfound, hplace⟩ := exists_pack hsheet hposition
  obtain rfl : found = id := Except.ok.inj (hfound.symm.trans h)
  exact hplace

end Packing

/-! ## Order -/

/-- Numbers are ordered by their quotients, and by their remainders where the quotients agree. -/
theorem compare_eq_then_mod (base left right : Nat) : compare left right =
    (compare (left / base) (right / base)).then (compare (left % base) (right % base)) := by
  obtain hless | heq | hless := Nat.lt_trichotomy (left / base) (right / base)
  · rw [Nat.compare_eq_lt.mpr hless, Nat.compare_eq_lt.mpr (Nat.lt_of_div_lt_div hless)]
    rfl
  · have hleft := Nat.div_add_mod left base
    have hright := Nat.div_add_mod right base
    rw [heq] at hleft
    have hless : left % base < right % base ↔ left < right := by omega
    have hgreater : right % base < left % base ↔ right < left := by omega
    rw [Nat.compare_eq_eq.mpr heq]
    simp only [Ordering.then, Nat.compare_eq_ite_lt, hless, hgreater]
  · rw [Nat.compare_eq_gt.mpr hless, Nat.compare_eq_gt.mpr (Nat.lt_of_div_lt_div hless)]
    rfl

/-- Keys are ordered by the sheets, rows and columns that they name, in this order. -/
theorem compare_key (left right : CellId) : compare left.key right.key =
    ((compare left.sheet right.sheet).then (compare left.row right.row)).then
      (compare left.column right.column) := by
  rw [compare_eq_then_mod columnLimit left.key,
    compare_eq_then_mod rowLimit (left.key / columnLimit)]
  rfl

/-! ## Words of 64 bits -/

/-- A column in the lowest 14 bits, a row in the next 20 and a sheet in those above. -/
def word (sheet : UInt64) (row : UInt32) (column : UInt16) : UInt64 :=
  sheet <<< 34 ||| row.toUInt64 <<< 14 ||| column.toUInt64

/-- Packs a cell into a word; the row is checked first, then the column, then the sheet. -/
def packWord (sheet : UInt64) (row : UInt32) (column : UInt16) : Except DocumentError UInt64 :=
  if 0x100000 ≤ row then .error (.rowOutOfBounds row.toNat)
  else if 0x4000 ≤ column then .error (.columnOutOfBounds column.toNat)
  else if 0x3FFFFFFF < sheet then .error (.sheetOutOfBounds sheet.toNat sheetLimit)
  else .ok (word sheet row column)

/-- The sheet in a word. -/
def sheetOfWord (word : UInt64) : UInt64 := word >>> 34

/-- The row in a word. -/
def rowOfWord (word : UInt64) : UInt32 := (word >>> 14 &&& 0xFFFFF).toUInt32

/-- The column in a word. -/
def columnOfWord (word : UInt64) : UInt16 := (word &&& 0x3FFF).toUInt16

/-- The key that a word is. -/
def ofWord (word : UInt64) : CellId := ⟨word.toNat⟩

/-- A number above some bits and one that fits into these bits do not overlap. -/
theorem or_eq_add {bits low : Nat} (h : low < 2 ^ bits) (high : Nat) :
    high * 2 ^ bits ||| low = high * 2 ^ bits + low := by
  rw [← Nat.shiftLeft_eq, Nat.shiftLeft_add_eq_or_of_lt h]

section Words

variable {sheet : UInt64} {row : UInt32} {column : UInt16}

/-- Parts that fit into their bits make the number that is packed from them. -/
theorem to_nat_word (hsheet : sheet.toNat < sheetLimit) (hrow : row.toNat < rowLimit)
    (hcolumn : column.toNat < columnLimit) : (word sheet row column).toNat =
      (sheet.toNat * rowLimit + row.toNat) * columnLimit + column.toNat := by
  rw [sheetLimit] at hsheet
  rw [rowLimit] at hrow
  rw [columnLimit] at hcolumn
  have hsheetBits : (sheet <<< 34).toNat = sheet.toNat * 2 ^ 34 := by
    rw [UInt64.toNat_shiftLeft, Nat.shiftLeft_eq]
    exact Nat.mod_eq_of_lt (show sheet.toNat * 2 ^ 34 < 2 ^ 64 by omega)
  have hrowBits : (row.toUInt64 <<< 14).toNat = row.toNat * 2 ^ 14 := by
    rw [UInt64.toNat_shiftLeft, Nat.shiftLeft_eq, UInt32.toNat_toUInt64]
    exact Nat.mod_eq_of_lt (show row.toNat * 2 ^ 14 < 2 ^ 64 by omega)
  have hupper : sheet.toNat * 2 ^ 34 + row.toNat * 2 ^ 14 =
      (sheet.toNat * rowLimit + row.toNat) * 2 ^ 14 := by
    rw [rowLimit]
    omega
  rw [word, UInt64.toNat_or, UInt64.toNat_or, hsheetBits, hrowBits, UInt16.toNat_toUInt64,
    or_eq_add (by omega), hupper, or_eq_add hcolumn]
  rfl

/-- Packing into a word gives the key of the cell, and refuses the cells that have none. -/
theorem pack_word_eq (sheet : UInt64) (row : UInt32) (column : UInt16) :
    (packWord sheet row column).map ofWord = pack sheet.toNat ⟨row.toNat, column.toNat⟩ := by
  unfold packWord pack Position.check
  have hrow : 0x100000 ≤ row ↔ rowLimit ≤ row.toNat := UInt32.le_iff_toNat_le
  have hcolumn : 0x4000 ≤ column ↔ columnLimit ≤ column.toNat := UInt16.le_iff_toNat_le
  have hsheet : 0x3FFFFFFF < sheet ↔ sheetLimit ≤ sheet.toNat := UInt64.lt_iff_toNat_lt
  simp only [hrow, hcolumn, hsheet]
  split
  · rfl
  split
  · rfl
  split
  · rename_i hbeyond
    simp [Except.map, bind, Except.bind]
  · rename_i hrow hcolumn hsheet
    have hword := to_nat_word (Nat.not_le.mp hsheet) (Nat.not_le.mp hrow) (Nat.not_le.mp hcolumn)
    simp [Except.map, bind, Except.bind, ofWord, hword]

/-- Shifts and masks read off a word what division reads off its key. -/
theorem parts_of_word (word : UInt64) :
    (ofWord word).sheet = (sheetOfWord word).toNat ∧ (ofWord word).row = (rowOfWord word).toNat ∧
      (ofWord word).column = (columnOfWord word).toNat := by
  refine ⟨?_, ?_, ?_⟩
  · rw [sheetOfWord, UInt64.toNat_shiftRight, Nat.shiftRight_eq_div_pow, CellId.sheet,
      Nat.div_div_eq_div_mul]
    rfl
  · have hfits : word.toNat / 2 ^ 14 % 2 ^ 20 < 2 ^ 32 :=
      Nat.lt_trans (Nat.mod_lt _ (by decide)) (by decide)
    rw [rowOfWord, UInt64.toNat_toUInt32, UInt64.toNat_and, UInt64.toNat_shiftRight,
      Nat.shiftRight_eq_div_pow]
    show _ = (word.toNat / 2 ^ 14 &&& 2 ^ 20 - 1) % 2 ^ 32
    rw [Nat.and_two_pow_sub_one_eq_mod, Nat.mod_eq_of_lt hfits]
    rfl
  · have hfits : word.toNat % 2 ^ 14 < 2 ^ 16 :=
      Nat.lt_trans (Nat.mod_lt _ (by decide)) (by decide)
    rw [columnOfWord, UInt64.toNat_toUInt16, UInt64.toNat_and]
    show _ = (word.toNat &&& 2 ^ 14 - 1) % 2 ^ 16
    rw [Nat.and_two_pow_sub_one_eq_mod, Nat.mod_eq_of_lt hfits]
    rfl

end Words

/-- A cell has a key exactly if its sheet, row and column are within their bounds. The key gives
back the cell, no other cell has it, and keys are ordered as the cells they name: by sheet, then by
row, then by column. On a machine it is the word in which the three parts stand side by side. -/
theorem keys_order_cells :
    (∀ (sheet : Nat) (position : Position), (∃ id, pack sheet position = .ok id) ↔
      position.row < 1048576 ∧ position.column < 16384 ∧ sheet ≤ 1073741823) ∧
    (∀ (sheet : Nat) (position : Position) (id : CellId), pack sheet position = .ok id →
      id.sheet = sheet ∧ id.row = position.row ∧ id.column = position.column) ∧
    (∀ (sheet other : Nat) (position there : Position) (id : CellId),
      pack sheet position = .ok id → pack other there = .ok id →
        sheet = other ∧ position = there) ∧
    (∀ left right : CellId, compare left.key right.key =
      ((compare left.sheet right.sheet).then (compare left.row right.row)).then
        (compare left.column right.column)) ∧
    (∀ (sheet : UInt64) (row : UInt32) (column : UInt16),
      (packWord sheet row column).map ofWord = pack sheet.toNat ⟨row.toNat, column.toNat⟩) ∧
    ∀ word : UInt64, (ofWord word).sheet = (sheetOfWord word).toNat ∧
      (ofWord word).row = (rowOfWord word).toNat ∧
      (ofWord word).column = (columnOfWord word).toNat := by
  refine ⟨fun sheet position => ⟨?_, ?_⟩, fun sheet position id h => ?_,
    fun sheet other position there id h hother => ?_, compare_key, pack_word_eq, parts_of_word⟩
  · rintro ⟨id, h⟩
    obtain ⟨hsheet, hrow, hcolumn⟩ := bounds_of_pack h
    exact ⟨hrow, hcolumn, Nat.le_of_lt_succ hsheet⟩
  · rintro ⟨hrow, hcolumn, hsheet⟩
    obtain ⟨id, h, -⟩ := exists_pack (Nat.lt_succ_of_le hsheet) ⟨hrow, hcolumn⟩
    exact ⟨id, h⟩
  · obtain ⟨hsheet, rfl⟩ := place_of_pack h
    exact ⟨hsheet, rfl, rfl⟩
  · obtain ⟨hsheet, hposition⟩ := place_of_pack h
    obtain ⟨hsame, hthere⟩ := place_of_pack hother
    exact ⟨hsheet.symm.trans hsame, hposition.symm.trans hthere⟩

/-- The last cell of the last sheet has the greatest key of 64 bits. -/
theorem keys_order_cells_of_last_cell :
    ∃ id, pack 1073741823 ⟨1048575, 16383⟩ = .ok id ∧
      (id.sheet = 1073741823 ∧ id.row = 1048575 ∧ id.column = 16383) ∧
      packWord 1073741823 1048575 16383 = .ok 0xFFFFFFFFFFFFFFFF ∧
      id = ofWord 0xFFFFFFFFFFFFFFFF := by
  obtain ⟨hbounds, hparts, -, -, hword, -⟩ := keys_order_cells
  obtain ⟨id, hid⟩ := (hbounds 1073741823 ⟨1048575, 16383⟩).mpr (by decide)
  have hpacked : packWord 1073741823 1048575 16383 = .ok 0xFFFFFFFFFFFFFFFF := rfl
  have hkey := hword 1073741823 1048575 16383
  rw [hpacked] at hkey
  exact ⟨id, hid, hparts _ _ _ hid, hpacked, Except.ok.inj (hid.symm.trans hkey.symm)⟩

end CellId

end Spreadsheet
