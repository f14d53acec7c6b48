import Spreadsheet.Calendar.Serial
import Spreadsheet.Calendar.Workday
import Spreadsheet.Proofs.Calendar.Gregorian
import Spreadsheet.Proofs.Number.Exact

/-!
# Serials and dates

A date system numbers the days of the calendar in their order, and reading a serial number finds
the day it belongs to. In the 1900 system the number of the day that never was is left out. The main
theorem, `serials_correspond`, says that both directions are inverse to each other, and exactly
which numbers have a day.
-/

namespace Spreadsheet.Calendar

namespace DateSystem

/-- The day of the first serial. -/
def firstDate : DateSystem → Date
  | from1900 => Date.ofParts 1900 1 1
  | from1904 => Date.ofParts 1904 1 1

/-- The serials that belong to a day. -/
def IsSerial : DateSystem → Int → Prop
  | from1900, serial => 1 ≤ serial ∧ serial ≤ from1900.maxSerial ∧ serial ≠ phantomSerial
  | from1904, serial => 0 ≤ serial ∧ serial ≤ from1904.maxSerial

instance (system : DateSystem) (serial : Int) : Decidable (system.IsSerial serial) := by
  cases system <;> exact inferInstanceAs (Decidable (_ ∧ _))

end DateSystem

section Serials

variable {system : DateSystem} {date early late : Date} {serial : Int}

/-- The days of the system from 1900 are counted from the last day of 1899. -/
theorem epoch_from1900 : DateSystem.from1900.epoch.number = 693960 := by decide

/-- The days of the system from 1904 are counted from the first day of 1904. -/
theorem epoch_from1904 : DateSystem.from1904.epoch.number = 695421 := by decide

/-- From 1 March 1900 on serials are one ahead. -/
theorem serial_from1900 (date : Date) : DateSystem.from1900.serialOf date =
    if 694020 ≤ date.number then date.number - 693959 else date.number - 693960 := by
  unfold DateSystem.serialOf DateSystem.phantomSerial
  dsimp only
  rw [epoch_from1900]
  split <;> split <;> omega

/-- The system from 1904 counts days without an exception. -/
theorem serial_from1904 (date : Date) :
    DateSystem.from1904.serialOf date = date.number - 695421 := by
  unfold DateSystem.serialOf
  dsimp only
  rw [epoch_from1904]

/-- Serials grow with the dates. -/
theorem serial_of_lt (h : early.number < late.number) :
    system.serialOf early < system.serialOf late := by
  cases system with
  | from1900 =>
      rw [serial_from1900, serial_from1900]
      split <;> split <;> omega
  | from1904 =>
      rw [serial_from1904, serial_from1904]
      omega

/-- No date has the serial of the day that 1900 did not have. -/
theorem serial_of_ne_phantom (date : Date) :
    DateSystem.from1900.serialOf date ≠ DateSystem.phantomSerial := by
  unfold DateSystem.phantomSerial
  rw [serial_from1900]
  split <;> omega

/-- A whole serial that belongs to a day is the serial of that day. -/
theorem date_of_whole_eq_some_iff : system.dateOfWhole serial = some date ↔
    system.IsSerial serial ∧ system.serialOf date = serial := by
  obtain ⟨number⟩ := date
  cases system with
  | from1900 =>
      rw [serial_from1900]
      unfold DateSystem.dateOfWhole DateSystem.IsSerial DateSystem.phantomSerial
      dsimp only
      rw [epoch_from1900]
      split
      · exact iff_of_false nofun (by omega)
      · split
        · exact iff_of_false nofun (by omega)
        · rw [Option.some.injEq, Date.mk.injEq]
          split <;> split <;> omega
  | from1904 =>
      rw [serial_from1904]
      unfold DateSystem.dateOfWhole DateSystem.IsSerial
      dsimp only
      rw [epoch_from1904]
      split
      · exact iff_of_false nofun (by omega)
      · split
        · exact iff_of_false nofun (by omega)
        · rw [Option.some.injEq, Date.mk.injEq]
          omega

/-- Every serial of a system has a day. -/
theorem is_some_date_of_whole : (system.dateOfWhole serial).isSome ↔ system.IsSerial serial := by
  refine ⟨fun some => ?_, fun inside => ?_⟩
  · obtain ⟨date, found⟩ := Option.isSome_iff_exists.mp some
    exact (date_of_whole_eq_some_iff.mp found).1
  · unfold DateSystem.dateOfWhole
    cases system with
    | from1900 =>
        obtain ⟨first, last, real⟩ := inside
        rw [if_neg (Int.not_lt.mpr last)]
        dsimp only
        rw [if_neg (by omega)]
        rfl
    | from1904 =>
        obtain ⟨first, last⟩ := inside
        rw [if_neg (Int.not_lt.mpr last)]
        dsimp only
        rw [if_neg (Int.not_lt.mpr first)]
        rfl

/-- No serial is negative or greater than the last one. -/
theorem serial_bounds (h : system.IsSerial serial) : 0 ≤ serial ∧ serial ≤ system.maxSerial := by
  cases system with
  | from1900 => exact ⟨Int.le_trans (by decide) h.1, h.2.1⟩
  | from1904 => exact h

/-- No system has a serial above that of the last day of 9999 in the system from 1900. -/
theorem max_serial_le (system : DateSystem) : system.maxSerial ≤ 2958465 := by
  cases system <;> decide

/-- Integers of 64 bits are more than enough for serials. -/
theorem date_of_whole_clamp (whole : Int) :
    system.dateOfWhole (Number.clamp whole) = system.dateOfWhole whole := by
  have kept : system.IsSerial (Number.clamp whole) ∨ system.IsSerial whole →
      Number.clamp whole = whole := by
    unfold Number.clamp Number.minInteger Number.maxInteger
    have := max_serial_le system
    rintro (inside | inside) <;> have := serial_bounds inside <;> omega
  apply Option.ext
  intro date
  rw [date_of_whole_eq_some_iff, date_of_whole_eq_some_iff]
  constructor
  · intro inside
    rwa [kept (Or.inl inside.1)] at inside
  · intro inside
    rwa [kept (Or.inr inside.1)]

/-- The date of a finite number is the date of its floor. -/
theorem date_of_eq {amount : Float} (h : Number.isFinite amount = true) :
    system.dateOf amount = system.dateOfWhole ⌊Number.rational amount⌋ := by
  rw [DateSystem.dateOf, if_pos h, Number.whole_part_floor h, date_of_whole_clamp]

/-- Serials are small enough to be exact as numbers. -/
theorem natAbs_lt_of_serial (h : system.IsSerial serial) :
    serial.natAbs < 2 * Number.hiddenBit := by
  have := serial_bounds h
  have := max_serial_le system
  unfold Number.hiddenBit
  omega

/-- Serials are numbers without being rounded. -/
theorem date_of_int (h : system.IsSerial serial) :
    system.dateOf (Float.ofInt serial) = system.dateOfWhole serial := by
  have small := natAbs_lt_of_serial h
  rw [DateSystem.dateOf, if_pos (Number.is_finite_of_int small), Number.floor_of_int small,
    Number.whole_part_of_int small]

/-- The days from the first one of a system to the end of the range have its serials. -/
theorem is_serial_serial_of_iff : system.IsSerial (system.serialOf date) ↔
    system.firstDate.number ≤ date.number ∧ date.number ≤ lastDay.number := by
  have last : lastDay.number = 3652424 := by decide
  rw [last]
  cases system with
  | from1900 =>
      have first : DateSystem.from1900.firstDate.number = 693961 := by decide
      unfold DateSystem.IsSerial DateSystem.maxSerial DateSystem.phantomSerial
      dsimp only
      rw [first, serial_from1900]
      split <;> omega
  | from1904 =>
      have first : DateSystem.from1904.firstDate.number = 695421 := by decide
      unfold DateSystem.IsSerial DateSystem.maxSerial
      dsimp only
      rw [first, serial_from1904]
      omega

end Serials

/-! ## The law -/

/-- Serials come in the order of the dates. A date from the first of a system to the end of the
range is found again by its serial. A finite number has a date exactly if its floor is a serial of
the system, and then its floor is the serial of that date. -/
theorem serials_correspond (system : DateSystem) :
    (∀ early late : Date, early.Before late → system.serialOf early < system.serialOf late) ∧
    (∀ date : Date, ¬date.Before system.firstDate → ¬lastDay.Before date →
      system.dateOf (Float.ofInt (system.serialOf date)) = some date) ∧
    ∀ amount : Float, Number.isFinite amount = true →
      ((∃ date, system.dateOf amount = some date) ↔ system.IsSerial ⌊Number.rational amount⌋) ∧
      ∀ date, system.dateOf amount = some date →
        system.serialOf date = ⌊Number.rational amount⌋ := by
  refine ⟨fun early late before => serial_of_lt (before_iff.mp before), ?_, ?_⟩
  · intro date first last
    rw [before_iff, Int.not_lt] at first last
    have inside := is_serial_serial_of_iff.mpr ⟨first, last⟩
    rw [date_of_int inside]
    exact date_of_whole_eq_some_iff.mpr ⟨inside, rfl⟩
  · intro amount finite
    rw [date_of_eq finite]
    refine ⟨?_, fun date found => (date_of_whole_eq_some_iff.mp found).2⟩
    rw [← Option.isSome_iff_exists, is_some_date_of_whole]

/-- Around the day that never was: the last of February and the first of March 1900 are two serials
apart, half a day before the end of February is still that day, and half a day later there is
none. -/
theorem serials_correspond_around_phantom_day :
    let system := DateSystem.from1900
    let february := Date.ofParts 1900 2 28
    let march := Date.ofParts 1900 3 1
    february.Before march ∧ system.serialOf february < system.serialOf march ∧
      system.serialOf march = 61 ∧
      ¬february.Before system.firstDate ∧ ¬lastDay.Before february ∧
      system.dateOf (Float.ofInt (system.serialOf february)) = some february ∧
      Number.isFinite 59.5 = true ∧ system.dateOf 59.5 = some february ∧
      system.serialOf february = ⌊Number.rational 59.5⌋ ∧
      Number.isFinite 60.5 = true ∧ system.dateOf 60.5 = none ∧
      ¬system.IsSerial ⌊Number.rational 60.5⌋ := by
  intro system february march
  have law := serials_correspond system
  have next : february.Before march := by decide
  have first : ¬february.Before system.firstDate := by decide
  have last : ¬lastDay.Before february := by decide
  have real : Number.isFinite 59.5 = true := by decide +kernel
  have found : system.dateOf 59.5 = some february := by decide +kernel
  have finite : Number.isFinite 60.5 = true := by decide +kernel
  have missed : system.dateOf 60.5 = none := by decide +kernel
  refine ⟨next, law.1 _ _ next, by decide, first, last, law.2.1 _ first last, real, found,
    (law.2.2 _ real).2 _ found, finite, missed, fun inside => ?_⟩
  obtain ⟨date, some⟩ := (law.2.2 _ finite).1.mpr inside
  rw [missed] at some
  cases some

end Spreadsheet.Calendar
