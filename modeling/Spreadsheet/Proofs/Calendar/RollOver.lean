import Spreadsheet.Builtin.Dates
import Spreadsheet.Proofs.Calendar.Serials

/-!
# Months and days that roll over

`DATE` takes months and days that are not of the year and the month they are written with. They
count on into the neighbouring ones: `firstOfMonth` is where a month begins, and `rolledDate` counts
days from there. The main theorem, `date_rolls_over`, says for which operands there is a serial,
which one it is, and that the year, the month and the day are read back from it.
-/

namespace Spreadsheet.Calendar

/-- The first day of a month that is counted from January of a year. -/
def firstOfMonth (year month : Int) : Date :=
  Date.ofParts (year + (month - 1) / 12) (((month - 1) % 12).toNat + 1) 1

/-- A day that is counted from the first one of such a month. -/
def rolledDate (year month day : Int) : Date := ⟨(firstOfMonth year month).number + (day - 1)⟩

section Months

/-- However far off the month is, there is a first day of it. -/
theorem is_day_first (year month : Int) :
    IsDay (year + (month - 1) / 12) (((month - 1) % 12).toNat + 1) 1 := by
  have last : ((month - 1) % 12).toNat + 1 ≤ 12 := by omega
  exact ⟨Nat.succ_pos _, last, Nat.le_refl 1, days_in_month_pos (Nat.succ_pos _) last⟩

/-- A month outside of 1 to 12 belongs to the year that it rolls over to. -/
theorem year_first_of_month (year month : Int) :
    (firstOfMonth year month).year = year + (month - 1) / 12 :=
  (parts_of_parts (is_day_first year month)).1

end Months

end Spreadsheet.Calendar

namespace Spreadsheet.Builtin

open Calendar (Date DateSystem IsDay firstOfMonth rolledDate firstYear lastYear)

/-- The year that `DATE` takes a year for. -/
def fullYear (year : Int) : Int := if 0 ≤ year ∧ year < baseYear then year + baseYear else year

/-- Years that cells can show, a month that begins inside the calendar and a day that has a
serial. -/
def HasSerial (system : DateSystem) (year month day : Int) : Prop :=
  (0 ≤ year ∧ year ≤ lastCellYear) ∧
    (firstYear ≤ (firstOfMonth year month).year ∧ (firstOfMonth year month).year ≤ lastYear) ∧
    0 ≤ system.serialOf (rolledDate year month day) ∧
    system.serialOf (rolledDate year month day) ≤ system.maxSerial

instance (system : DateSystem) (year month day : Int) :
    Decidable (HasSerial system year month day) :=
  inferInstanceAs (Decidable (_ ∧ _))

section Dates

variable {context : Context} {operands : List Value} {system : DateSystem} {date : Date}
  {year month day : Int}

/-- A month has a start exactly if the year that it rolls over to is in the range. -/
theorem month_start_eq (year month : Int) : monthStart year month =
    if firstYear ≤ (firstOfMonth year month).year ∧ (firstOfMonth year month).year ≤ lastYear then
      some (firstOfMonth year month)
    else none := by
  have months : (year * 12 + (month - 1)) / 12 = year + (month - 1) / 12 ∧
      (year * 12 + (month - 1)) % 12 = (month - 1) % 12 := by omega
  obtain ⟨first, last, pos, le⟩ := Calendar.is_day_first year month
  unfold monthStart Date.ofParts?
  dsimp only
  rw [months.1, months.2, Calendar.year_first_of_month]
  by_cases inside : firstYear ≤ year + (month - 1) / 12 ∧ year + (month - 1) / 12 ≤ lastYear
  · rw [if_pos inside, if_pos ⟨inside.1, inside.2, first, last, pos, le⟩]
    rfl
  · rw [if_neg inside, if_neg fun all => inside ⟨all.1, all.2.1⟩]

/-- Days with a serial lie inside the calendar. -/
theorem in_calendar_of_serial
    (h : 0 ≤ system.serialOf date ∧ system.serialOf date ≤ system.maxSerial) :
    Date.earliest.number ≤ date.number ∧ date.number ≤ Date.latest.number := by
  have first : Date.earliest.number ≤ 693960 := by decide
  have last : 3652424 ≤ Date.latest.number := by decide
  cases system with
  | from1900 =>
      have most : DateSystem.from1900.maxSerial = 2958465 := rfl
      rw [Calendar.serial_from1900, most] at h
      split at h <;> omega
  | from1904 =>
      have most : DateSystem.from1904.maxSerial = 2957003 := rfl
      rw [Calendar.serial_from1904, most] at h
      omega

/-- A day beyond the calendar would not have a serial. -/
theorem add_days_cases (first : Date) (days : Int) :
    first.addDays days = some ⟨first.number + days⟩ ∨
      first.addDays days = none ∧ ∀ system,
        serialValue system ⟨first.number + days⟩ = .error .number := by
  unfold Date.addDays
  dsimp only
  split
  · exact Or.inl rfl
  · next outside =>
    exact Or.inr ⟨rfl, fun _ => if_neg fun serials => outside (in_calendar_of_serial serials)⟩

/-- With its year and its month inside the bounds a day only needs a serial. -/
theorem serial_value_rolled (years : 0 ≤ year ∧ year ≤ lastCellYear)
    (months : firstYear ≤ (firstOfMonth year month).year ∧
      (firstOfMonth year month).year ≤ lastYear) :
    serialValue system (rolledDate year month day) =
      if HasSerial system year month day then
        .ok (ofInteger (system.serialOf (rolledDate year month day)))
      else .error .number :=
  if_congr ⟨fun serials => ⟨years, months, serials⟩, fun all => all.2.2⟩ rfl rfl

/-- `DATE` gives the serial of the day that is meant, if it has one. -/
theorem date_eq (hyear : integer operands 0 = .ok year) (hmonth : integer operands 1 = .ok month)
    (hday : integer operands 2 = .ok day) : Builtin.date context operands =
      if HasSerial context.dateSystem (fullYear year) month day then
        .ok (ofInteger (context.dateSystem.serialOf (rolledDate (fullYear year) month day)))
      else .error .number := by
  have full : (if 0 ≤ year ∧ year < baseYear then year + baseYear else year) = fullYear year := rfl
  unfold Builtin.date
  rw [hyear, hmonth, hday]
  dsimp only [bind, Except.bind]
  rw [full]
  by_cases years : 0 ≤ fullYear year ∧ fullYear year ≤ lastCellYear
  · have within : ¬(fullYear year < 0 ∨ lastCellYear < fullYear year) := by omega
    rw [if_neg within, month_start_eq]
    by_cases months : firstYear ≤ (firstOfMonth (fullYear year) month).year ∧
        (firstOfMonth (fullYear year) month).year ≤ lastYear
    · rw [if_pos months, Option.bind_some, ← serial_value_rolled years months]
      rcases add_days_cases (firstOfMonth (fullYear year) month) (day - 1) with
        found | ⟨found, missing⟩
      · rw [found]
        rfl
      · rw [found]
        exact (missing _).symm
    · rw [if_neg months, if_neg fun all => months all.2.1]
      rfl
  · have beyond : fullYear year < 0 ∨ lastCellYear < fullYear year := by omega
    rw [if_pos beyond]
    exact (if_neg fun all => years all.1).symm

/-- In the 1900 system a day other than that of serial zero has a serial of a day. -/
theorem is_serial_of_bounds
    (h : 0 ≤ system.serialOf date ∧ system.serialOf date ≤ system.maxSerial)
    (notZero : ¬(system = .from1900 ∧ system.serialOf date = 0)) :
    system.IsSerial (system.serialOf date) := by
  cases system with
  | from1900 =>
      have least : DateSystem.from1900.serialOf date ≠ 0 := fun zero => notZero ⟨rfl, zero⟩
      exact ⟨by omega, h.2, Calendar.serial_of_ne_phantom date⟩
  | from1904 => exact h

/-- The parts of a serial are those of its date. -/
theorem date_part_of_serial (pick : Int × Nat × Nat → Int)
    (h : context.dateSystem.IsSerial (context.dateSystem.serialOf date)) :
    datePart pick context [ofInteger (context.dateSystem.serialOf date)] =
      .ok (ofInteger (pick (date.year, date.month, date.day))) := by
  have small := Calendar.natAbs_lt_of_serial h
  have found := Calendar.date_of_whole_eq_some_iff.mpr ⟨h, rfl⟩
  have parts : datePartsOf context.dateSystem
      (Float.ofInt (context.dateSystem.serialOf date)) =
        some (date.year, date.month, date.day) := by
    unfold datePartsOf
    rw [Number.is_finite_of_int small, Number.floor_of_int small, Number.whole_part_of_int small]
    rw [if_neg (by decide)]
    -- neither zero nor the serial of the phantom day belongs to a date of the 1900 system
    split
    · next first zero =>
      rw [zero, first] at h
      exact absurd h (by decide)
    · next first phantom =>
      rw [phantom, first] at h
      exact absurd h (by decide)
    · rw [Calendar.date_of_int h, found]
      rfl
  have read : number [ofInteger (context.dateSystem.serialOf date)] 0 =
      .ok (Float.ofInt (context.dateSystem.serialOf date)) := rfl
  unfold datePart
  rw [read]
  dsimp only [bind, Except.bind]
  rw [parts]
  rfl

end Dates

/-! ## The law -/

/-- From a year, a month and a day `DATE` gives the serial of the day they roll over to, if they
have one, and otherwise the error for numbers. The serial is never that of the phantom day. Unless
it is zero in the 1900 system, the year, the month and the day of that day are read back from it. -/
theorem date_rolls_over (context : Context) {operands : List Value} {year month day : Int}
    (hyear : integer operands 0 = .ok year) (hmonth : integer operands 1 = .ok month)
    (hday : integer operands 2 = .ok day) :
    let system := context.dateSystem
    let rolled := rolledDate (fullYear year) month day
    let serial := system.serialOf rolled
    date context operands =
        (if HasSerial system (fullYear year) month day then .ok (ofInteger serial)
          else .error .number) ∧
      (system = .from1900 → serial ≠ DateSystem.phantomSerial) ∧
      (HasSerial system (fullYear year) month day → ¬(system = .from1900 ∧ serial = 0) →
        ∃ fullYear month day, IsDay fullYear month day ∧ Date.ofParts fullYear month day = rolled ∧
          Builtin.year context [ofInteger serial] = .ok (ofInteger fullYear) ∧
          Builtin.month context [ofInteger serial] = .ok (ofInteger month) ∧
          Builtin.day context [ofInteger serial] = .ok (ofInteger day)) := by
  intro system rolled serial
  refine ⟨date_eq hyear hmonth hday, ?_, ?_⟩
  · intro first
    rw [show serial = DateSystem.from1900.serialOf rolled from congrArg (·.serialOf rolled) first]
    exact Calendar.serial_of_ne_phantom rolled
  · rintro ⟨-, -, least, most⟩ notZero
    have inside : system.IsSerial serial := is_serial_of_bounds ⟨least, most⟩ notZero
    exact ⟨rolled.year, rolled.month, rolled.day, (Calendar.of_parts_parts rolled).1,
      (Calendar.of_parts_parts rolled).2, date_part_of_serial _ inside,
      date_part_of_serial _ inside, date_part_of_serial _ inside⟩

/-- The second month after December 1900, 307 days back from its first: the last of March 1900. The
day after the last one that cells can show is none. -/
theorem date_rolls_over_both_ways :
    let context := Context.bare default
    let operands := [ofInteger 0, ofInteger 14, ofInteger (-306)]
    let beyond := [ofInteger 9999, ofInteger 12, ofInteger 32]
    (integer operands 0 = .ok 0 ∧ integer operands 1 = .ok 14 ∧ integer operands 2 = .ok (-306)) ∧
      date context operands = .ok (ofInteger 91) ∧
      year context [ofInteger 91] = .ok (ofInteger 1900) ∧
      month context [ofInteger 91] = .ok (ofInteger 3) ∧
      day context [ofInteger 91] = .ok (ofInteger 31) ∧
      date context beyond = .error .number := by
  intro context operands beyond
  have read (amount : Int) (small : amount.natAbs < 2 * Number.hiddenBit) :
      (.ok (Number.wholePart (Float.ofInt amount)) : Except ErrorValue Int) = .ok amount :=
    congrArg Except.ok (Number.whole_part_of_int small)
  have hyear : integer operands 0 = .ok 0 := read 0 (by decide)
  have hmonth : integer operands 1 = .ok 14 := read 14 (by decide)
  have hday : integer operands 2 = .ok (-306) := read (-306) (by decide)
  have law := date_rolls_over context hyear hmonth hday
  have lastYear : integer beyond 0 = .ok 9999 := read 9999 (by decide)
  have lastMonth : integer beyond 1 = .ok 12 := read 12 (by decide)
  have notDay : integer beyond 2 = .ok 32 := read 32 (by decide)
  have missed := (date_rolls_over context lastYear lastMonth notDay).1
  have given : HasSerial .from1900 (fullYear 0) 14 (-306) := by decide
  have notGiven : ¬HasSerial .from1900 (fullYear 9999) 12 32 := by decide
  obtain ⟨year, month, day, isDay, same, readYear, readMonth, readDay⟩ :=
    law.2.2 given (by decide)
  have parts := Calendar.parts_of_parts isDay
  rw [same] at parts
  obtain ⟨rfl, rfl, rfl⟩ := parts
  exact ⟨⟨hyear, hmonth, hday⟩, law.1.trans (if_pos given), readYear, readMonth, readDay,
    missed.trans (if_neg notGiven)⟩

end Spreadsheet.Builtin
