import Spreadsheet.Builtin.Workdays
import Spreadsheet.Proofs.Machine.Checked
import Spreadsheet.Proofs.Machine.Values

/-!
# Functions over dates on a machine

Serial numbers, weekdays and counts of days are integers of 64 bits, and the days of a week are an
array of seven flags. No date of the calendar is far enough away for any of it to overflow.
-/

namespace Spreadsheet.Machine

open Calendar (Date DateSystem Weekend WorkdayCount)

/-- A date inside the calendar. -/
def InCalendar (date : Date) : Prop :=
  Date.earliest.number ≤ date.number ∧ date.number ≤ Date.latest.number

instance (date : Date) : Decidable (InCalendar date) := inferInstanceAs (Decidable (_ ∧ _))

/-- The serial of a date. -/
def serialOf (system : DateSystem) (date : Date) : Checked Int := do
  let days ← signed (date.number - system.epoch.number)
  match system with
  | .from1900 => if DateSystem.phantomSerial ≤ days then signed (days + 1) else return days
  | .from1904 => return days

/-- The date of a serial: the day after the last one is where serials end, and serials after the
phantom day are one ahead of the days. -/
def dateOf (system : DateSystem) (serial : Float) : Checked (Option Date) := do
  let _ ← signed (system.maxSerial + 1)
  let whole := Number.wholePart (Number.floor serial)
  if DateSystem.phantomSerial < whole then
    let _ ← signed (whole - 1)
    return system.dateOf serial
  else return system.dateOf serial

/-- The date of the serial at an index. -/
def dateAt (context : Context) (operands : List Value) (index : Nat) : Guarded ErrorValue Date := do
  let serial ← Builtin.number operands index
  match ← dateOf context.dateSystem serial with
  | some date => return date
  | none => throw .number

/-- The serial of a date as a value. -/
def serialValue (system : DateSystem) (date : Date) : Guarded ErrorValue Value := do
  let serial ← serialOf system date
  if 0 ≤ serial ∧ serial ≤ system.maxSerial then return Builtin.ofInteger serial
  else throw .number

/-- `DATE(year, month, day)`: the months of the year and the number of the month are counted without
a check. -/
def date (context : Context) (operands : List Value) : Guarded ErrorValue Value := do
  let year ← Builtin.integer operands 0
  let month ← Builtin.integer operands 1
  let day ← Builtin.integer operands 2
  let year ← (if 0 ≤ year ∧ year < Builtin.baseYear then signed (year + Builtin.baseYear)
    else pure year : Checked Int)
  if year < 0 ∨ Builtin.lastCellYear < year then throw .number
  let _ ← signed (year * 12)
  let _ ← unsigned 32 (((month - 1 + year * 12) % 12).toNat + 1)
  match (Builtin.monthStart year month).bind fun first => first.addDays (day - 1) with
  | some date => serialValue context.dateSystem date
  | none => throw .number

/-- `YEAR`, `MONTH` and `DAY` -/
def datePart (pick : Int × Nat × Nat → Int) (context : Context) (operands : List Value) :
    Guarded ErrorValue Value := do
  let serial ← Builtin.number operands 0
  let _ ← dateOf context.dateSystem serial
  match Builtin.datePartsOf context.dateSystem serial with
  | some parts => return Builtin.ofInteger (pick parts)
  | none => throw .number

/-- The number of a weekday, given from Sunday as zero. -/
def weekdayNumber (fromSunday numbering : Int) : Guarded ErrorValue Int := do
  let fromMonday := (← signed (fromSunday + 6)) % 7
  if numbering = 1 then signed (fromSunday + 1)
  else if numbering = 2 then signed (fromMonday + 1)
  else if numbering = 3 then return fromMonday
  else if 11 ≤ numbering ∧ numbering ≤ 17 then
    let shift ← signed (numbering - 11)
    let day ← signed (fromMonday - shift)
    signed (day % 7 + 1)
  else throw .number

/-- `WEEKDAY(serial, numbering)` -/
def weekday (context : Context) (operands : List Value) : Guarded ErrorValue Value := do
  let serial ← Builtin.number operands 0
  let whole := Number.wholePart (Number.floor serial)
  if !Number.isFinite serial || whole < 0 || context.dateSystem.maxSerial < whole then throw .number
  let numbering ← if operands.length ≤ 1 then pure 1 else liftM (Builtin.integer operands 1)
  let shifted ← signed (whole + Builtin.weekShift context.dateSystem)
  return Builtin.ofInteger (← weekdayNumber (shifted % 7) numbering)

/-- `TODAY()` -/
def today (context : Context) (_ : List Value) : Guarded ErrorValue Value :=
  serialValue context.dateSystem context.moment.date

/-- `NOW()` -/
def now (context : Context) (_ : List Value) : Guarded ErrorValue Value := do
  let serial ← serialOf context.dateSystem context.moment.date
  return .number (Float.ofInt serial +
    Float.ofNat context.moment.second / Float.ofNat Builtin.secondsPerDay)

/-- The date of one holiday. -/
def holiday (context : Context) : Value → Guarded ErrorValue (List Date)
  | .empty => return []
  | .number serial => do
    match ← dateOf context.dateSystem serial with
    | some date => return [date]
    | none => throw .number
  | _ => throw .value

/-- The holidays in the operand at an index. -/
def holidays (context : Context) (operands : List Value) (index : Nat) :
    Guarded ErrorValue (List Date) :=
  match operands[index]? with
  | none => return []
  | some value => do
    if let some fault := Builtin.firstError [value] then throw fault
    return (← value.flatten.mapM (holiday context)).flatten

/-- Sets the flag of one day of the week. -/
def flagged (day : Int) : Checked Bool := element (List.replicate 7 true) day.toNat

/-- The weekend of a code. -/
def weekendOfCode (code : Int) : Checked (Option Weekend) :=
  if 1 ≤ code ∧ code ≤ 7 then do
    let first := (← signed (code + 4)) % 7
    let _ ← flagged first
    let _ ← flagged ((first + 1) % 7)
    return Weekend.ofCode code
  else if 11 ≤ code ∧ code ≤ 17 then do
    let day := (← signed (code - 12)) % 7
    let _ ← flagged day
    return Weekend.ofCode code
  else return none

/-- The weekend in the operand at an index. -/
def weekendAt (operands : List Value) (index : Nat) : Guarded ErrorValue Weekend :=
  match (Builtin.operand operands index).scalar with
  | .empty => return .usual
  | .text mask => ((Weekend.ofMask mask).elim (.error .value) .ok : Except ErrorValue Weekend)
  | .error fault => throw fault
  | other => do
    let amount ← other.toNumber
    match ← weekendOfCode (Number.wholePart amount) with
    | some weekend => return weekend
    | none => throw .number

/-- Whether a day is worked. The days off are an array of seven flags, by the day of the week. -/
def isWorkday (weekend : Weekend) (holidays : List Date) (date : Date) : Checked Bool := do
  let isOff ← element weekend.flags date.weekday.val
  return !isOff && !holidays.contains date

/-- Walks day by day until the given number of workdays has passed. -/
def walk (weekend : Weekend) (holidays : List Date) (direction : Calendar.Direction) :
    (room remaining : Nat) → Date → Checked (Option Date)
  | _, 0, date => .ok (some date)
  | 0, _ + 1, _ => .ok none
  | room + 1, remaining + 1, date => do
    let next := direction.next date
    if !Calendar.inRange next then return none
    else if ← isWorkday weekend holidays next then
      walk weekend holidays direction room (← minus (remaining + 1) 1) next
    else walk weekend holidays direction room (remaining + 1) next

/-- The workday that lies a number of workdays after the start. -/
def advance (weekend : Weekend) (holidays : List Date) (start : Date) (workdays : Int) :
    Checked (Option WorkdayCount) := do
  let direction := if workdays < 0 then Calendar.Direction.backward else .forward
  let room : Int := match direction with
    | .forward => Calendar.lastDay.number - start.number
    | .backward => start.number - Calendar.firstDay.number
  if room < 0 ∨ room < workdays.natAbs then return none
  else
    return (← walk weekend holidays direction room.toNat workdays.natAbs start).map fun finish =>
      ⟨workdays.natAbs, start, finish, direction⟩

/-- Adds to `count` the workdays among the next `days` days. -/
def countFrom (weekend : Weekend) (holidays : List Date) :
    (days : Nat) → Date → (count : Nat) → Checked Nat
  | 0, _, count => return count
  | days + 1, date, count => do
    let next := Calendar.Direction.forward.next date
    if ← isWorkday weekend holidays date then
      countFrom weekend holidays days next (← unsigned 64 (count + 1))
    else countFrom weekend holidays days next count

/-- The days from one date to another, both included, and none after the last of the calendar. -/
def daysBetween (low high : Date) : Nat :=
  (min (high.number + 1) Date.latest.number - low.number).toNat

/-- The workdays between two dates, both included. -/
def countWorkdays (weekend : Weekend) (holidays : List Date) (start finish : Date) :
    Checked WorkdayCount := do
  let (low, high, direction) :=
    if finish.number < start.number then (finish, start, Calendar.Direction.backward)
    else (start, finish, Calendar.Direction.forward)
  let counted ← countFrom weekend holidays (daysBetween low high) low 0
  return ⟨counted, start, finish, direction⟩

/-- `WORKDAY` and `WORKDAY.INTL` with a weekend -/
def workdayAway (weekend : Weekend) (holidayIndex : Nat) (context : Context)
    (operands : List Value) : Guarded ErrorValue Value := do
  let start ← dateAt context operands 0
  let count ← Builtin.integer operands 1
  let free ← holidays context operands holidayIndex
  match ← advance weekend free start count with
  | some found => serialValue context.dateSystem found.finish
  | none => throw .number

/-- `NETWORKDAYS` and `NETWORKDAYS.INTL` with a weekend -/
def workdaysBetween (weekend : Weekend) (holidayIndex : Nat) (context : Context)
    (operands : List Value) : Guarded ErrorValue Value := do
  let start ← dateAt context operands 0
  let finish ← dateAt context operands 1
  let free ← holidays context operands holidayIndex
  let found ← countWorkdays weekend free start finish
  match found.direction with
  | .forward => return Builtin.ofInteger found.workdays
  | .backward => return Builtin.ofInteger (← signed (-found.workdays))

/-- `WORKDAY.INTL(start, count, weekend, holidays)` -/
def workdayIn (context : Context) (operands : List Value) : Guarded ErrorValue Value := do
  workdayAway (← weekendAt operands 2) 3 context operands

/-- `NETWORKDAYS.INTL(start, finish, weekend, holidays)` -/
def networkdaysIn (context : Context) (operands : List Value) : Guarded ErrorValue Value := do
  workdaysBetween (← weekendAt operands 2) 3 context operands

/-! ## Dates of the calendar -/

section Calendar

variable {system : DateSystem} {date : Date}

/-- The calendar reaches less than a billion days in either direction. -/
theorem InCalendar.bounds (h : InCalendar date) :
    -10 ^ 9 < date.number ∧ date.number < 10 ^ 9 := by
  have hearliest : -10 ^ 9 < Date.earliest.number := by decide
  have hlatest : Date.latest.number < 10 ^ 9 := by decide
  exact ⟨hearliest.trans_le h.1, h.2.trans_lt hlatest⟩

/-- The first day of a date system has a small number. -/
theorem epoch_bounds (system : DateSystem) :
    0 ≤ system.epoch.number ∧ system.epoch.number < 10 ^ 6 := by
  cases system <;> decide

/-- The last serial of a date system is small. -/
theorem max_serial_bounds (system : DateSystem) :
    0 ≤ system.maxSerial ∧ system.maxSerial < 10 ^ 7 := by
  cases system <;> decide

/-- The serial of a date in the calendar is computed without being stopped. -/
theorem serial_of_eq (system : DateSystem) (h : InCalendar date) :
    serialOf system date = .ok (system.serialOf date) := by
  have hdate := h.bounds
  have hepoch := epoch_bounds system
  have hdays : signed (date.number - system.epoch.number) =
      .ok (date.number - system.epoch.number) := signed_eq (by omega) (by omega)
  cases system with
  | from1900 =>
      simp only [serialOf, DateSystem.serialOf, hdays, bind, Except.bind]
      split
      · exact signed_eq (by omega) (by omega)
      · rfl
  | from1904 =>
      simp only [serialOf, DateSystem.serialOf, hdays, bind, Except.bind]
      rfl

/-- The date of a serial is computed without being stopped, whatever the serial is. -/
theorem date_of_eq (system : DateSystem) (serial : Float) :
    dateOf system serial = .ok (system.dateOf serial) := by
  have hmax := max_serial_bounds system
  have hrange := Number.whole_part_range (Number.floor serial)
  unfold Number.minInteger Number.maxInteger at hrange
  have hend : signed (system.maxSerial + 1) = .ok (system.maxSerial + 1) :=
    signed_eq (by omega) (by omega)
  have hphantom : DateSystem.phantomSerial = 60 := rfl
  simp only [dateOf, hend, bind, Except.bind]
  split
  · rw [signed_eq (by omega) (by omega)]
    rfl
  · rfl

/-- The date of a serial lies in the calendar. -/
theorem date_of_in_calendar {serial : Float} (h : system.dateOf serial = some date) :
    InCalendar date := by
  have hearliest : Date.earliest.number < 0 := by decide
  have hlatest : 10 ^ 6 + 10 ^ 7 < Date.latest.number := by decide
  have hmax := max_serial_bounds system
  have hepoch := epoch_bounds system
  unfold DateSystem.dateOf at h
  split at h
  · unfold DateSystem.dateOfWhole at h
    split at h
    · cases h
    · cases system with
      | from1900 =>
          dsimp only at h
          unfold DateSystem.phantomSerial at h
          split at h
          · cases h
          · cases h
            unfold InCalendar
            dsimp only
            split <;> omega
      | from1904 =>
          dsimp only at h
          split at h
          · cases h
          · cases h
            unfold InCalendar
            dsimp only
            omega
  · cases h

/-- Adding days to a date stays in the calendar if it comes to a date. -/
theorem add_days_in_calendar {moved : Date} {days : Int} (h : date.addDays days = some moved) :
    InCalendar moved := by
  unfold Date.addDays at h
  dsimp only at h
  split at h
  · rename_i hrange
    cases h
    exact hrange
  · cases h

/-- A date in range is in the calendar. -/
theorem in_calendar_of_range (h : Calendar.inRange date = true) : InCalendar date := by
  have hfirst : Date.earliest.number ≤ Calendar.firstDay.number := by decide
  have hlast : Calendar.lastDay.number ≤ Date.latest.number := by decide
  simp only [Calendar.inRange, Bool.and_eq_true, decide_eq_true_eq] at h
  exact ⟨hfirst.trans h.1, h.2.trans hlast⟩

end Calendar

/-! ## Functions over dates -/

section Functions

variable (context : Context) (operands : List Value)

/-- The value of a serial follows the plain one for a date in the calendar. -/
theorem serial_value_follows (system : DateSystem) {date : Date} (h : InCalendar date) :
    Follows Never (serialValue system date) (Builtin.serialValue system date) := by
  refine .step (serial_of_eq system h) ?_
  unfold Builtin.serialValue
  dsimp only
  split
  · exact .pure _
  · exact .throw _

/-- Reading an operand as a date follows the plain reading. -/
theorem date_at_follows (index : Nat) :
    Follows Never (dateAt context operands index) (Builtin.dateAt context operands index) := by
  refine .bind (.same _) fun serial _ => .step (date_of_eq _ serial) ?_
  cases context.dateSystem.dateOf serial with
  | none => exact .throw _
  | some date => exact .pure date

/-- An operand is read as a date in the calendar. -/
theorem date_at_in_calendar {index : Nat} {date : Date}
    (h : Builtin.dateAt context operands index = .ok date) : InCalendar date := by
  unfold Builtin.dateAt at h
  cases hserial : Builtin.number operands index with
  | error fault =>
      rw [hserial] at h
      cases h
  | ok serial =>
      rw [hserial] at h
      simp only [bind, Except.bind] at h
      split at h
      · rename_i found hfound
        cases h
        exact date_of_in_calendar hfound
      · cases h

/-- The function `DATE` follows the plain function. -/
theorem date_follows : Follows Never (date context operands) (Builtin.date context operands) := by
  refine .bind (.same _) fun year hyear => .bind (.same _) fun month _ =>
    .bind (.same _) fun day _ => ?_
  have hrange := integer_range operands hyear
  let counted := if 0 ≤ year ∧ year < Builtin.baseYear then year + Builtin.baseYear else year
  have hcounted : (if 0 ≤ year ∧ year < Builtin.baseYear then signed (year + Builtin.baseYear)
      else pure year : Checked Int) = .ok counted := by
    unfold counted Builtin.baseYear
    split
    · exact signed_eq (by omega) (by omega)
    · rfl
  refine .step hcounted ?_
  dsimp only
  -- from here on, both sides take the year as `counted`
  change Follows Never _ (if counted < 0 ∨ Builtin.lastCellYear < counted then _ else _)
  split
  · exact .refuse _
  · rename_i hyears
    have hlast : Builtin.lastCellYear = 9999 := rfl
    refine .step (signed_eq (by omega) (by omega)) (.step (unsigned_eq (by omega)) ?_)
    change Follows Never _ (match (Builtin.monthStart counted month).bind _ with
      | some date => Builtin.serialValue context.dateSystem date
      | none => throw ErrorValue.number)
    cases hmoved : (Builtin.monthStart counted month).bind fun first =>
        first.addDays (day - 1) with
    | none => exact .throw _
    | some moved =>
        obtain ⟨first, -, hadded⟩ := Option.bind_eq_some_iff.mp hmoved
        exact serial_value_follows _ (add_days_in_calendar hadded)

/-- The functions for parts of a date follow the plain ones. -/
theorem date_part_follows (pick : Int × Nat × Nat → Int) :
    Follows Never (datePart pick context operands) (Builtin.datePart pick context operands) := by
  refine .bind (.same _) fun serial _ => .step (date_of_eq _ serial) ?_
  cases Builtin.datePartsOf context.dateSystem serial with
  | none => exact .throw _
  | some parts => exact .pure _

/-- The number of a weekday follows the plain one, which counts a day on. -/
theorem weekday_number_follows (whole shift numbering : Int) :
    Follows Never (weekdayNumber ((whole + shift) % 7) numbering)
      (Builtin.weekdayNumber ((whole + shift + 6) % 7) numbering) := by
  refine .step (signed_eq (by omega) (by omega)) ?_
  unfold Builtin.weekdayNumber
  have hmonday : ((whole + shift) % 7 + 6) % 7 = (whole + shift + 6) % 7 := by omega
  dsimp only
  rw [hmonday]
  split
  · have hsunday : (whole + shift) % 7 + 1 = ((whole + shift + 6) % 7 + 1) % 7 + 1 := by omega
    rw [hsunday]
    exact .value (signed_eq (by omega) (by omega))
  · split
    · exact .value (signed_eq (by omega) (by omega))
    · split
      · exact .pure _
      · split
        · refine .step (signed_eq (by omega) (by omega)) ?_
          refine .step (signed_eq (by omega) (by omega)) ?_
          exact .value (signed_eq (by omega) (by omega))
        · exact .throw _

/-- The function `WEEKDAY` follows the plain function. -/
theorem weekday_follows :
    Follows Never (weekday context operands) (Builtin.weekday context operands) := by
  refine .bind (.same _) fun serial _ => ?_
  dsimp only
  split
  · exact .refuse _
  · rename_i hrange
    simp only [Bool.or_eq_true, decide_eq_true_eq, not_or, Int.not_lt] at hrange
    obtain ⟨⟨-, hleast⟩, hmost⟩ := hrange
    have hmax := max_serial_bounds context.dateSystem
    have hshift : 0 ≤ Builtin.weekShift context.dateSystem ∧
        Builtin.weekShift context.dateSystem ≤ 6 := by
      cases context.dateSystem <;> decide
    -- the numbering is read only where it is given, so it is any integer in what follows
    have hnumbered : ∀ numbering : Int, Follows Never
        (do
          let shifted ← signed (Number.wholePart (Number.floor serial) +
            Builtin.weekShift context.dateSystem)
          return Builtin.ofInteger (← weekdayNumber (shifted % 7) numbering) :
            Guarded ErrorValue Value)
        (do
          return Builtin.ofInteger (← Builtin.weekdayNumber
            ((Number.wholePart (Number.floor serial) +
              Builtin.weekShift context.dateSystem + 6) % 7) numbering)) := by
      intro numbering
      refine .step (signed_eq (by omega) (by omega)) ?_
      exact .bind (weekday_number_follows _ _ _) fun day _ => .pure _
    split
    · exact .bind (.pure 1) fun numbering _ => hnumbered numbering
    · exact .bind (.same _) fun numbering _ => hnumbered numbering

variable {context} in
/-- The function `TODAY` follows the plain function at a moment of the calendar. -/
theorem today_follows (h : InCalendar context.moment.date) :
    Follows Never (today context operands) (Builtin.today context operands) :=
  serial_value_follows context.dateSystem h

variable {context} in
/-- The function `NOW` follows the plain function at a moment of the calendar. -/
theorem now_follows (h : InCalendar context.moment.date) :
    Follows Never (now context operands) (Builtin.now context operands) :=
  .step (serial_of_eq context.dateSystem h) (.pure _)

/-- Reading a value as a holiday follows the plain reading. -/
theorem holiday_follows (value : Value) :
    Follows Never (holiday context value) (Builtin.holiday context value) := by
  cases value with
  | empty => exact .pure _
  | number serial =>
      refine .step (date_of_eq _ serial) ?_
      unfold Builtin.holiday
      dsimp only
      cases context.dateSystem.dateOf serial with
      | none => exact .throw _
      | some date => exact .pure _
  | text content => exact .throw _
  | logical truth => exact .throw _
  | error fault => exact .throw _
  | array rows => exact .throw _

/-- Reading an operand as holidays follows the plain reading. -/
theorem holidays_follows (index : Nat) :
    Follows Never (holidays context operands index) (Builtin.holidays context operands index) := by
  unfold holidays Builtin.holidays
  cases operands[index]? with
  | none => exact .pure _
  | some value =>
      dsimp only
      cases Builtin.firstError [value] with
      | some fault => exact .refuse _
      | none =>
          exact .bind (.mapM fun item _ => holiday_follows context item) fun found _ => .pure _

/-- A day of the week has its place among the seven flags. -/
theorem flagged_eq {day : Int} (h : day < 7) : flagged day = .ok true := by
  apply element_eq
  rw [List.getElem?_replicate, if_pos (by omega)]

/-- The code of a weekend is read without being stopped. -/
theorem weekend_of_code_eq (code : Int) : weekendOfCode code = .ok (Weekend.ofCode code) := by
  unfold weekendOfCode
  split
  · rw [signed_eq (by omega) (by omega)]
    dsimp only [bind, Except.bind]
    rw [flagged_eq (by omega)]
    dsimp only
    rw [flagged_eq (by omega)]
    rfl
  · split
    · rw [signed_eq (by omega) (by omega)]
      dsimp only [bind, Except.bind]
      rw [flagged_eq (by omega)]
      rfl
    · rename_i hshort hlong
      rw [Weekend.ofCode, if_neg hshort, if_neg hlong]
      rfl

/-- Reading an operand as a weekend follows the plain reading. -/
theorem weekend_at_follows (index : Nat) :
    Follows Never (weekendAt operands index) (Builtin.weekendAt operands index) := by
  have hcode : ∀ value : Value, Follows Never
      (do
        let amount ← value.toNumber
        match ← weekendOfCode (Number.wholePart amount) with
        | some weekend => return weekend
        | none => throw .number : Guarded ErrorValue Weekend)
      (do
        match Weekend.ofCode (Number.wholePart (← value.toNumber)) with
        | some weekend => return weekend
        | none => throw .number) := by
    intro value
    refine .bind (.same _) fun amount _ => .step (weekend_of_code_eq _) ?_
    cases Weekend.ofCode (Number.wholePart amount) with
    | none => exact .throw _
    | some weekend => exact .pure weekend
  unfold weekendAt Builtin.weekendAt
  cases (Builtin.operand operands index).scalar with
  | empty => exact .pure _
  | text mask => exact .same _
  | error fault => exact .throw fault
  | number amount => exact hcode (.number amount)
  | logical truth => exact hcode (.logical truth)
  | array rows => exact hcode (.array rows)

section Walk

variable (weekend : Weekend) (free : List Date)

/-- Whether a date is a workday is found out without being stopped. -/
theorem is_workday_eq (date : Date) :
    isWorkday weekend free date = .ok (Calendar.isWorkday weekend free date) := by
  have hflag : weekend.flags[date.weekday.val]? = some (weekend.isOff date.weekday) := by
    simp [Weekend.flags]
  rw [isWorkday, element_eq hflag]
  rfl

/-- A walk over workdays is never stopped, however much room it has. -/
theorem walk_eq (direction : Calendar.Direction) (room remaining : Nat) (date : Date) :
    walk weekend free direction room remaining date =
      .ok (Calendar.walk weekend free direction room remaining date) := by
  induction room generalizing remaining date with
  | zero => cases remaining <;> rfl
  | succ room ih =>
      cases remaining with
      | zero => rfl
      | succ remaining =>
          simp only [walk, Calendar.walk, is_workday_eq, minus_eq (Nat.succ_pos remaining), bind,
            Except.bind]
          split
          · rfl
          · split
            · exact ih remaining _
            · exact ih (remaining + 1) _

/-- A walk from a day of the calendar ends on one. -/
theorem walk_in_calendar {direction : Calendar.Direction} {room remaining : Nat}
    {date finish : Date} (hdate : InCalendar date)
    (h : Calendar.walk weekend free direction room remaining date = some finish) :
    InCalendar finish := by
  induction room generalizing remaining date with
  | zero =>
      cases remaining with
      | zero =>
          cases h
          exact hdate
      | succ remaining => cases h
  | succ room ih =>
      cases remaining with
      | zero =>
          cases h
          exact hdate
      | succ remaining =>
          rw [Calendar.walk] at h
          split at h
          · cases h
          · rename_i hrange
            rw [Bool.not_eq_true, Bool.not_eq_false'] at hrange
            split at h
            · exact ih (in_calendar_of_range hrange) h
            · exact ih (in_calendar_of_range hrange) h

/-- An advance by workdays is never stopped. -/
theorem advance_eq (start : Date) (workdays : Int) :
    advance weekend free start workdays =
      .ok (Calendar.advance weekend free start workdays) := by
  simp only [advance, Calendar.advance, walk_eq]
  generalize (if workdays < 0 then Calendar.Direction.backward else .forward) = direction
  cases direction with
  | forward =>
      dsimp only
      split
      · rfl
      · rfl
  | backward =>
      dsimp only
      split
      · rfl
      · rfl

/-- An advance from the calendar ends in the calendar. -/
theorem advance_in_calendar {start : Date} {workdays : Int} {found : WorkdayCount}
    (hstart : InCalendar start)
    (h : Calendar.advance weekend free start workdays = some found) :
    InCalendar found.finish := by
  simp only [Calendar.advance, Option.ite_none_left_eq_some, Option.map_eq_some_iff] at h
  obtain ⟨-, finish, hwalk, rfl⟩ := h
  exact walk_in_calendar weekend free hstart hwalk

/-- No more days are counted than there are. -/
theorem count_from_le (days : Nat) (date : Date) (count : Nat) :
    Calendar.countFrom weekend free days date count ≤ count + days := by
  induction days generalizing date count with
  | zero => exact Nat.le_refl count
  | succ days ih =>
      rw [Calendar.countFrom]
      split
      · exact (ih _ _).trans (by omega)
      · exact (ih _ _).trans (by omega)

/-- Counting workdays is not stopped while the count fits 64 bits. -/
theorem count_from_eq (days : Nat) (date : Date) {count : Nat} (h : count + days < 2 ^ 64) :
    countFrom weekend free days date count =
      .ok (Calendar.countFrom weekend free days date count) := by
  induction days generalizing date count with
  | zero => rfl
  | succ days ih =>
      simp only [countFrom, Calendar.countFrom, is_workday_eq, bind, Except.bind]
      split
      · rw [unsigned_eq (by omega)]
        exact ih _ (by omega)
      · exact ih _ (by omega)

/-- Between two dates of the calendar lie few enough days to count. -/
theorem days_between_lt {low high : Date} (hlow : InCalendar low) (hhigh : InCalendar high) :
    daysBetween low high < 2 ^ 63 := by
  have hlowBounds := hlow.bounds
  have hhighBounds := hhigh.bounds
  unfold daysBetween
  omega

/-- Between days of the calendar, the workdays are counted without overflow, and so few that their
number can change its sign. -/
theorem count_workdays_eq {start finish : Date} (hstart : InCalendar start)
    (hfinish : InCalendar finish) :
    countWorkdays weekend free start finish =
        .ok (Calendar.countWorkdays weekend free start finish) ∧
      0 ≤ (Calendar.countWorkdays weekend free start finish).workdays ∧
      (Calendar.countWorkdays weekend free start finish).workdays < 2 ^ 63 := by
  have hcounted : ∀ low high : Date, InCalendar low → InCalendar high →
      countFrom weekend free (daysBetween low high) low 0 =
          .ok (Calendar.countFrom weekend free (daysBetween low high) low 0) ∧
        Calendar.countFrom weekend free (daysBetween low high) low 0 < 2 ^ 63 := by
    intro low high hlow hhigh
    have hdays := days_between_lt hlow hhigh
    have hle := count_from_le weekend free (daysBetween low high) low 0
    exact ⟨count_from_eq weekend free _ low (by omega), by omega⟩
  unfold countWorkdays Calendar.countWorkdays
  -- the days are counted from the earlier date, whichever that is
  by_cases hless : finish.number < start.number
  · obtain ⟨heq, hlimit⟩ := hcounted finish start hfinish hstart
    simp only [if_pos hless, heq]
    exact ⟨rfl, Int.natCast_nonneg _, by exact_mod_cast hlimit⟩
  · obtain ⟨heq, hlimit⟩ := hcounted start finish hstart hfinish
    simp only [if_neg hless, heq]
    exact ⟨rfl, Int.natCast_nonneg _, by exact_mod_cast hlimit⟩

end Walk

/-- The function `WORKDAY`, with or without a weekend of its own, follows the plain function. -/
theorem workday_away_follows (weekend : Weekend) (holidayIndex : Nat) :
    Follows Never (workdayAway weekend holidayIndex context operands)
      (Builtin.workdayAway weekend holidayIndex context operands) := by
  refine .bind (date_at_follows context operands 0) fun start hstart =>
    .bind (.same _) fun count _ => .bind (holidays_follows context operands _) fun free _ =>
      .step (advance_eq _ _ _ _) ?_
  cases hadvance : Calendar.advance weekend free start count with
  | none => exact .throw _
  | some found =>
      exact serial_value_follows _
        (advance_in_calendar _ _ (date_at_in_calendar context operands hstart) hadvance)

/-- The function `NETWORKDAYS`, with or without a weekend of its own, follows the plain function. -/
theorem workdays_between_follows (weekend : Weekend) (holidayIndex : Nat) :
    Follows Never (workdaysBetween weekend holidayIndex context operands)
      (Builtin.workdaysBetween weekend holidayIndex context operands) := by
  refine .bind (date_at_follows context operands 0) fun start hstart =>
    .bind (date_at_follows context operands 1) fun finish hfinish =>
      .bind (holidays_follows context operands _) fun free _ => ?_
  obtain ⟨hcount, hleast, hmost⟩ := count_workdays_eq weekend free
    (date_at_in_calendar context operands hstart) (date_at_in_calendar context operands hfinish)
  refine .step hcount ?_
  dsimp only
  cases (Calendar.countWorkdays weekend free start finish).direction with
  | forward => exact .pure _
  | backward => exact .step (signed_eq (by omega) (by omega)) (.pure _)

/-- The function `WORKDAY.INTL` follows the plain function. -/
theorem workday_in_follows :
    Follows Never (workdayIn context operands) (Builtin.workdayIn context operands) :=
  .bind (weekend_at_follows operands 2) fun _ _ => workday_away_follows context operands _ _

/-- The function `NETWORKDAYS.INTL` follows the plain function. -/
theorem networkdays_in_follows :
    Follows Never (networkdaysIn context operands) (Builtin.networkdaysIn context operands) :=
  .bind (weekend_at_follows operands 2) fun _ _ =>
    workdays_between_follows context operands _ _

end Functions

end Spreadsheet.Machine
