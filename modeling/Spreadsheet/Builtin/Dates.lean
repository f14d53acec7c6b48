import Spreadsheet.Builtin.Operands
import Spreadsheet.Evaluation.Context

/-!
# Dates

Functions between serial numbers and years, months, days and weekdays. In the 1900 system two
serials have parts but no date: serial 0 reads as the day before 1 January 1900 and serial 60 as
29 February 1900.
-/

namespace Spreadsheet.Builtin

open Calendar (Date DateSystem)

/-- The date of the serial at an index. -/
def dateAt (context : Context) (operands : List Value) (index : Nat) : Except ErrorValue Date := do
  let serial ← number operands index
  match context.dateSystem.dateOf serial with
  | some date => return date
  | none => throw .number

/-- The serial of a date, from zero to the last one. -/
def serialValue (system : DateSystem) (date : Date) : Result :=
  let serial := system.serialOf date
  if 0 ≤ serial ∧ serial ≤ system.maxSerial then .ok (ofInteger serial) else .error .number

/-- The last year of dates in cells. -/
def lastCellYear : Int := 9999

/-- The century that short years belong to. -/
def baseYear : Int := 1900

/-- The first day of a month that is counted on from January of a year. -/
def monthStart (year month : Int) : Option Date :=
  let months := year * 12 + (month - 1)
  Date.ofParts? (months / 12) ((months % 12).toNat + 1) 1

/-- `DATE(year, month, day)`: years before 1900 count from 1900, and months and days beyond their
year and month roll over. -/
def date (context : Context) (operands : List Value) : Result := do
  let year ← integer operands 0
  let month ← integer operands 1
  let day ← integer operands 2
  let year := if 0 ≤ year ∧ year < baseYear then year + baseYear else year
  if year < 0 ∨ lastCellYear < year then throw .number
  match (monthStart year month).bind fun first => first.addDays (day - 1) with
  | some date => serialValue context.dateSystem date
  | none => throw .number

/-- The year, the month and the day of a serial. -/
def datePartsOf (system : DateSystem) (serial : Float) : Option (Int × Nat × Nat) :=
  if !Number.isFinite serial then none
  else match system, Number.wholePart (Number.floor serial) with
    | .from1900, 0 => some (1900, 1, 0)
    | .from1900, 60 => some (1900, 2, 29)
    | system, _ => (system.dateOf serial).map fun date => (date.year, date.month, date.day)

/-- One part of the date of a serial. -/
def datePart (pick : Int × Nat × Nat → Int) (context : Context) (operands : List Value) :
    Result := do
  match datePartsOf context.dateSystem (← number operands 0) with
  | some parts => return ofInteger (pick parts)
  | none => throw .number

/-- `YEAR(serial)` -/
def year : Context → List Value → Result := datePart fun parts => parts.1

/-- `MONTH(serial)` -/
def month : Context → List Value → Result := datePart fun parts => parts.2.1

/-- `DAY(serial)` -/
def day : Context → List Value → Result := datePart fun parts => parts.2.2

/-- The days that the week of serial zero was old, counted from Sunday: a Saturday in the 1900
system, a Friday in the 1904 system. -/
def weekShift : DateSystem → Int
  | .from1900 => 6
  | .from1904 => 5

/-- The number of a weekday, given from Monday as zero: type 1 counts from Sunday as one, type 2
from Monday as one, type 3 from Monday as zero, and types 11 to 17 from Monday to Sunday as one. -/
def weekdayNumber (fromMonday numbering : Int) : Except ErrorValue Int :=
  if numbering = 1 then .ok ((fromMonday + 1) % 7 + 1)
  else if numbering = 2 then .ok (fromMonday + 1)
  else if numbering = 3 then .ok fromMonday
  else if 11 ≤ numbering ∧ numbering ≤ 17 then .ok ((fromMonday - (numbering - 11)) % 7 + 1)
  else .error .number

/-- `WEEKDAY(serial, numbering)`: numbering 1 if it is left out. -/
def weekday (context : Context) (operands : List Value) : Result := do
  let serial ← number operands 0
  let whole := Number.wholePart (Number.floor serial)
  if !Number.isFinite serial || whole < 0 || context.dateSystem.maxSerial < whole then throw .number
  let numbering ← if operands.length ≤ 1 then pure 1 else integer operands 1
  return ofInteger (← weekdayNumber ((whole + weekShift context.dateSystem + 6) % 7) numbering)

/-- `TODAY()` -/
def today (context : Context) (_ : List Value) : Result :=
  serialValue context.dateSystem context.moment.date

/-- The seconds of a day. -/
def secondsPerDay : Nat := 86400

/-- `NOW()`: the serial of today and the part of the day that has passed. -/
def now (context : Context) (_ : List Value) : Result :=
  .ok (.number (Float.ofInt (context.dateSystem.serialOf context.moment.date) +
    Float.ofNat context.moment.second / Float.ofNat secondsPerDay))

end Spreadsheet.Builtin
