/-!
# Dates

A date is a day of the proleptic Gregorian calendar, counted from 1 January of the year zero.
Years, months and days of the month are read off the count: a year begins on the day
`daysBeforeYear`, and a month inside it on the day `daysBeforeMonth`.
-/

namespace Spreadsheet.Calendar

/-- A day of the calendar. -/
structure Date where
  /-- Days since 1 January of the year zero. -/
  number : Int
  deriving DecidableEq, Repr, Inhabited

/-- Every fourth year is a leap year, but of the full centuries only every fourth. -/
def isLeap (year : Int) : Bool := year % 4 == 0 && (year % 100 != 0 || year % 400 == 0)

/-- The days from the year zero to the beginning of a year; negative for earlier years. -/
def daysBeforeYear (year : Int) : Int :=
  365 * year + (year + 3) / 4 - (year + 99) / 100 + (year + 399) / 400

/-- The days of a year before a month; the thirteenth month is the end of the year. -/
def daysBeforeMonth (leap : Bool) (month : Nat) : Nat :=
  let common := [0, 0, 31, 59, 90, 120, 151, 181, 212, 243, 273, 304, 334, 365].getD month 365
  if leap && 2 < month then common + 1 else common

/-- The length of a month. -/
def daysInMonth (leap : Bool) (month : Nat) : Nat :=
  daysBeforeMonth leap (month + 1) - daysBeforeMonth leap month

/-- The first year of the calendar. -/
def firstYear : Int := -262143

/-- The last year of the calendar. -/
def lastYear : Int := 262142

namespace Date

/-- The date of a year, a month and a day that fit together. -/
def ofParts (year : Int) (month day : Nat) : Date :=
  ⟨daysBeforeYear year + daysBeforeMonth (isLeap year) month + (day - 1 : Int)⟩

/-- The date of a year, a month from one to twelve and a day of that month, inside the calendar. -/
def ofParts? (year : Int) (month day : Nat) : Option Date :=
  if firstYear ≤ year ∧ year ≤ lastYear ∧ 1 ≤ month ∧ month ≤ 12 ∧
      1 ≤ day ∧ day ≤ daysInMonth (isLeap year) month then
    some (ofParts year month day)
  else none

/-- The first day of the calendar. -/
def earliest : Date := ⟨daysBeforeYear firstYear⟩

/-- The last day of the calendar. -/
def latest : Date := ⟨daysBeforeYear (lastYear + 1) - 1⟩

/-- The year of a date: 400 years have 146097 days, which finds it up to one year. -/
def year (date : Date) : Int :=
  let estimate := date.number * 400 / 146097
  if date.number < daysBeforeYear estimate then estimate - 1
  else if daysBeforeYear (estimate + 1) ≤ date.number then estimate + 1
  else estimate

/-- The days between the beginning of the year and a date. -/
def dayOfYear (date : Date) : Nat := (date.number - daysBeforeYear date.year).toNat

/-- The month of a date, the last one that has begun. -/
def month (date : Date) : Nat :=
  ([12, 11, 10, 9, 8, 7, 6, 5, 4, 3, 2].find? fun month =>
    daysBeforeMonth (isLeap date.year) month ≤ date.dayOfYear).getD 1

/-- The day of the month of a date, from one. -/
def day (date : Date) : Nat := date.dayOfYear - daysBeforeMonth (isLeap date.year) date.month + 1

/-- The date a number of days later, inside the calendar. -/
def addDays (date : Date) (days : Int) : Option Date :=
  let moved : Date := ⟨date.number + days⟩
  if earliest.number ≤ moved.number ∧ moved.number ≤ latest.number then some moved else none

/-- The day of the week, from Monday; the year zero began on a Saturday. -/
def weekday (date : Date) : Fin 7 := ⟨((date.number + 5) % 7).toNat, by omega⟩

end Date

end Spreadsheet.Calendar
