import Spreadsheet.Calendar.Date

/-!
# Workdays

A workday is a day that is neither a day off of the week nor a holiday. `advance` finds the
workday a given number of workdays away, and `countWorkdays` counts the workdays of an interval.
Both look at one day after the other.
-/

namespace Spreadsheet.Calendar

/-- The days of the week that are not worked. -/
structure Weekend where
  isOff : Fin 7 → Bool

namespace Weekend

/-- Saturday and Sunday. -/
def usual : Weekend := ⟨fun weekday => weekday == 5 || weekday == 6⟩

instance : Inhabited Weekend := ⟨usual⟩

/-- Codes 1 to 7 are two days in a row, the first of them Saturday, Sunday, and so on to Friday;
codes 11 to 17 are single days, from Sunday to Saturday. -/
def ofCode (code : Int) : Option Weekend :=
  if 1 ≤ code ∧ code ≤ 7 then
    some ⟨fun weekday => (weekday.val - (code + 4)) % 7 == 0 || (weekday.val - (code + 5)) % 7 == 0⟩
  else if 11 ≤ code ∧ code ≤ 17 then some ⟨fun weekday => (weekday.val - (code - 12)) % 7 == 0⟩
  else none

/-- Seven digits from Monday on, `1` for a day off. A week must leave a day to work. -/
def ofMask (mask : String) : Option Weekend :=
  let flags := mask.toList
  if flags.length = 7 ∧ flags.all (fun flag => flag == '0' || flag == '1') ∧ flags.contains '0' then
    some ⟨fun weekday => flags[weekday.val]? == some '1'⟩
  else none

/-- The flags of the week, from Monday on. -/
def flags (weekend : Weekend) : List Bool := (List.finRange 7).map weekend.isOff

end Weekend

/-- The way along the calendar. -/
inductive Direction where
  | forward
  | backward
  deriving DecidableEq, Repr

/-- The neighbour of a date. -/
def Direction.next (direction : Direction) (date : Date) : Date :=
  match direction with
  | forward => ⟨date.number + 1⟩
  | backward => ⟨date.number - 1⟩

/-- The first day that every date system can express. -/
def firstDay : Date := Date.ofParts 1900 1 1

/-- The last day that date systems can express. -/
def lastDay : Date := Date.ofParts 9999 12 31

/-- Days between the first and the last day can be reached. -/
def inRange (date : Date) : Bool := firstDay.number ≤ date.number && date.number ≤ lastDay.number

/-- What a workday calculation finds. -/
structure WorkdayCount where
  workdays : Int
  start : Date
  finish : Date
  direction : Direction
  deriving DecidableEq, Repr

/-- A day is worked unless it is a day off or a holiday. -/
def isWorkday (weekend : Weekend) (holidays : List Date) (date : Date) : Bool :=
  !weekend.isOff date.weekday && !holidays.contains date

/-- Walks day by day until the given number of workdays has passed; each day takes one unit of
`room`. -/
def walk (weekend : Weekend) (holidays : List Date) (direction : Direction) :
    (room remaining : Nat) → Date → Option Date
  | _, 0, date => some date
  | 0, _ + 1, _ => none
  | room + 1, remaining + 1, date =>
    let next := direction.next date
    if !inRange next then none
    else if isWorkday weekend holidays next then walk weekend holidays direction room remaining next
    else walk weekend holidays direction room (remaining + 1) next

/-- The workday that lies a number of workdays after the start, or before it if the number is
negative. A start beyond the end towards which it looks has none, and no walk leaves the range. -/
def advance (weekend : Weekend) (holidays : List Date) (start : Date) (workdays : Int) :
    Option WorkdayCount :=
  let direction := if workdays < 0 then Direction.backward else .forward
  let room : Int := match direction with
    | .forward => lastDay.number - start.number
    | .backward => start.number - firstDay.number
  if room < 0 ∨ room < workdays.natAbs then none
  else
    (walk weekend holidays direction room.toNat workdays.natAbs start).map fun finish =>
      ⟨workdays.natAbs, start, finish, direction⟩

/-- Adds to `count` the workdays among the next `days` days, the date itself among them. -/
def countFrom (weekend : Weekend) (holidays : List Date) : (days : Nat) → Date → (count : Nat) → Nat
  | 0, _, count => count
  | days + 1, date, count =>
    countFrom weekend holidays days (Direction.forward.next date)
      (if isWorkday weekend holidays date then count + 1 else count)

/-- The workdays between two dates, both included. The direction tells which of them is earlier. The
last day of the calendar, which no day follows, is not counted. -/
def countWorkdays (weekend : Weekend) (holidays : List Date) (start finish : Date) : WorkdayCount :=
  let (low, high, direction) :=
    if finish.number < start.number then (finish, start, Direction.backward)
    else (start, finish, Direction.forward)
  let days := (min (high.number + 1) Date.latest.number - low.number).toNat
  ⟨countFrom weekend holidays days low 0, start, finish, direction⟩

end Spreadsheet.Calendar
