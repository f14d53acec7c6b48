import Spreadsheet.Builtin.Dates
import Spreadsheet.Calendar.Workday

/-!
# Workdays

Functions that step along workdays or count them. The usual weekend is Saturday and Sunday; the
international forms take a weekend by code or mask.
-/

namespace Spreadsheet.Builtin

open Calendar (Date Weekend)

/-- The date of one holiday; blanks are none. -/
def holiday (context : Context) : Value → Except ErrorValue (List Date)
  | .empty => .ok []
  | .number serial =>
    match context.dateSystem.dateOf serial with
    | some date => .ok [date]
    | none => .error .number
  | _ => .error .value

/-- The holidays in the operand at an index. An error value in it comes first. -/
def holidays (context : Context) (operands : List Value) (index : Nat) :
    Except ErrorValue (List Date) :=
  match operands[index]? with
  | none => .ok []
  | some value => do
    if let some fault := firstError [value] then throw fault
    return (← value.flatten.mapM (holiday context)).flatten

/-- The weekend in the operand at an index: a mask, a code, or the usual one. -/
def weekendAt (operands : List Value) (index : Nat) : Except ErrorValue Weekend :=
  match (operand operands index).scalar with
  | .empty => .ok .usual
  | .text mask => (Weekend.ofMask mask).elim (.error .value) .ok
  | .error fault => .error fault
  | other => do
    match Weekend.ofCode (Number.wholePart (← other.toNumber)) with
    | some weekend => return weekend
    | none => throw .number

/-- The workday some workdays away, with holidays at an index. -/
def workdayAway (weekend : Weekend) (holidayIndex : Nat) (context : Context)
    (operands : List Value) : Result := do
  let start ← dateAt context operands 0
  let count ← integer operands 1
  let free ← holidays context operands holidayIndex
  match Calendar.advance weekend free start count with
  | some found => serialValue context.dateSystem found.finish
  | none => throw .number

/-- The workdays between two dates, negative if the second is earlier, with holidays at an index. -/
def workdaysBetween (weekend : Weekend) (holidayIndex : Nat) (context : Context)
    (operands : List Value) : Result := do
  let start ← dateAt context operands 0
  let finish ← dateAt context operands 1
  let free ← holidays context operands holidayIndex
  let found := Calendar.countWorkdays weekend free start finish
  match found.direction with
  | .forward => return ofInteger found.workdays
  | .backward => return ofInteger (-found.workdays)

/-- `WORKDAY(start, count, holidays)` -/
def workday : Context → List Value → Result := workdayAway .usual 2

/-- `WORKDAY.INTL(start, count, weekend, holidays)` -/
def workdayIn (context : Context) (operands : List Value) : Result := do
  workdayAway (← weekendAt operands 2) 3 context operands

/-- `NETWORKDAYS(start, finish, holidays)` -/
def networkdays : Context → List Value → Result := workdaysBetween .usual 2

/-- `NETWORKDAYS.INTL(start, finish, weekend, holidays)` -/
def networkdaysIn (context : Context) (operands : List Value) : Result := do
  workdaysBetween (← weekendAt operands 2) 3 context operands

end Spreadsheet.Builtin
