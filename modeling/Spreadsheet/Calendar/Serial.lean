import Spreadsheet.Calendar.Date
import Spreadsheet.Number.Binary

/-!
# Serial numbers of dates

Cells store dates as day counts. In the 1900 system 1 January 1900 has serial 1, and serial 60
belongs to 29 February 1900, a day that never was; later serials are one ahead of the count of
days. In the 1904 system 1 January 1904 has serial 0. Both end with 31 December 9999.
-/

namespace Spreadsheet.Calendar

/-- Where serial numbers start. -/
inductive DateSystem where
  | from1900
  | from1904
  deriving DecidableEq, Repr, Inhabited

namespace DateSystem

/-- The serial of the day that never was. -/
def phantomSerial : Int := 60

/-- The date that has, or would have, serial zero. -/
def epoch : DateSystem → Date
  | from1900 => Date.ofParts 1899 12 31
  | from1904 => Date.ofParts 1904 1 1

/-- The serial of 31 December 9999. -/
def maxSerial : DateSystem → Int
  | from1900 => 2958465
  | from1904 => 2957003

/-- The serial of a date. -/
def serialOf (system : DateSystem) (date : Date) : Int :=
  let days := date.number - system.epoch.number
  match system with
  | from1900 => if phantomSerial ≤ days then days + 1 else days
  | from1904 => days

/-- The date of a whole serial, if it has one. -/
def dateOfWhole (system : DateSystem) (serial : Int) : Option Date :=
  if system.maxSerial < serial then none
  else match system with
    | from1900 =>
      if serial < 1 ∨ serial = phantomSerial then none
      else some ⟨system.epoch.number + (if phantomSerial < serial then serial - 1 else serial)⟩
    | from1904 => if serial < 0 then none else some ⟨system.epoch.number + serial⟩

/-- The date of a serial, without the time of day that its fraction is. -/
def dateOf (system : DateSystem) (serial : Float) : Option Date :=
  if Number.isFinite serial then system.dateOfWhole (Number.wholePart (Number.floor serial))
  else none

end DateSystem

end Spreadsheet.Calendar
