import Spreadsheet.Builtin.Workdays
import Spreadsheet.Proofs.Calendar.Serials
import Spreadsheet.Proofs.Calendar.Workdays

/-!
# Weekdays and weekends

`WEEKDAY` counts the days of the week along the serials, the workday functions ask the calendar. In
the 1900 system the week of the serials runs through the phantom day, so before it both are a day
apart, and from there on they agree. This is the main theorem, `weekday_agrees`.
-/

namespace Spreadsheet.Builtin

open Calendar (Date DateSystem Weekend countWorkdays isWorkday)

/-- `WEEKDAY` gives this number for a serial, counted from Monday as one. -/
def Reports (context : Context) (serial : Float) (number : Int) : Prop :=
  weekday context [.number serial, ofInteger 2] = .ok (ofInteger number)

/-- A serial before the phantom day. -/
def IsEarly (system : DateSystem) (serial : Int) : Prop :=
  system = .from1900 ∧ serial < DateSystem.phantomSerial

section Weekdays

variable {context : Context} {system : DateSystem} {serial : Float} {date : Date}
  {weekend : Weekend} {operands : List Value} {first second : Int} {index : Nat}

/-- Small integers are different values. -/
theorem of_integer_inj (hfirst : first.natAbs < 2 * Number.hiddenBit)
    (hsecond : second.natAbs < 2 * Number.hiddenBit) :
    (.ok (ofInteger first) : Result) = .ok (ofInteger second) ↔ first = second := by
  refine ⟨fun same => ?_, fun same => by rw [same]⟩
  have amounts : Float.ofInt first = Float.ofInt second := by
    simpa [ofInteger] using same
  rw [← Number.whole_part_of_int hfirst, amounts, Number.whole_part_of_int hsecond]

/-- A serial with a date is finite, and without its fraction it is the serial of that date. -/
theorem whole_of_date (h : system.dateOf serial = some date) :
    Number.isFinite serial = true ∧ system.IsSerial (system.serialOf date) ∧
      Number.wholePart (Number.floor serial) = system.serialOf date := by
  unfold DateSystem.dateOf at h
  obtain ⟨finite, found⟩ := Option.ite_none_right_eq_some.mp h
  obtain ⟨inside, same⟩ := Calendar.date_of_whole_eq_some_iff.mp found
  exact ⟨finite, same ▸ inside, same.symm⟩

/-- The function `WEEKDAY`, asked to count from Monday, counts the serial of the date on from the
shift of its system. -/
theorem weekday_eq (h : context.dateSystem.dateOf serial = some date) :
    weekday context [.number serial, ofInteger 2] = .ok (ofInteger
      ((context.dateSystem.serialOf date + weekShift context.dateSystem + 6) % 7 + 1)) := by
  obtain ⟨finite, inside, whole⟩ := whole_of_date h
  obtain ⟨least, most⟩ := Calendar.serial_bounds inside
  have numbering : integer [.number serial, ofInteger 2] 1 = .ok 2 :=
    congrArg Except.ok (Number.whole_part_of_int (by decide))
  have notBeyond : (!Number.isFinite serial || Number.wholePart (Number.floor serial) < 0 ||
      context.dateSystem.maxSerial < Number.wholePart (Number.floor serial)) = false := by
    rw [finite, whole, decide_eq_false (Int.not_lt.mpr least),
      decide_eq_false (Int.not_lt.mpr most)]
    rfl
  show (do
    if !Number.isFinite serial || Number.wholePart (Number.floor serial) < 0 ||
      context.dateSystem.maxSerial < Number.wholePart (Number.floor serial) then throw .number
    let numbering ← integer [.number serial, ofInteger 2] 1
    return ofInteger (← weekdayNumber ((Number.wholePart (Number.floor serial) +
      weekShift context.dateSystem + 6) % 7) numbering) : Result) = _
  rw [notBeyond, numbering, whole]
  rfl

/-- On one day there is one workday or none. -/
theorem count_workdays_single (weekend : Weekend) (h : date.number ≤ Calendar.lastDay.number) :
    (countWorkdays weekend [] date date).direction = .forward ∧
      (countWorkdays weekend [] date date).workdays =
        if weekend.isOff date.weekday then 0 else 1 := by
  refine ⟨?_, ?_⟩
  · unfold countWorkdays
    rw [if_neg (Int.lt_irrefl _)]
  · have alone : Calendar.daysBetween date date = [date] := by
      have length : (date.number + 1 - date.number).toNat = 1 := by omega
      rw [Calendar.daysBetween, length]
      simp [Calendar.dayTowards]
    rw [(Calendar.count_workdays_eq (Int.le_refl _) h).1, alone, List.countP_singleton]
    cases off : weekend.isOff date.weekday <;> simp [isWorkday, off]

/-- An operand that is the serial of a date is read as that date. -/
theorem date_at_eq (hnumber : number operands index = .ok serial)
    (h : context.dateSystem.dateOf serial = some date) :
    dateAt context operands index = .ok date := by
  rw [dateAt, hnumber]
  dsimp only [bind, Except.bind]
  rw [h]
  rfl

/-- Counting the workdays of one day gives zero if it is a day off. -/
theorem workdays_between_single (h : context.dateSystem.dateOf serial = some date)
    (hfirst : number operands 0 = .ok serial) (hsecond : number operands 1 = .ok serial)
    (hfree : holidays context operands index = .ok []) :
    workdaysBetween weekend index context operands = .ok (ofInteger 0) ↔
      weekend.isOff date.weekday := by
  obtain ⟨-, inside, -⟩ := whole_of_date h
  obtain ⟨forward, workdays⟩ := count_workdays_single weekend
    (Calendar.is_serial_serial_of_iff.mp inside).2
  have counted : workdaysBetween weekend index context operands =
      .ok (ofInteger (if weekend.isOff date.weekday then 0 else 1)) := by
    rw [workdaysBetween, date_at_eq hfirst h, date_at_eq hsecond h, hfree]
    dsimp only [bind, Except.bind]
    rw [forward, workdays]
    rfl
  rw [counted, of_integer_inj (by split <;> decide) (by decide)]
  cases weekend.isOff date.weekday <;> decide

/-- The day of the week of a serial, from Monday. -/
def weekdayOfSerial (system : DateSystem) (serial : Int) : Fin 7 :=
  ⟨((serial + weekShift system + 6) % 7).toNat, by omega⟩

/-- The functions report a weekday exactly if it is the one the serial gives. -/
theorem reports_iff (h : context.dateSystem.dateOf serial = some date) (weekday : Fin 7) :
    Reports context serial (weekday.val + 1) ↔
      weekday = weekdayOfSerial context.dateSystem (context.dateSystem.serialOf date) := by
  unfold Reports weekdayOfSerial
  rw [weekday_eq h, of_integer_inj (by unfold Number.hiddenBit; omega)
    (by unfold Number.hiddenBit; omega), Fin.ext_iff]
  dsimp only
  omega

/-- From the phantom day on, and in the 1904 system, it is the weekday of the date. -/
theorem weekday_of_late (h : ¬IsEarly system (system.serialOf date)) :
    date.weekday = weekdayOfSerial system (system.serialOf date) := by
  apply Fin.ext
  unfold weekdayOfSerial weekShift Date.weekday
  cases system with
  | from1900 =>
      have late : 60 ≤ DateSystem.from1900.serialOf date := Int.not_lt.mp fun less => h ⟨rfl, less⟩
      rw [Calendar.serial_from1900] at late ⊢
      split at late
      · rw [if_pos ‹_›]
        dsimp only
        omega
      · omega
  | from1904 =>
      rw [Calendar.serial_from1904]
      dsimp only
      omega

/-- Before the phantom day the week of the serials is a day behind that of the calendar. -/
theorem weekday_of_early (h : IsEarly system (system.serialOf date)) :
    date.weekday = weekdayOfSerial system (system.serialOf date) + 1 := by
  obtain ⟨rfl, before⟩ := h
  apply Fin.ext
  unfold weekdayOfSerial weekShift Date.weekday
  rw [Fin.val_add]
  unfold DateSystem.phantomSerial at before
  rw [Calendar.serial_from1900] at before ⊢
  split at before
  · omega
  · rw [if_neg ‹_›]
    dsimp only
    omega

/-- The code of a weekend is read as that weekend. -/
theorem weekend_at_code {code : Int} (h : Weekend.ofCode code = some weekend)
    (start finish : Value) : weekendAt [start, finish, ofInteger code] 2 = .ok weekend := by
  have small : code.natAbs < 2 * Number.hiddenBit := by
    unfold Weekend.ofCode at h
    unfold Number.hiddenBit
    split at h
    · omega
    · split at h
      · omega
      · cases h
  have third : (operand [start, finish, ofInteger code] 2).scalar =
      .number (Float.ofInt code) := rfl
  have read : (Value.number (Float.ofInt code)).toNumber = .ok (Float.ofInt code) := rfl
  unfold weekendAt
  rw [third]
  dsimp only
  rw [read]
  dsimp only [bind, Except.bind]
  rw [Number.whole_part_of_int small, h]
  rfl

/-- A single day has no workday in it, for `NETWORKDAYS`, exactly if it is a Saturday
or a Sunday. -/
theorem networkdays_single (h : context.dateSystem.dateOf serial = some date) :
    networkdays context [.number serial, .number serial] = .ok (ofInteger 0) ↔
      date.weekday = 5 ∨ date.weekday = 6 := by
  rw [networkdays, workdays_between_single h rfl rfl rfl, Weekend.usual, Bool.or_eq_true,
    beq_iff_eq, beq_iff_eq]

/-- A single day has no workday in it, for `NETWORKDAYS.INTL`, exactly if the weekend
takes it off. -/
theorem networkdays_in_single {code : Int} (h : context.dateSystem.dateOf serial = some date)
    (coded : Weekend.ofCode code = some weekend) :
    networkdaysIn context [.number serial, .number serial, ofInteger code] = .ok (ofInteger 0) ↔
      weekend.isOff date.weekday := by
  rw [networkdaysIn, weekend_at_code coded]
  exact workdays_between_single h rfl rfl rfl

end Weekdays

/-! ## The law -/

/-- A serial with a date has exactly one weekday. It is the sixth or the seventh exactly if there is
no workday from the serial to itself, and it is one of the days off of a weekend code exactly if
there is none with that code. Before the phantom day of the 1900 system both hold of the next
weekday instead. -/
theorem weekday_agrees (context : Context) {serial : Float} {date : Date}
    (h : context.dateSystem.dateOf serial = some date) :
    let early := IsEarly context.dateSystem (context.dateSystem.serialOf date)
    (∃! weekday : Fin 7, Reports context serial (weekday.val + 1)) ∧
    (¬early →
      (Reports context serial 6 ∨ Reports context serial 7 ↔
        networkdays context [.number serial, .number serial] = .ok (ofInteger 0)) ∧
      ∀ code weekend, Weekend.ofCode code = some weekend →
        (networkdaysIn context [.number serial, .number serial, ofInteger code] =
            .ok (ofInteger 0) ↔
          ∃ weekday : Fin 7, Reports context serial (weekday.val + 1) ∧ weekend.isOff weekday)) ∧
    (early →
      (Reports context serial 5 ∨ Reports context serial 6 ↔
        networkdays context [.number serial, .number serial] = .ok (ofInteger 0)) ∧
      ∀ code weekend, Weekend.ofCode code = some weekend →
        (networkdaysIn context [.number serial, .number serial, ofInteger code] =
            .ok (ofInteger 0) ↔
          ∃ weekday : Fin 7, Reports context serial (weekday.val + 1) ∧
            weekend.isOff (weekday + 1))) := by
  intro early
  have friday : Reports context serial 5 ↔ _ := reports_iff h 4
  have saturday : Reports context serial 6 ↔ _ := reports_iff h 5
  have sunday : Reports context serial 7 ↔ _ := reports_iff h 6
  refine ⟨⟨_, (reports_iff h _).mpr rfl, fun weekday => (reports_iff h weekday).mp⟩,
    fun late => ⟨?_, fun code weekend coded => ?_⟩,
    fun before => ⟨?_, fun code weekend coded => ?_⟩⟩
  · rw [networkdays_single h, weekday_of_late late, saturday, sunday]
    exact or_congr eq_comm eq_comm
  · rw [networkdays_in_single h coded, weekday_of_late late]
    simp only [reports_iff h, exists_eq_left]
  · have next : ∀ weekday : Fin 7,
        4 = weekday ∨ 5 = weekday ↔ weekday + 1 = 5 ∨ weekday + 1 = 6 := by decide
    rw [networkdays_single h, weekday_of_early before, friday, saturday]
    exact next _
  · rw [networkdays_in_single h coded, weekday_of_early before]
    simp only [reports_iff h, exists_eq_left]

/-- The Saturdays before and after the phantom day are both free, but only the later one is reported
as one. -/
theorem weekday_agrees_around_phantom_day :
    let context := Context.bare default
    context.dateSystem.dateOf 55.5 = some (Date.ofParts 1900 2 24) ∧
      Reports context 55.5 5 ∧
      networkdays context [.number 55.5, .number 55.5] = .ok (ofInteger 0) ∧
      context.dateSystem.dateOf 63 = some (Date.ofParts 1900 3 3) ∧
      Reports context 63 6 ∧
      networkdays context [.number 63, .number 63] = .ok (ofInteger 0) := by
  intro context
  have earlier : context.dateSystem.dateOf 55.5 = some (Date.ofParts 1900 2 24) := by decide +kernel
  have later : context.dateSystem.dateOf 63 = some (Date.ofParts 1900 3 3) := by decide +kernel
  have friday : Reports context 55.5 5 := (reports_iff earlier 4).mpr (by decide)
  have saturday : Reports context 63 6 := (reports_iff later 5).mpr (by decide)
  have before : IsEarly context.dateSystem
      (context.dateSystem.serialOf (Date.ofParts 1900 2 24)) := ⟨rfl, by decide⟩
  have late : ¬IsEarly context.dateSystem
      (context.dateSystem.serialOf (Date.ofParts 1900 3 3)) :=
    fun ⟨_, less⟩ => absurd less (by decide)
  exact ⟨earlier, friday, ((weekday_agrees context earlier).2.2 before).1.mp (Or.inl friday),
    later, saturday, ((weekday_agrees context later).2.1 late).1.mp (Or.inl saturday)⟩

/-- Serial 1 of the 1900 system is reported as a Sunday, but it is worked, also where only Sundays
are free: 1 January 1900 was a Monday. -/
theorem weekday_behind_calendar :
    let context := Context.bare default
    let sundays : Weekend := ⟨fun weekday => (weekday.val - (11 - 12) : Int) % 7 == 0⟩
    context.dateSystem.dateOf 1 = some (Date.ofParts 1900 1 1) ∧
      ¬(Reports context 1 6 ∨ Reports context 1 7 ↔
        networkdays context [.number 1, .number 1] = .ok (ofInteger 0)) ∧
      Weekend.ofCode 11 = some sundays ∧
      ¬(networkdaysIn context [.number 1, .number 1, ofInteger 11] = .ok (ofInteger 0) ↔
        ∃ weekday : Fin 7, Reports context 1 (weekday.val + 1) ∧ sundays.isOff weekday) := by
  intro context sundays
  have first : context.dateSystem.dateOf 1 = some (Date.ofParts 1900 1 1) := by decide +kernel
  have sunday : Reports context 1 7 := (reports_iff first 6).mpr (by decide)
  have coded : Weekend.ofCode 11 = some sundays := rfl
  refine ⟨first, fun agree => ?_, coded, fun agree => ?_⟩
  · have free := (networkdays_single first).mp (agree.mp (Or.inr sunday))
    exact absurd free (by decide)
  · have free := (networkdays_in_single first coded).mp (agree.mpr ⟨6, sunday, by decide⟩)
    exact absurd free (by decide)

end Spreadsheet.Builtin
