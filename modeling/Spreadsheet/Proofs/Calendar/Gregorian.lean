import Spreadsheet.Calendar.Date

/-!
# Years, months and days

Every day of the calendar is one day of one month of one year: counting days and reading the count
back are inverse (`of_parts_parts`, `parts_of_parts`), and the days come in the order of their
years, months and days (`before_iff`).
-/

namespace Spreadsheet.Calendar

/-! ## Years -/

section Years

variable {date : Date} {year : Int}

/-- A leap year is divisible by four, but not by a hundred unless by four hundred. -/
theorem is_leap_iff : isLeap year = true ↔ year % 4 = 0 ∧ (year % 100 ≠ 0 ∨ year % 400 = 0) := by
  simp [isLeap]

/-- A month of 13 stands for the end of the year. -/
theorem days_before_next_year (year : Int) :
    daysBeforeYear (year + 1) = daysBeforeYear year + daysBeforeMonth (isLeap year) 13 := by
  by_cases leap : isLeap year = true
  · have length : daysBeforeMonth true 13 = 366 := rfl
    rw [leap, length]
    rw [is_leap_iff] at leap
    unfold daysBeforeYear
    omega
  · have length : daysBeforeMonth false 13 = 365 := rfl
    rw [Bool.not_eq_true] at leap
    rw [leap, length]
    rw [← Bool.not_eq_true, is_leap_iff] at leap
    unfold daysBeforeYear
    omega

/-- No more days lie before an earlier year than before a later one. -/
theorem days_before_year_mono {early late : Int} (h : early ≤ late) :
    daysBeforeYear early ≤ daysBeforeYear late := by
  unfold daysBeforeYear
  omega

/-- A date lies in its year. -/
theorem number_in_year (date : Date) :
    daysBeforeYear date.year ≤ date.number ∧ date.number < daysBeforeYear (date.year + 1) := by
  unfold Date.year
  dsimp only
  have near : 146097 * (date.number * 400 / 146097) ≤ date.number * 400 ∧
      date.number * 400 < 146097 * (date.number * 400 / 146097) + 146097 := by omega
  generalize date.number * 400 / 146097 = estimate at near
  unfold daysBeforeYear
  split
  · rw [Int.sub_add_cancel]
    omega
  · split <;> omega

/-- A date whose number lies in a year is a date of that year. -/
theorem year_eq (first : daysBeforeYear year ≤ date.number)
    (last : date.number < daysBeforeYear (year + 1)) : date.year = year := by
  obtain ⟨hfirst, hlast⟩ := number_in_year date
  have notBefore : ¬date.year + 1 ≤ year := fun late => by
    have := days_before_year_mono late
    omega
  have notAfter : ¬year + 1 ≤ date.year := fun early => by
    have := days_before_year_mono early
    omega
  omega

/-- The number of a date is made of the days before its year and those before it in the year. -/
theorem number_eq_of_day_of_year (date : Date) :
    date.number = daysBeforeYear date.year + date.dayOfYear := by
  have := number_in_year date
  unfold Date.dayOfYear
  omega

/-- No date lies behind the last day of its year. -/
theorem day_of_year_lt (date : Date) :
    date.dayOfYear < daysBeforeMonth (isLeap date.year) 13 := by
  have year := number_in_year date
  rw [days_before_next_year] at year
  unfold Date.dayOfYear
  omega

end Years

/-! ## Months -/

section Months

variable {date : Date} {leap : Bool} {month other : Nat}

/-- Fewer days of a year lie before an earlier month than before a later one. -/
theorem days_before_month_lt (first : 1 ≤ month) (less : month < other) (last : other ≤ 13) :
    daysBeforeMonth leap month < daysBeforeMonth leap other := by
  have all : ∀ leap, ∀ other < 14, ∀ month < other, 1 ≤ month →
      daysBeforeMonth leap month < daysBeforeMonth leap other := by decide
  exact all leap other (by omega) month less first

/-- A month has ended by the time a later one begins. -/
theorem days_before_next_month_le (leap : Bool) (less : month < other) (last : other ≤ 13) :
    daysBeforeMonth leap (month + 1) ≤ daysBeforeMonth leap other := by
  rcases Nat.eq_or_lt_of_le (Nat.succ_le_of_lt less) with next | later
  · exact Nat.le_of_eq (congrArg _ next)
  · exact Nat.le_of_lt (days_before_month_lt (Nat.succ_pos month) later last)

/-- Every month has a day. -/
theorem days_in_month_pos (first : 1 ≤ month) (last : month ≤ 12) :
    0 < daysInMonth leap month :=
  Nat.sub_pos_of_lt (days_before_month_lt first (Nat.lt_succ_self _) (Nat.succ_le_succ last))

/-- Looking for the last number of a row that has a property finds it, or gives the number before
the row if there is none. -/
theorem find_last (holds : Nat → Bool) (least count : Nat) :
    let found := ((List.range' (least + 1) count).reverse.find? holds).getD least
    (found = least ∨ least < found ∧ found ≤ least + count ∧ holds found) ∧
      ∀ later, found < later → later ≤ least + count → ¬holds later := by
  induction count with
  | zero => exact ⟨Or.inl rfl, fun later less more => absurd less (Nat.not_lt.mpr more)⟩
  | succ count ih =>
      rw [List.range'_concat, List.reverse_append, List.reverse_singleton, List.singleton_append,
        List.find?_cons]
      cases last : holds (least + 1 + 1 * count) with
      | true =>
          have place : least + 1 + 1 * count = least + (count + 1) := by omega
          rw [place] at last ⊢
          refine ⟨Or.inr ⟨?_, Nat.le_refl _, last⟩, fun later less more => ?_⟩
          · exact Nat.lt_add_of_pos_right (Nat.succ_pos count)
          · exact absurd less (Nat.not_lt.mpr more)
      | false =>
          dsimp only
          refine ⟨ih.1.imp_right fun ⟨more, less, held⟩ => ⟨more, by omega, held⟩, ?_⟩
          intro later less more
          by_cases final : later = least + 1 + 1 * count
          · rw [final, last]
            decide
          · exact ih.2 later less (by omega)

/-- A date lies in its month. -/
theorem day_in_month (date : Date) : (1 ≤ date.month ∧ date.month ≤ 12) ∧
    daysBeforeMonth (isLeap date.year) date.month ≤ date.dayOfYear ∧
    date.dayOfYear < daysBeforeMonth (isLeap date.year) (date.month + 1) := by
  have last := day_of_year_lt date
  have january : daysBeforeMonth (isLeap date.year) 1 = 0 := by
    cases isLeap date.year <;> rfl
  let begun (month : Nat) : Bool := daysBeforeMonth (isLeap date.year) month ≤ date.dayOfYear
  have found : date.month = ((List.range' (1 + 1) 11).reverse.find? begun).getD 1 := rfl
  obtain ⟨place, none⟩ := find_last begun 1 11
  rw [← found] at place none
  refine ⟨by omega, ?_, ?_⟩
  · rcases place with first | ⟨-, -, held⟩
    · rw [first, january]
      exact Nat.zero_le _
    · exact of_decide_eq_true held
  · by_cases december : date.month = 12
    · rw [december]
      exact last
    · have next := none (date.month + 1) (Nat.lt_succ_self _) (by omega)
      exact Nat.not_le.mp fun held => next (decide_eq_true held)

/-- A date whose day of the year lies in a month is a date of that month. -/
theorem month_eq (hmonth : 1 ≤ month ∧ month ≤ 12)
    (first : daysBeforeMonth (isLeap date.year) month ≤ date.dayOfYear)
    (last : date.dayOfYear < daysBeforeMonth (isLeap date.year) (month + 1)) :
    date.month = month := by
  obtain ⟨bounds, hfirst, hlast⟩ := day_in_month date
  rcases Nat.lt_trichotomy date.month month with less | same | more
  · have := days_before_next_month_le (isLeap date.year) less (by omega)
    omega
  · exact same
  · have := days_before_next_month_le (isLeap date.year) more (by omega)
    omega

end Months

/-! ## Days -/

/-- A month of the year and a day of that month. -/
structure IsDay (year : Int) (month day : Nat) : Prop where
  month_pos : 1 ≤ month
  month_le : month ≤ 12
  day_pos : 1 ≤ day
  day_le : day ≤ daysInMonth (isLeap year) month

section Days

variable {date early late : Date} {year : Int} {month day : Nat}

/-- What is read off a date is a day of the calendar, and the date is the date of that day. -/
theorem of_parts_parts (date : Date) :
    IsDay date.year date.month date.day ∧
      Date.ofParts date.year date.month date.day = date := by
  obtain ⟨⟨first, last⟩, begun, notOver⟩ := day_in_month date
  have number := number_eq_of_day_of_year date
  refine ⟨⟨first, last, ?_, ?_⟩, ?_⟩
  · exact Nat.succ_pos _
  · unfold Date.day daysInMonth
    omega
  · unfold Date.ofParts Date.day
    refine congrArg Date.mk ?_
    omega

/-- A day of the calendar is what is read off its date. -/
theorem parts_of_parts (h : IsDay year month day) :
    (Date.ofParts year month day).year = year ∧ (Date.ofParts year month day).month = month ∧
      (Date.ofParts year month day).day = day := by
  obtain ⟨first, last, pos, le⟩ := h
  have number : (Date.ofParts year month day).number =
      daysBeforeYear year + (daysBeforeMonth (isLeap year) month + (day - 1) : Nat) := by
    show daysBeforeYear year + daysBeforeMonth (isLeap year) month + (day - 1 : Int) = _
    omega
  have notOver : day - 1 + daysBeforeMonth (isLeap year) month <
      daysBeforeMonth (isLeap year) (month + 1) := by
    unfold daysInMonth at le
    omega
  have inYear : daysBeforeMonth (isLeap year) (month + 1) ≤ daysBeforeMonth (isLeap year) 13 :=
    days_before_next_month_le _ (Nat.lt_succ_of_le last) (Nat.le_refl 13)
  have hyear : (Date.ofParts year month day).year = year := by
    apply year_eq
    · omega
    · rw [days_before_next_year]
      omega
  have passed : (Date.ofParts year month day).dayOfYear =
      daysBeforeMonth (isLeap year) month + (day - 1) := by
    have := number_eq_of_day_of_year (Date.ofParts year month day)
    rw [hyear] at this
    omega
  have hmonth : (Date.ofParts year month day).month = month := by
    apply month_eq ⟨first, last⟩
    · rw [hyear, passed]
      omega
    · rw [hyear, passed]
      omega
  refine ⟨hyear, hmonth, ?_⟩
  rw [Date.day, hyear, hmonth, passed]
  omega

/-- Dates come in the order of their years, in a year in the order of their months, and in a month
in the order of their days. -/
def Date.Before (early late : Date) : Prop :=
  early.year < late.year ∨ early.year = late.year ∧
    (early.month < late.month ∨ early.month = late.month ∧ early.day < late.day)

instance (early late : Date) : Decidable (early.Before late) := inferInstanceAs (Decidable (_ ∨ _))

/-- An earlier date has a smaller number. -/
theorem number_lt_of_before (h : early.Before late) : early.number < late.number := by
  have hearly := number_eq_of_day_of_year early
  have hlate := number_eq_of_day_of_year late
  rcases h with year | ⟨year, rest⟩
  · exact Int.lt_of_lt_of_le (number_in_year early).2
      (Int.le_trans (days_before_year_mono (Int.add_one_le_of_lt year)) (number_in_year late).1)
  · obtain ⟨-, begun, notOver⟩ := day_in_month early
    obtain ⟨⟨-, last⟩, hbegun, -⟩ := day_in_month late
    rw [year] at hearly begun notOver
    rcases rest with month | ⟨month, day⟩
    · have := days_before_next_month_le (isLeap late.year) month (by omega)
      omega
    · unfold Date.day at day
      rw [year, month] at day
      omega

/-- The order of the days counted is the order of the calendar. -/
theorem before_iff : early.Before late ↔ early.number < late.number := by
  refine ⟨number_lt_of_before, fun less => Classical.byContradiction fun notBefore => ?_⟩
  have turned : late.Before early ∨ late.year = early.year ∧ late.month = early.month ∧
      late.day = early.day := by
    unfold Date.Before at *
    omega
  rcases turned with before | ⟨year, month, day⟩
  · exact Int.lt_asymm less (number_lt_of_before before)
  · have same : late = early := by
      rw [← (of_parts_parts late).2, ← (of_parts_parts early).2, year, month, day]
    rw [same] at less
    exact Int.lt_irrefl _ less

end Days

end Spreadsheet.Calendar
