import Spreadsheet.Calendar.Workday

/-!
# The workdays on one side of a date

The days on one side of a date, nearest first, end with the range that can be reached. The workdays
among them are what `advance` steps along: the main theorem, `advance_lands`, says that it finds the
day at the given place in their list, fails only where the list is too short, and that
`countWorkdays` counts as many workdays on the way there as were asked for.
-/

namespace Spreadsheet.Calendar

/-! ## Days on one side -/

/-- How many days lie between a date and the end of the range. -/
def roomTowards (direction : Direction) (start : Date) : Nat :=
  match direction with
  | .forward => (lastDay.number - start.number).toNat
  | .backward => (start.number - firstDay.number).toNat

/-- The day a number of days away. -/
def dayTowards (direction : Direction) (start : Date) (days : Nat) : Date :=
  match direction with
  | .forward => ⟨start.number + days⟩
  | .backward => ⟨start.number - days⟩

/-- The days after a date up to the end of the range, or before it down to its beginning, nearest
first. -/
def daysTowards (direction : Direction) (start : Date) : List Date :=
  (List.range (roomTowards direction start)).map fun steps => dayTowards direction start (steps + 1)

/-- The workdays among them. -/
def workdaysTowards (weekend : Weekend) (holidays : List Date) (direction : Direction)
    (start : Date) : List Date :=
  (daysTowards direction start).filter (isWorkday weekend holidays)

section Days

variable {direction : Direction} {start : Date}

/-- A date is in the range exactly if its number lies between those of the first and
the last day. -/
theorem in_range_iff : inRange start ↔
    firstDay.number ≤ start.number ∧ start.number ≤ lastDay.number := by
  rw [inRange, Bool.and_eq_true, decide_eq_true_eq, decide_eq_true_eq]

/-- There are as many days ahead of a date as there is room for. -/
theorem length_days_towards :
    (daysTowards direction start).length = roomTowards direction start := by
  rw [daysTowards, List.length_map, List.length_range]

/-- The day some steps and one more ahead lies those steps ahead of the next day. -/
theorem day_towards_succ (steps : Nat) :
    dayTowards direction start (steps + 1) = dayTowards direction (direction.next start) steps := by
  cases direction <;> simp only [dayTowards, Direction.next, Date.mk.injEq] <;> omega

/-- There is one step less room for the next day. -/
theorem room_towards_succ (hnext : inRange (direction.next start)) :
    roomTowards direction start = roomTowards direction (direction.next start) + 1 := by
  rw [in_range_iff] at hnext
  cases direction <;> simp only [roomTowards, Direction.next] at * <;> omega

/-- There is no room if the next day is out of range. -/
theorem room_towards_eq_zero (h : inRange start) (hnext : ¬inRange (direction.next start)) :
    roomTowards direction start = 0 := by
  rw [in_range_iff] at h hnext
  cases direction <;> simp only [roomTowards, Direction.next] at * <;> omega

/-- Unless the range ends, the days on one side are the neighbour and the days on its side. -/
theorem days_towards_eq (h : inRange start) :
    daysTowards direction start =
      if inRange (direction.next start) then
        direction.next start :: daysTowards direction (direction.next start)
      else [] := by
  unfold daysTowards
  split
  · rename_i hnext
    rw [room_towards_succ hnext, List.range_succ_eq_map, List.map_cons, List.map_map]
    have first : dayTowards direction start (0 + 1) = direction.next start := by
      cases direction <;> rfl
    rw [first]
    exact congrArg _ (List.map_congr_left fun steps _ => day_towards_succ (steps + 1))
  · rename_i hnext
    rw [room_towards_eq_zero h hnext]
    rfl

end Days

/-! ## Stepping along the workdays -/

section Walk

variable {weekend : Weekend} {holidays : List Date} {direction : Direction} {start : Date}

/-- The date itself, or the workday at a place in the list, counted from one. -/
def workdayTowards (weekend : Weekend) (holidays : List Date) (direction : Direction)
    (start : Date) : (count : Nat) → Option Date
  | 0 => some start
  | count + 1 => (workdaysTowards weekend holidays direction start)[count]?

/-- A walk that does not run out of room before the range ends finds the workday it looks for. -/
theorem walk_eq {room : Nat} (remaining : Nat) (h : inRange start)
    (enough : roomTowards direction start ≤ room) :
    walk weekend holidays direction room remaining start =
      workdayTowards weekend holidays direction start remaining := by
  induction room generalizing start remaining with
  | zero =>
      cases remaining with
      | zero => rfl
      | succ count =>
          have none : daysTowards direction start = [] := by
            rw [daysTowards, Nat.le_zero.mp enough]
            rfl
          rw [walk, workdayTowards, workdaysTowards, none]
          rfl
  | succ room ih =>
      cases remaining with
      | zero => rfl
      | succ count =>
          rw [walk, workdayTowards, workdaysTowards, days_towards_eq h]
          by_cases hnext : inRange (direction.next start)
          · have enough : roomTowards direction (direction.next start) ≤ room := by
              have := room_towards_succ hnext
              omega
            rw [if_neg (by simp [hnext]), if_pos hnext]
            by_cases worked : isWorkday weekend holidays (direction.next start)
            · rw [if_pos worked, List.filter_cons_of_pos worked, ih count hnext enough]
              cases count <;> rfl
            · rw [if_neg worked, List.filter_cons_of_neg worked, ih (count + 1) hnext enough]
              rfl
          · rw [if_pos (by simp [hnext]), if_neg hnext]
            rfl

/-- There is a workday some workdays ahead exactly if there are so many, or none is asked for. -/
theorem is_some_workday_towards {count : Nat} :
    (workdayTowards weekend holidays direction start count).isSome ↔
      count = 0 ∨ count ≤ (workdaysTowards weekend holidays direction start).length := by
  cases count with
  | zero => exact iff_of_true rfl (.inl rfl)
  | succ count =>
      rw [workdayTowards, isSome_getElem?]
      omega

/-- No workday lies more workdays ahead than there is room for days. -/
theorem workday_towards_eq_none {count : Nat} (h : roomTowards direction start < count) :
    workdayTowards weekend holidays direction start count = none := by
  cases count with
  | zero => cases h
  | succ count =>
      refine List.getElem?_eq_none ?_
      have shorter := List.length_filter_le (isWorkday weekend holidays)
        (daysTowards direction start)
      rw [length_days_towards] at shorter
      exact Nat.le_trans shorter (Nat.le_of_lt_succ h)

/-- Where the walk is not begun, there are fewer days than workdays to pass. -/
theorem walk_in_room {room : Int} (hroom : room = roomTowards direction start) (count : Nat)
    (h : inRange start) :
    (if room < 0 ∨ room < count then none
      else walk weekend holidays direction room.toNat count start) =
      workdayTowards weekend holidays direction start count := by
  subst hroom
  split
  · rename_i short
    exact (workday_towards_eq_none (by omega)).symm
  · exact walk_eq count h (Nat.le_refl _)

/-- An advance ends on the workday so far ahead, in the direction that the sign of
the number tells. -/
theorem advance_eq (h : inRange start) (workdays : Int) :
    advance weekend holidays start workdays =
      (workdayTowards weekend holidays (if workdays < 0 then .backward else .forward) start
        workdays.natAbs).map fun finish =>
          ⟨workdays.natAbs, start, finish, if workdays < 0 then .backward else .forward⟩ := by
  unfold advance
  dsimp only
  generalize (if workdays < 0 then Direction.backward else .forward) = direction
  have bounds := in_range_iff.mp h
  have room : (match direction with
      | .forward => lastDay.number - start.number
      | .backward => start.number - firstDay.number) = (roomTowards direction start : Int) := by
    cases direction <;> simp only [roomTowards] <;> omega
  rw [← walk_in_room room _ h, apply_ite (Option.map _)]
  rfl

end Walk

/-! ## Counting workdays -/

section Count

variable {weekend : Weekend} {holidays : List Date}

/-- The days from one date to a later one, both included. -/
def daysBetween (low high : Date) : List Date :=
  (List.range (high.number + 1 - low.number).toNat).map (dayTowards .forward low)

/-- Counting from a date adds the workdays among the days looked at. -/
theorem count_from_eq (days : Nat) (date : Date) (count : Nat) :
    countFrom weekend holidays days date count = count +
      ((List.range days).map (dayTowards .forward date)).countP (isWorkday weekend holidays) := by
  induction days generalizing date count with
  | zero => rfl
  | succ days ih =>
      rw [countFrom, ih, List.range_succ_eq_map, List.map_cons, List.map_map, List.countP_cons]
      have first : dayTowards .forward date 0 = date := by
        simp [dayTowards]
      have others : dayTowards .forward date ∘ Nat.succ =
          dayTowards .forward (Direction.forward.next date) :=
        funext fun steps => day_towards_succ steps
      rw [first, others]
      split <;> omega

/-- The last day of the range comes before the latest date there is. -/
theorem last_day_lt_latest : lastDay.number < Date.latest.number := by decide

/-- The workdays between two dates in the range are counted whichever of them is named first. -/
theorem count_workdays_eq {low high : Date} (ordered : low.number ≤ high.number)
    (h : high.number ≤ lastDay.number) :
    (countWorkdays weekend holidays low high).workdays =
        (daysBetween low high).countP (isWorkday weekend holidays) ∧
      (countWorkdays weekend holidays high low).workdays =
        (daysBetween low high).countP (isWorkday weekend holidays) := by
  have following : min (high.number + 1) Date.latest.number = high.number + 1 := by
    have := last_day_lt_latest
    omega
  have counted : countFrom weekend holidays (high.number + 1 - low.number).toNat low 0 =
      (daysBetween low high).countP (isWorkday weekend holidays) := by
    rw [count_from_eq, Nat.zero_add]
    rfl
  unfold countWorkdays
  refine ⟨?_, ?_⟩
  · rw [if_neg (by omega)]
    dsimp only
    rw [following, counted]
  · by_cases later : low.number < high.number
    · rw [if_pos later]
      dsimp only
      rw [following, counted]
    · obtain rfl : low = high := by
        rw [Date.mk.injEq]
        omega
      rw [if_neg later]
      dsimp only
      rw [following, counted]

/-- An item of a filtered list has as many items that hold up to its own place in the whole list as
up to its place in the filtered one. -/
theorem exists_place_of_filter {α : Type} {holds : α → Bool} {items : List α} {place : Nat}
    {item : α} (h : (items.filter holds)[place]? = some item) :
    ∃ whole, items[whole]? = some item ∧ (items.take (whole + 1)).countP holds = place + 1 := by
  induction items generalizing place with
  | nil => cases h
  | cons first rest ih =>
      by_cases holding : holds first
      · rw [List.filter_cons_of_pos holding] at h
        cases place with
        | zero => exact ⟨0, h, by simp [holding]⟩
        | succ place =>
            obtain ⟨whole, found, count⟩ := ih h
            refine ⟨whole + 1, found, ?_⟩
            rw [List.take_succ_cons, List.countP_cons_of_pos holding, count]
      · rw [List.filter_cons_of_neg holding] at h
        obtain ⟨whole, found, count⟩ := ih h
        refine ⟨whole + 1, found, ?_⟩
        rw [List.take_succ_cons, List.countP_cons_of_neg holding, count]

/-- The days between the neighbour of a date and a day on its side are the days up to that one. -/
theorem days_between_forward (start : Date) (steps : Nat) :
    daysBetween (Direction.forward.next start) (dayTowards .forward start (steps + 1)) =
      (List.range (steps + 1)).map fun steps => dayTowards .forward start (steps + 1) := by
  have length : ((dayTowards .forward start (steps + 1)).number + 1 -
      (Direction.forward.next start).number).toNat = steps + 1 := by
    simp only [dayTowards, Direction.next]
    omega
  rw [daysBetween, length]
  exact List.map_congr_left fun steps _ => (day_towards_succ steps).symm

/-- Looking back they are the same days in the other order. -/
theorem days_between_backward (start : Date) (steps : Nat) :
    daysBetween (dayTowards .backward start (steps + 1)) (Direction.backward.next start) =
      ((List.range (steps + 1)).map fun steps =>
        dayTowards .backward start (steps + 1)).reverse := by
  have length : ((Direction.backward.next start).number + 1 -
      (dayTowards .backward start (steps + 1)).number).toNat = steps + 1 := by
    simp only [dayTowards, Direction.next]
    omega
  rw [daysBetween, length]
  apply List.ext_getElem
  · simp
  · intro place inside _
    rw [List.length_map, List.length_range] at inside
    simp only [List.getElem_map, List.getElem_range, List.getElem_reverse, List.length_map,
      List.length_range, dayTowards, Date.mk.injEq]
    omega

variable {direction : Direction} {start finish : Date}

/-- Where a workday at a place lies among the days on its side. -/
theorem exists_steps_to_workday {count : Nat}
    (found : (workdaysTowards weekend holidays direction start)[count]? = some finish) :
    ∃ steps, steps < roomTowards direction start ∧
      finish = dayTowards direction start (steps + 1) ∧
      ((daysTowards direction start).take (steps + 1)).countP (isWorkday weekend holidays) =
        count + 1 := by
  obtain ⟨steps, place, counted⟩ := exists_place_of_filter found
  obtain ⟨inside, rfl⟩ := List.getElem?_eq_some_iff.mp place
  rw [length_days_towards] at inside
  refine ⟨steps, inside, ?_, counted⟩
  simp only [daysTowards, List.getElem_map, List.getElem_range]

/-- From the neighbour of a date to the workday at a place on its side there are as many workdays as
the place says. -/
theorem count_to_workday {count : Nat} (h : inRange start)
    (found : (workdaysTowards weekend holidays direction start)[count]? = some finish) :
    (countWorkdays weekend holidays (direction.next start) finish).workdays = count + 1 := by
  obtain ⟨steps, hsteps, rfl, counted⟩ := exists_steps_to_workday found
  rw [daysTowards, ← List.map_take, List.take_range, Nat.min_eq_left hsteps] at counted
  rw [in_range_iff] at h
  cases direction with
  | forward =>
      rw [roomTowards] at hsteps
      rw [(count_workdays_eq _ _).1, days_between_forward, counted]
      · rfl
      · simp only [dayTowards, Direction.next]
        omega
      · simp only [dayTowards]
        omega
  | backward =>
      rw [(count_workdays_eq _ _).2, days_between_backward, List.countP_reverse, counted]
      · rfl
      · simp only [dayTowards, Direction.next]
        omega
      · simp only [Direction.next]
        omega

end Count

/-! ## The law -/

/-- From a date in the range, `advance` finds a day exactly if it need not go anywhere or if there
are enough workdays on the side to which it looks. The day is the date itself or the workday at that
place, and from the neighbour of the date to it as many workdays are counted as were asked for. The
walk alone, with room for all the days on that side, finds the same. -/
theorem advance_lands (weekend : Weekend) (holidays : List Date) (workdays : Int) {start : Date}
    (h : inRange start) :
    let direction := if workdays < 0 then Direction.backward else .forward
    let worked := workdaysTowards weekend holidays direction start
    ((advance weekend holidays start workdays).isSome ↔
      workdays = 0 ∨ workdays.natAbs ≤ worked.length) ∧
    (∀ found, advance weekend holidays start workdays = some found →
      (workdays = 0 → found.finish = start) ∧
      (workdays ≠ 0 → worked[workdays.natAbs - 1]? = some found.finish ∧
        (countWorkdays weekend holidays (direction.next start) found.finish).workdays =
          workdays.natAbs)) ∧
    ∀ room, roomTowards direction start ≤ room →
      walk weekend holidays direction room workdays.natAbs start =
        (advance weekend holidays start workdays).map WorkdayCount.finish := by
  intro direction worked
  rw [advance_eq h]
  refine ⟨?_, ?_, ?_⟩
  · rw [Option.isSome_map, is_some_workday_towards, Int.natAbs_eq_zero]
  · intro found hfound
    obtain ⟨finish, hfinish, rfl⟩ := Option.map_eq_some_iff.mp hfound
    refine ⟨fun none => ?_, fun some => ?_⟩
    · subst none
      exact (Option.some.inj hfinish).symm
    · obtain ⟨count, hcount⟩ := Nat.exists_eq_succ_of_ne_zero (Int.natAbs_ne_zero.mpr some)
      rw [hcount] at hfinish ⊢
      exact ⟨hfinish, count_to_workday h hfinish⟩
  · intro room enough
    rw [walk_eq _ h enough, Option.map_map]
    exact Option.map_id'.symm

/-- Where only Fridays are worked, the last day of the range is the only workday after the Friday
before it. -/
theorem advance_lands_on_last_friday :
    let fridays : Weekend := ⟨fun weekday => weekday != 4⟩
    let start := Date.ofParts 9999 12 24
    inRange start ∧
      advance fridays [] start 1 = some ⟨1, start, lastDay, .forward⟩ ∧
      (workdaysTowards fridays [] .forward start)[0]? = some lastDay ∧
      (countWorkdays fridays [] (Direction.forward.next start) lastDay).workdays = 1 ∧
      (advance fridays [] start 2).isSome = false := by
  intro fridays start
  have h : inRange start := by decide
  have found : advance fridays [] start 1 = some ⟨1, start, lastDay, .forward⟩ := by
    decide +kernel
  have next := (advance_lands fridays [] 1 h).2.1 _ found
  have short : ¬((2 : Int) = 0 ∨ (2 : Int).natAbs ≤
      (workdaysTowards fridays [] .forward start).length) := by
    decide +kernel
  have missed := mt (advance_lands fridays [] 2 h).1.mp short
  exact ⟨h, found, (next.2 (by decide)).1, (next.2 (by decide)).2,
    Bool.eq_false_iff.mpr missed⟩

end Spreadsheet.Calendar
