import Spreadsheet.Proofs.Calendar.Workdays

/-!
# Offsets by workdays

Going some workdays and then some more in the same direction is going all of them at once, and
where one of the two walks leaves the range so does the other. Between two workdays it is as far
back as it is forth. The main theorem, `advance_composes`, says both of `advance`.
-/

namespace Spreadsheet.Calendar

/-! ## Days beyond a day on one side -/

/-- The other way along the calendar. -/
def Direction.opposite : Direction → Direction
  | forward => backward
  | backward => forward

section Days

variable {direction : Direction} {start : Date} {steps : Nat}

/-- As many steps as there is room for lead to a date in the range. -/
theorem in_range_day_towards (h : inRange start) (inside : steps < roomTowards direction start) :
    inRange (dayTowards direction start (steps + 1)) := by
  rw [in_range_iff] at *
  cases direction <;> simp only [roomTowards, dayTowards] at * <;> omega

/-- The days beyond a day on one side are the last of all days on that side. -/
theorem days_towards_day_towards :
    daysTowards direction (dayTowards direction start (steps + 1)) =
      (daysTowards direction start).drop (steps + 1) := by
  have room : roomTowards direction (dayTowards direction start (steps + 1)) =
      roomTowards direction start - (steps + 1) := by
    cases direction <;> simp only [roomTowards, dayTowards] <;> omega
  apply List.ext_getElem
  · rw [List.length_drop, length_days_towards, length_days_towards, room]
  · intro place _ _
    simp only [daysTowards, List.getElem_map, List.getElem_drop, List.getElem_range]
    cases direction <;> simp only [dayTowards, Date.mk.injEq] <;> omega

/-- Looking back from a day, the date one started from comes after as many days as lie between. -/
theorem day_back (h : inRange start) (inside : steps < roomTowards direction start) :
    (daysTowards direction.opposite (dayTowards direction start (steps + 1)))[steps]? =
      some start := by
  rw [in_range_iff] at h
  rw [daysTowards, List.getElem?_map, List.getElem?_range, Option.map_some]
  · cases direction <;> simp only [Direction.opposite, dayTowards, Option.some.injEq] <;>
      exact congrArg Date.mk (by omega)
  · cases direction <;> simp only [Direction.opposite, roomTowards, dayTowards] at * <;> omega

/-- The days between are the same either way, in the other order. -/
theorem days_back (h : inRange start) (inside : steps < roomTowards direction start) :
    (daysTowards direction.opposite (dayTowards direction start (steps + 1))).take steps =
      ((daysTowards direction start).take steps).reverse := by
  rw [in_range_iff] at h
  have room : steps ≤
      roomTowards direction.opposite (dayTowards direction start (steps + 1)) := by
    cases direction <;> simp only [Direction.opposite, roomTowards, dayTowards] at * <;> omega
  apply List.ext_getElem
  · rw [List.length_reverse, List.length_take, List.length_take, length_days_towards,
      length_days_towards, Nat.min_eq_left room, Nat.min_eq_left (Nat.le_of_lt inside)]
  · intro place shorter _
    rw [List.length_take, length_days_towards, Nat.min_eq_left room] at shorter
    have rest : min steps (roomTowards direction start) = steps :=
      Nat.min_eq_left (Nat.le_of_lt inside)
    simp only [daysTowards, List.getElem_take, List.getElem_map, List.getElem_range,
      List.getElem_reverse, List.length_take, List.length_map, List.length_range, rest]
    cases direction <;> simp only [Direction.opposite, dayTowards, Date.mk.injEq] <;> omega

end Days

/-! ## Workdays beyond a workday -/

/-- What is left of a filtered list once the items that come from a first part of the whole list
are dropped. -/
theorem drop_filter {α : Type} (holds : α → Bool) (items : List α) (whole : Nat) :
    (items.filter holds).drop ((items.take whole).countP holds) =
      (items.drop whole).filter holds := by
  have parts : items.filter holds =
      (items.take whole).filter holds ++ (items.drop whole).filter holds := by
    rw [← List.filter_append, List.take_append_drop]
  rw [parts]
  exact List.drop_left' List.countP_eq_length_filter.symm

section Workdays

variable {weekend : Weekend} {holidays : List Date} {direction : Direction} {start finish : Date}
  {count : Nat}

/-- A walk over workdays that ends at all ends in the range. -/
theorem in_range_workday_towards (h : inRange start)
    (found : workdayTowards weekend holidays direction start count = some finish) :
    inRange finish := by
  cases count with
  | zero =>
      cases found
      exact h
  | succ count =>
      obtain ⟨steps, inside, rfl, -⟩ := exists_steps_to_workday found
      exact in_range_day_towards h inside

/-- The workdays beyond a workday are those that come after it in the list. -/
theorem workdays_towards_workday
    (found : (workdaysTowards weekend holidays direction start)[count]? = some finish) :
    workdaysTowards weekend holidays direction finish =
      (workdaysTowards weekend holidays direction start).drop (count + 1) := by
  obtain ⟨steps, inside, rfl, counted⟩ := exists_steps_to_workday found
  rw [workdaysTowards, days_towards_day_towards, workdaysTowards, ← counted, drop_filter]

/-- Going some workdays and then some more is going all of them. -/
theorem workday_towards_add (first second : Nat) :
    workdayTowards weekend holidays direction start (first + second) =
      (workdayTowards weekend holidays direction start first).bind fun between =>
        workdayTowards weekend holidays direction between second := by
  cases first with
  | zero =>
      rw [Nat.zero_add]
      rfl
  | succ first =>
      cases second with
      | zero => cases workdayTowards weekend holidays direction start (first + 1) <;> rfl
      | succ second =>
          show (workdaysTowards weekend holidays direction start)[first + 1 + second]? =
            (workdaysTowards weekend holidays direction start)[first]?.bind fun between =>
              (workdaysTowards weekend holidays direction between)[second]?
          cases found : (workdaysTowards weekend holidays direction start)[first]? with
          | none =>
              rw [List.getElem?_eq_none_iff] at found
              exact List.getElem?_eq_none (by omega)
          | some between =>
              rw [Option.bind_some, workdays_towards_workday found, List.getElem?_drop]

/-- From a workday to another and back. -/
theorem workday_back (h : inRange start) (worked : isWorkday weekend holidays start)
    (found : workdayTowards weekend holidays direction start count = some finish) :
    workdayTowards weekend holidays direction.opposite finish count = some start := by
  cases count with
  | zero =>
      cases found
      rfl
  | succ count =>
      obtain ⟨steps, inside, rfl, counted⟩ := exists_steps_to_workday found
      have back := day_back h inside
      -- the day itself is worked, so the days before it hold one workday less
      have between : ((daysTowards direction start).take steps).countP
          (isWorkday weekend holidays) = count := by
        have last := List.mem_of_getElem? found
        rw [workdaysTowards, List.mem_filter] at last
        have final : (daysTowards direction start)[steps]? =
            some (dayTowards direction start (steps + 1)) := by
          rw [daysTowards, List.getElem?_map, List.getElem?_range inside, Option.map_some]
        rw [List.take_add_one, final, List.countP_append, Option.toList_some,
          List.countP_singleton, if_pos last.2] at counted
        exact Nat.succ.inj counted
      have dropped := drop_filter (isWorkday weekend holidays)
        (daysTowards direction.opposite (dayTowards direction start (steps + 1))) steps
      rw [days_back h inside, List.countP_reverse, between] at dropped
      show ((daysTowards direction.opposite (dayTowards direction start (steps + 1))).filter
        (isWorkday weekend holidays))[count]? = some start
      obtain ⟨there, reached⟩ := List.getElem?_eq_some_iff.mp back
      rw [List.drop_eq_getElem_cons there, reached, List.filter_cons_of_pos worked] at dropped
      rw [← Nat.add_zero count, ← List.getElem?_drop, dropped, List.getElem?_cons_zero]

end Workdays

/-! ## The law -/

section Law

variable {weekend : Weekend} {holidays : List Date} {start finish : Date}

/-- A walk by a number of workdays ends on a date. -/
def Arrives (weekend : Weekend) (holidays : List Date) (start : Date) (workdays : Int)
    (finish : Date) : Prop :=
  (advance weekend holidays start workdays).map WorkdayCount.finish = some finish

instance (weekend : Weekend) (holidays : List Date) (start : Date) (workdays : Int)
    (finish : Date) : Decidable (Arrives weekend holidays start workdays finish) :=
  inferInstanceAs (Decidable (_ = _))

/-- The numbers of workdays that are walked in a direction; none is walked in either. -/
def Direction.Takes : Direction → Int → Prop
  | forward, workdays => 0 ≤ workdays
  | backward, workdays => workdays ≤ 0

/-- A walk by a number of workdays ends on a date exactly if the workday so far off in its direction
is that date. -/
theorem arrives_iff (h : inRange start) {direction : Direction} {workdays : Int}
    (taken : direction.Takes workdays) :
    Arrives weekend holidays start workdays finish ↔
      workdayTowards weekend holidays direction start workdays.natAbs = some finish := by
  have same : workdayTowards weekend holidays (if workdays < 0 then .backward else .forward) start
      workdays.natAbs = workdayTowards weekend holidays direction start workdays.natAbs := by
    by_cases still : workdays = 0
    · subst still
      rfl
    · cases direction with
      | forward => rw [if_neg (Int.not_lt.mpr taken)]
      | backward => rw [if_pos (Int.lt_iff_le_and_ne.mpr ⟨taken, still⟩)]
  rw [Arrives, advance_eq h, Option.map_map, same]
  exact iff_of_eq (congrArg (· = some finish) Option.map_id')

/-- Two walks in one direction end where one walk by both numbers of workdays does. -/
theorem arrives_add (direction : Direction) (h : inRange start) {first second : Int}
    (hfirst : direction.Takes first) (hsecond : direction.Takes second) :
    Arrives weekend holidays start (first + second) finish ↔
      ∃ between, Arrives weekend holidays start first between ∧
        Arrives weekend holidays between second finish := by
  have both : direction.Takes (first + second) := by
    cases direction <;> simp only [Direction.Takes] at * <;> omega
  have sum : (first + second).natAbs = first.natAbs + second.natAbs := by
    cases direction <;> simp only [Direction.Takes] at * <;> omega
  rw [arrives_iff h both, sum, workday_towards_add, Option.bind_eq_some_iff]
  refine exists_congr fun between => ?_
  rw [arrives_iff h hfirst]
  refine and_congr_right fun reached => ?_
  rw [arrives_iff (in_range_workday_towards h reached) hsecond]

/-- A walk from a workday is undone by the walk back. -/
theorem arrives_back (direction : Direction) (h : inRange start)
    (worked : isWorkday weekend holidays start) {workdays : Int} (taken : direction.Takes workdays)
    (reached : Arrives weekend holidays start workdays finish) :
    Arrives weekend holidays finish (-workdays) start := by
  have back : direction.opposite.Takes (-workdays) := by
    cases direction <;> simp only [Direction.opposite, Direction.Takes] at * <;> omega
  rw [arrives_iff h taken] at reached
  rw [arrives_iff (in_range_workday_towards h reached) back, Int.natAbs_neg]
  exact workday_back h worked reached

/-- From a date in the range, two walks in one direction end where one walk by both numbers of
workdays ends, and end at all exactly if that one does. A walk from a workday is undone by the walk
back from where it ends. -/
theorem advance_composes (weekend : Weekend) (holidays : List Date) {start : Date}
    (h : inRange start) :
    (∀ first second : Int, 0 ≤ first ∧ 0 ≤ second ∨ first ≤ 0 ∧ second ≤ 0 → ∀ finish,
      Arrives weekend holidays start (first + second) finish ↔
        ∃ between, Arrives weekend holidays start first between ∧
          Arrives weekend holidays between second finish) ∧
    ∀ workdays finish, isWorkday weekend holidays start →
      Arrives weekend holidays start workdays finish →
        Arrives weekend holidays finish (-workdays) start := by
  refine ⟨?_, ?_⟩
  · intro first second signs finish
    cases signs with
    | inl forward => exact arrives_add .forward h forward.1 forward.2
    | inr backward => exact arrives_add .backward h backward.1 backward.2
  · intro workdays finish worked reached
    cases Int.le_total 0 workdays with
    | inl forward => exact arrives_back .forward h worked forward reached
    | inr backward => exact arrives_back .backward h worked backward reached

/-- From the Friday before a holiday on Monday, the fifth workday is the fourth after the first one,
and from that one it is one workday back. Six workdays before the end of the range there are five
and one to go, but not five and two. -/
theorem advance_composes_over_holiday :
    let friday := Date.ofParts 2024 1 5
    let monday := Date.ofParts 2024 1 8
    let tuesday := Date.ofParts 2024 1 9
    let late := Date.ofParts 9999 12 23
    inRange friday ∧ inRange late ∧ isWorkday .usual [monday] friday ∧
      Arrives .usual [monday] friday 1 tuesday ∧ Arrives .usual [monday] tuesday (-1) friday ∧
      Arrives .usual [monday] friday (1 + 4) (Date.ofParts 2024 1 15) ∧
      Arrives .usual [] late (5 + 1) lastDay ∧
      ∀ finish, ¬Arrives .usual [] late (5 + 2) finish := by
  intro friday monday tuesday late
  have hfriday : inRange friday := by decide
  have hlate : inRange late := by decide
  have worked : isWorkday .usual [monday] friday := by decide
  have reached : Arrives .usual [monday] friday 1 tuesday := by decide +kernel
  have five : Arrives .usual [] late 5 (Date.ofParts 9999 12 30) := by decide +kernel
  have law := advance_composes .usual [monday] hfriday
  have lateLaw := advance_composes .usual [] hlate
  refine ⟨hfriday, hlate, worked, reached, law.2 1 tuesday worked reached, ?_, ?_, ?_⟩
  · exact (law.1 1 4 (by decide) _).mpr ⟨tuesday, reached, by decide +kernel⟩
  · exact (lateLaw.1 5 1 (by decide) _).mpr ⟨_, five, by decide +kernel⟩
  · intro finish seven
    obtain ⟨between, hbetween, two⟩ := (lateLaw.1 5 2 (by decide) finish).mp seven
    have short : advance .usual [] (Date.ofParts 9999 12 30) 2 = none := by decide +kernel
    obtain rfl := Option.some.inj (five.symm.trans hbetween)
    rw [Arrives, short] at two
    cases two

end Law

end Spreadsheet.Calendar
