import Timetable.Proofs.Plan.Visits
import Timetable.Proofs.Plan.Weeks

/-
  This file says where the lessons of a distribution stand:
  in the weeks of the table that no vacation has a day of,
  position after position, and what no week had room for at
  the end of the last such week.

  Main theorems include:
    * `Composed.week_isUseful`
    * `Composed.overflow_week`
    * `Composed.useful_week_filled`
    * `distribute_placement`
-/

namespace Timetable.Plan

variable {α : Type} [Scalar α]

------------------------------------------------------------
-- Weeks of a Composed Distribution
------------------------------------------------------------

section Composed

variable
  {weeks : List (Week α)}
  {d : Distribution α}
  {loads : List (WeekLoad α)}
  {surplus : List (Assignment α)}

/- The filled weeks are weeks of the table that are of use. -/
theorem Composed.mem_week
    (h : Composed weeks d loads surplus)
    {load : WeekLoad α}
    (hLoad : load ∈ loads) :
    load.week ∈ weeks ∧ load.week.isUseful = true :=
  List.mem_filter.mp (h.inOrder.subset (List.mem_map_of_mem hLoad))

/- Every lesson stands in a week of the table that is of use. -/
theorem Composed.week_isUseful
    (h : Composed weeks d loads surplus)
    {a : Assignment α}
    (ha : a ∈ d.assignments) :
    ∃ w ∈ weeks, w.number = a.week ∧ w.isUseful = true := by
  have hLoaded :
      ∃ load ∈ loads, a.week = load.week.number := by
    rw [h.assignments] at ha
    rcases List.mem_append.mp ha with hPlaced | hSurplus
    · rcases List.mem_flatMap.mp hPlaced with ⟨load, hLoad, hHeld⟩
      exact ⟨load, hLoad, (h.filled load hLoad).weeks a hHeld⟩
    · rcases h.lastWeek a hSurplus with ⟨load, hLast, hWeek⟩
      exact ⟨load, List.mem_of_getLast? hLast, hWeek⟩
  rcases hLoaded with ⟨load, hLoad, hWeek⟩
  rcases h.mem_week hLoad with ⟨hMember, hUseful⟩
  exact ⟨load.week, hMember, hWeek.symm, hUseful⟩

/- What is left over goes to the last week of the table that is of use. -/
theorem Composed.overflow_week
    (h : Composed weeks d loads surplus)
    (hOrder : weeks.Pairwise (fun v w => v.number < w.number))
    {a : Assignment α}
    (ha : a ∈ surplus) :
    ∃ w ∈ weeks,
      w.number = a.week ∧ w.isUseful = true ∧
      ∀ v ∈ weeks, v.isUseful = true → v.number ≤ w.number := by
  rcases h.lastWeek a ha with ⟨load, hLast, hWeek⟩
  rcases h.mem_week (List.mem_of_getLast? hLast) with
    ⟨hMember, hUseful⟩
  refine ⟨load.week, hMember, hWeek.symm, hUseful, ?_⟩
  intro v hv hvUseful
  have hAll := h.complete (List.ne_nil_of_mem ha)
  rcases List.getLast?_eq_some_iff.mp hLast with ⟨first, rfl⟩
  have hTable := hOrder.filter (·.isUseful)
  have hvTable : v ∈ weeks.filter (·.isUseful) :=
    List.mem_filter.mpr ⟨hv, hvUseful⟩
  rw [← hAll, List.map_append] at hTable hvTable
  rcases List.mem_append.mp hvTable with hEarlier | hSame
  · have hLess :=
      (List.pairwise_append.mp hTable).2.2 v hEarlier load.week
        List.mem_cons_self
    exact Int.le_of_lt hLess
  · rw [List.mem_singleton.mp hSame]

/- With lessons left over, every week of use was given one. -/
theorem Composed.useful_week_filled
    (h : Composed weeks d loads surplus)
    (hSurplus : 0 < d.overflow)
    {w : Week α}
    (hw : w ∈ weeks)
    (hUseful : w.isUseful = true) :
    ∃ a ∈ d.assignments, a.week = w.number := by
  have hSome : surplus ≠ [] := by
    rintro rfl
    rw [← h.overflow] at hSurplus
    exact Nat.lt_irrefl 0 hSurplus
  have hTable : w ∈ weeks.filter (·.isUseful) :=
    List.mem_filter.mpr ⟨hw, hUseful⟩
  rw [← h.complete hSome] at hTable
  rcases List.mem_map.mp hTable with ⟨load, hLoad, rfl⟩
  rcases (h.filled load hLoad).exists_assignment with ⟨a, ha, hWeek⟩
  refine ⟨a, ?_, hWeek⟩
  rw [h.assignments]
  exact List.mem_append_left surplus (List.mem_flatMap.mpr ⟨load, hLoad, ha⟩)

end Composed

------------------------------------------------------------
-- Distributions over a Week Table
------------------------------------------------------------

/-
  Lessons that are distributed over the weeks of a period
  stand in the order of week and position, and the positions
  of each week count up from one.  Every week that is used has
  no day in common with a vacation and has time for study,
  which is more than zero minutes when the hours and days it
  comes from are finite.  What is left over is forced, stands
  last and in the last such week, and then no such week is
  without a lesson.
-/
theorem distribute_placement
    (lessons : List (CostedLesson Float))
    (mode : String)
    (frontOrder : List String)
    (start finish : Date)
    (vacations : List Vacation)
    (hoursPerDay : Float)
    (studyDays : Int)
    (weeks : List (Week Float))
    (hWeeks :
      weeks = buildWeeks start finish vacations hoursPerDay studyDays)
    (hLessons : lessons ≠ [])
    (hVacations : ∀ v ∈ vacations, v.start ≤ v.finish) :
    ∃ d placed surplus,
      distribute lessons weeks (Mode.ofName mode) frontOrder = .ok d ∧
      d.assignments.Pairwise Assignment.Before ∧
      Numbered d.assignments ∧
      (∀ a ∈ d.assignments,
        ∃ w ∈ weeks,
          w.number = a.week ∧ w.IsOpen vacations ∧
          (hoursPerDay.isFinite = true →
            (Float.ofInt studyDays).isFinite = true →
            0 < w.capacity)) ∧
      d.assignments = placed ++ surplus ∧
      surplus.length = d.overflow ∧
      (∀ a ∈ surplus,
        a.forced = true ∧
        ∃ w ∈ weeks,
          w.number = a.week ∧ w.IsOpen vacations ∧
          ∀ v ∈ weeks, v.IsOpen vacations → v.number ≤ w.number) ∧
      (0 < d.overflow →
        ∀ w ∈ weeks, w.IsOpen vacations →
          ∃ a ∈ d.assignments, a.week = w.number) := by
  subst hWeeks
  rcases distribute_isOk hLessons
      (buildWeeks start finish vacations hoursPerDay studyDays)
      (Mode.ofName mode) frontOrder with
    ⟨d, hDistribute⟩
  have hOrder := (weeksFrom_numbers finish vacations
    (weeklyMinutes hoursPerDay studyDays) start 1).2
  rcases distribute_composed hDistribute with ⟨loads, surplus, hComposed⟩
  refine ⟨d, loads.flatMap (·.assignments), surplus, hDistribute,
    distribute_ordered hOrder hDistribute,
    distribute_numbered hOrder hDistribute, ?_,
    hComposed.assignments, hComposed.overflow, ?_, ?_⟩
  · intro a ha
    rcases hComposed.week_isUseful ha with ⟨w, hw, hNumber, hUseful⟩
    have hOpen := (buildWeeks_isUseful_iff hVacations hw).mp hUseful
    refine ⟨w, hw, hNumber, hOpen, ?_⟩
    intro hHours hDays
    exact buildWeeks_capacity_pos hHours hDays hw hOpen
  · intro a ha
    rcases hComposed.overflow_week hOrder ha with
      ⟨w, hw, hNumber, hUseful, hLast⟩
    refine ⟨hComposed.forced a ha, w, hw, hNumber,
      (buildWeeks_isUseful_iff hVacations hw).mp hUseful, ?_⟩
    intro v hv hOpen
    exact hLast v hv ((buildWeeks_isUseful_iff hVacations hv).mpr hOpen)
  · intro hSurplus w hw hOpen
    exact hComposed.useful_week_filled hSurplus hw
      ((buildWeeks_isUseful_iff hVacations hw).mpr hOpen)

/-
  Of two weeks of which the first has a vacation on its fourth
  day, only the second one is used.
-/
theorem distribute_placement_beside_vacation :
    ∃ d,
      distribute
          ([("a", "x", 50), ("b", "x", 50)].map CostedLesson.ofOrigin)
          (buildWeeks ⟨0⟩ ⟨13⟩ [⟨⟨3⟩, ⟨3⟩⟩] (1 : Float) 1)
          (Mode.ofName "parallel") [] = .ok d ∧
      Numbered d.assignments ∧
      ∀ a ∈ d.assignments, a.week = 2 := by
  rcases
      distribute_placement
        ([("a", "x", 50), ("b", "x", 50)].map CostedLesson.ofOrigin)
        "parallel" [] ⟨0⟩ ⟨13⟩ [⟨⟨3⟩, ⟨3⟩⟩] 1 1 _ rfl
        (by simp) (by decide) with
    ⟨d, _, _, hDistribute, _, hNumbered, hPlaces, _⟩
  have hTable :
      buildWeeks ⟨0⟩ ⟨13⟩ [⟨⟨3⟩, ⟨3⟩⟩] (1 : Float) 1 =
        [weekAt ⟨13⟩ [⟨⟨3⟩, ⟨3⟩⟩] (weeklyMinutes 1 1) ⟨0⟩ 1,
          weekAt ⟨13⟩ [⟨⟨3⟩, ⟨3⟩⟩] (weeklyMinutes 1 1) ⟨7⟩ 2] := by
    unfold buildWeeks
    rw [weeksFrom, if_neg (by decide), weeksFrom, if_neg (by decide),
      weeksFrom, if_pos (by decide)]
    rfl
  refine ⟨d, hDistribute, hNumbered, ?_⟩
  intro a ha
  rcases hPlaces a ha with ⟨w, hw, hNumber, hOpen, _⟩
  rw [hTable] at hw
  rcases List.mem_cons.mp hw with rfl | hSecond
  · have hMeets := hOpen.free ⟨⟨3⟩, ⟨3⟩⟩ List.mem_cons_self
    exact absurd ⟨⟨3⟩, by decide, by decide⟩ hMeets
  · rw [← hNumber, List.mem_singleton.mp hSecond]
    rfl

end Timetable.Plan
