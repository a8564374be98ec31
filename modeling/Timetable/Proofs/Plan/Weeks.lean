import Timetable.Plan.Distribution
import Timetable.Proofs.Decimal.Comparison

/-
  This file says which weeks of a table lessons can be put
  into: those that have no day in common with a vacation and
  that have time left for study.

  Key definitions include:
    * `Week.Meets`
    * `Week.IsOpen`

  Main theorems include:
    * `touches_iff`
    * `mem_weeksFrom`
    * `buildWeeks_isVacation_iff`
    * `buildWeeks_isUseful_iff`
    * `buildWeeks_capacity_pos`
-/

namespace Timetable.Plan

variable {α : Type}

------------------------------------------------------------
-- Days in Common
------------------------------------------------------------

/- A week and a vacation have a day in common. -/
def Week.Meets
    (w : Week α)
    (v : Vacation) : Prop :=
  ∃ day : Date,
    (w.start ≤ day ∧ day ≤ w.finish) ∧
    (v.start ≤ day ∧ day ≤ v.finish)

/-
  The test of the ends of a week and a vacation finds every
  common day, if both end no sooner than they start.
-/
theorem touches_iff
    {w : Week α}
    {v : Vacation}
    (hWeek : w.start ≤ w.finish)
    (hVacation : v.start ≤ v.finish) :
    v.touches w.start w.finish = true ↔ w.Meets v := by
  have hTest :
      v.touches w.start w.finish = true ↔
        ((v.start ≤ w.start ∧ w.start ≤ v.finish) ∨
          (v.start ≤ w.finish ∧ w.finish ≤ v.finish)) ∨
        (w.start ≤ v.start ∧ v.finish ≤ w.finish) := by
    simp [Vacation.touches, Vacation.covers]
  rw [hTest]
  constructor
  · rintro ((hFirst | hLast) | hInside)
    · exact ⟨w.start, ⟨Int.le_refl _, hWeek⟩, hFirst⟩
    · exact ⟨w.finish, ⟨hWeek, Int.le_refl _⟩, hLast⟩
    · exact ⟨v.start,
        ⟨hInside.1, Int.le_trans hVacation hInside.2⟩,
        ⟨Int.le_refl _, hVacation⟩⟩
  · rintro ⟨day, ⟨hFrom, hUntil⟩, ⟨hSince, hTill⟩⟩
    by_cases hBefore : v.start ≤ w.start
    · exact Or.inl (Or.inl ⟨hBefore, Int.le_trans hFrom hTill⟩)
    · have hAfter : w.start ≤ v.start :=
        Int.le_of_lt (Int.not_le.mp hBefore)
      by_cases hBeyond : w.finish ≤ v.finish
      · exact Or.inl (Or.inr ⟨Int.le_trans hSince hUntil, hBeyond⟩)
      · exact Or.inr ⟨hAfter, Int.le_of_lt (Int.not_le.mp hBeyond)⟩

variable [Scalar α]

/- A week has no day in common with a vacation, and time for study. -/
structure Week.IsOpen
    (vacations : List Vacation)
    (w : Week α) : Prop where
  free : ∀ v ∈ vacations, ¬ w.Meets v
  time : ¬ w.capacity ≤ Scalar.zero

theorem Week.isUseful_iff
    (w : Week α) :
    w.isUseful = true ↔
      w.isVacation = false ∧ ¬ w.capacity ≤ Scalar.zero := by
  simp [Week.isUseful]

/- A week with minutes above zero is of use. -/
theorem Week.isUseful_of_pos
    {w : Week Float}
    (hVacation : w.isVacation = false)
    (hCapacity : 0 < w.capacity) :
    w.isUseful = true :=
  w.isUseful_iff.mpr ⟨hVacation, Decimal.not_le_of_lt hCapacity⟩

------------------------------------------------------------
-- Week Tables
------------------------------------------------------------

section Tables

variable
  {start finish : Date}
  {vacations : List Vacation}

/- The weeks of a period start on a day of it. -/
theorem mem_weeksFrom
    {minutes : α}
    {cursor : Date}
    {number : Int}
    {w : Week α}
    (hw : w ∈ weeksFrom finish vacations minutes cursor number) :
    ∃ day n, day ≤ finish ∧ w = weekAt finish vacations minutes day n := by
  fun_induction weeksFrom finish vacations minutes cursor number with
  | case1 => cases hw
  | case2 cursor number hCursor ih =>
      rcases List.mem_cons.mp hw with rfl | hLater
      · exact ⟨cursor, number, Int.not_lt.mp hCursor, rfl⟩
      · exact ih hLater

/- A week of a period does not end before it starts. -/
theorem weekAt_start_le_finish
    {minutes : α}
    {day : Date}
    {n : Int}
    (hDay : day ≤ finish) :
    (weekAt finish vacations minutes day n).start ≤
      (weekAt finish vacations minutes day n).finish := by
  change day.day ≤ (Date.earlier (day.addDays 6) finish).day
  unfold Date.earlier
  split
  · exact hDay
  · change day.day ≤ day.day + 6
    omega

/-
  With vacations that end no sooner than they start, a week
  counts as vacation when it has a day in common with one.
-/
theorem buildWeeks_isVacation_iff
    {hoursPerDay : α}
    {studyDays : Int}
    (hVacations : ∀ v ∈ vacations, v.start ≤ v.finish)
    {w : Week α}
    (hw : w ∈ buildWeeks start finish vacations hoursPerDay studyDays) :
    w.isVacation = true ↔ ∃ v ∈ vacations, w.Meets v := by
  rcases mem_weeksFrom hw with ⟨day, n, hDay, hWeek⟩
  have hOrder : w.start ≤ w.finish := by
    rw [hWeek]
    exact weekAt_start_le_finish hDay
  have hFlag :
      w.isVacation =
        vacations.any (fun v => v.touches w.start w.finish) := by
    rw [hWeek]
    rfl
  rw [hFlag, List.any_eq_true]
  constructor
  · rintro ⟨v, hv, hTouches⟩
    exact ⟨v, hv, (touches_iff hOrder (hVacations v hv)).mp hTouches⟩
  · rintro ⟨v, hv, hMeets⟩
    exact ⟨v, hv, (touches_iff hOrder (hVacations v hv)).mpr hMeets⟩

/- The weeks of use are those without a day of vacation that have time for study. -/
theorem buildWeeks_isUseful_iff
    {hoursPerDay : α}
    {studyDays : Int}
    (hVacations : ∀ v ∈ vacations, v.start ≤ v.finish)
    {w : Week α}
    (hw : w ∈ buildWeeks start finish vacations hoursPerDay studyDays) :
    w.isUseful = true ↔ w.IsOpen vacations := by
  have hFree : w.isVacation = false ↔ ∀ v ∈ vacations, ¬ w.Meets v := by
    rw [← Bool.not_eq_true, buildWeeks_isVacation_iff hVacations hw]
    simp
  rw [w.isUseful_iff, hFree]
  exact ⟨fun h => ⟨h.1, h.2⟩, fun h => ⟨h.free, h.time⟩⟩

/- The minutes of a week are a number when hours and days are finite. -/
theorem isNaN_weeklyMinutes
    {hoursPerDay : Float}
    {studyDays : Int}
    (hHours : hoursPerDay.isFinite = true)
    (hDays : (Float.ofInt studyDays).isFinite = true) :
    (weeklyMinutes hoursPerDay studyDays).isNaN = false := by
  have hNumber : hoursPerDay.isNaN = false := by
    change hoursPerDay.toModel.unpack.isNaN = false
    change hoursPerDay.toModel.unpack.isFinite = true at hHours
    cases hModel : hoursPerDay.toModel.unpack with
    | notANumber =>
        rw [hModel] at hHours
        cases hHours
    | _ => rfl
  have hPerWeek :=
    Decimal.isNaN_mul hNumber hDays (Or.inl hHours)
  have hHour : ∀ s, (Float.ofInt 60).toModel.unpack ≠ .zero s := by
    intro s hZero
    have hCompare :
        (Float.ofInt 60).toModel.unpack.compare (.zero s) = some .gt := by
      cases s <;> decide +kernel
    rw [hZero] at hCompare
    cases hCompare
  have hMinutes :=
    Decimal.isNaN_mul hPerWeek (y := Float.ofInt 60) (by decide +kernel)
      (Or.inr hHour)
  unfold weeklyMinutes
  simp only
  split
  · decide +kernel
  · exact hMinutes

/- In numbers, an open week has more than zero minutes. -/
theorem buildWeeks_capacity_pos
    {hoursPerDay : Float}
    {studyDays : Int}
    (hHours : hoursPerDay.isFinite = true)
    (hDays : (Float.ofInt studyDays).isFinite = true)
    {w : Week Float}
    (hw : w ∈ buildWeeks start finish vacations hoursPerDay studyDays)
    (hOpen : w.IsOpen vacations) :
    0 < w.capacity := by
  have hNumber : w.capacity.isNaN = false := by
    rcases mem_weeksFrom hw with ⟨day, n, _, rfl⟩
    unfold weekAt
    simp only
    split
    · decide +kernel
    · exact isNaN_weeklyMinutes hHours hDays
  exact Decimal.lt_of_not_le (by decide +kernel) hNumber hOpen.time

end Tables

end Timetable.Plan
