import Mathlib.Tactic.GCongr
import Timetable.Proofs.Plan.ExactCosts
import Timetable.Proofs.Plan.WeekTables

/-
  This file shows that more time and less to study never make
  lessons too much for a period.  Over the rationals a period
  has the minutes of one week as often as it has weeks without
  vacation, and a lesson costs no more when it is viewed at a
  higher speed.

  Key definitions include:
    * `feasibility`

  Main theorems include:
    * `weeklyMinutes_exact`
    * `totalCapacity_buildWeeks`
    * `usefulWeeks_mono`
    * `lessonCost_antitone`
    * `feasibility_monotone`
-/

namespace Timetable.Plan

------------------------------------------------------------
-- Time for Study
------------------------------------------------------------

/- The minutes of a week, when neither hours nor days are less than none. -/
theorem weeklyMinutes_exact
    {hoursPerDay : Rat}
    {studyDays : Int}
    (hHours : 0 ≤ hoursPerDay)
    (hDays : 0 ≤ studyDays) :
    weeklyMinutes hoursPerDay studyDays = hoursPerDay * studyDays * 60 := by
  have hNumber : (0 : Rat) ≤ studyDays := by exact_mod_cast hDays
  have hMinutes : ¬ hoursPerDay * studyDays * 60 < 0 :=
    not_lt.mpr (by positivity)
  change (if hoursPerDay * studyDays * 60 < 0 then 0
    else hoursPerDay * studyDays * 60) = _
  exact if_neg hMinutes

/- Weeks that have either none or the same minutes have these once for each without vacation. -/
theorem totalCapacity_of_equal
    {weeks : List (Week Rat)}
    {minutes : Rat}
    (hWeeks :
      ∀ w ∈ weeks, w.capacity = if w.isVacation then 0 else minutes) :
    totalCapacity weeks = usefulWeeks weeks * minutes := by
  unfold totalCapacity usefulWeeks
  rw [sum_eq]
  induction weeks with
  | nil => simp
  | cons w ws ih =>
      have hFirst := hWeeks w List.mem_cons_self
      have hRest := ih (fun v hv => hWeeks v (List.mem_cons_of_mem w hv))
      rw [List.map_cons, List.sum_cons, hRest, hFirst, List.countP_cons]
      cases w.isVacation with
      | true => simp
      | false =>
          simp only [Bool.false_eq_true, if_false, Bool.not_false, if_true]
          push_cast
          ring

/- A period has the minutes of a week for each week without vacation. -/
theorem totalCapacity_buildWeeks
    (start finish : Date)
    (vacations : List Vacation)
    {hoursPerDay : Rat}
    {studyDays : Int}
    (hHours : 0 ≤ hoursPerDay)
    (hDays : 0 ≤ studyDays) :
    totalCapacity
        (buildWeeks start finish vacations hoursPerDay studyDays) =
      usefulWeeks
          (buildWeeks start finish vacations hoursPerDay studyDays) *
        (hoursPerDay * studyDays * 60) := by
  rw [← weeklyMinutes_exact hHours hDays]
  apply totalCapacity_of_equal
  intro w hw
  exact capacity_of_mem_buildWeeks hw

/- Without some of the vacations no fewer weeks are free of them. -/
theorem usefulWeeks_mono
    {vacations fewer : List Vacation}
    (hFewer : fewer ⊆ vacations)
    (start finish : Date)
    (hoursPerDay otherHours : Rat)
    (studyDays otherDays : Int) :
    usefulWeeks (buildWeeks start finish vacations hoursPerDay studyDays) ≤
      usefulWeeks (buildWeeks start finish fewer otherHours otherDays) := by
  unfold usefulWeeks buildWeeks
  rw [weeksFrom_eq_map, weeksFrom_eq_map, List.countP_map, List.countP_map]
  apply List.countP_mono_left
  intro i _ hFree
  simp only [Function.comp_apply, weekAt, Bool.not_eq_true',
    List.any_eq_false] at hFree ⊢
  intro v hv
  exact hFree v (hFewer hv)

/- More hours, more days and fewer vacations leave no less time. -/
theorem totalCapacity_mono
    {vacations fewer : List Vacation}
    (hFewer : fewer ⊆ vacations)
    (start finish : Date)
    {hoursPerDay moreHours : Rat}
    (hHours : 0 ≤ hoursPerDay)
    (hMoreHours : hoursPerDay ≤ moreHours)
    {studyDays moreDays : Int}
    (hDays : 0 ≤ studyDays)
    (hMoreDays : studyDays ≤ moreDays) :
    totalCapacity
        (buildWeeks start finish vacations hoursPerDay studyDays) ≤
      totalCapacity (buildWeeks start finish fewer moreHours moreDays) := by
  have hWeeks :=
    usefulWeeks_mono hFewer start finish hoursPerDay moreHours
      studyDays moreDays
  have hNumber : (0 : Rat) ≤ studyDays := by exact_mod_cast hDays
  have hMoreNumber : (studyDays : Rat) ≤ moreDays := by
    exact_mod_cast hMoreDays
  have hMore : 0 ≤ moreHours := hHours.trans hMoreHours
  rw [totalCapacity_buildWeeks start finish vacations hHours hDays,
    totalCapacity_buildWeeks start finish fewer hMore
      (hDays.trans hMoreDays)]
  gcongr

------------------------------------------------------------
-- Less to Study
------------------------------------------------------------

/- The durations that are known are not less than no time. -/
def NonnegDurations (lessons : List (Lesson Rat)) : Prop :=
  ∀ l ∈ lessons, ∀ minutes, l.duration = some minutes → 0 ≤ minutes

theorem NonnegDurations.getD_nonneg
    {lessons : List (Lesson Rat)}
    (h : NonnegDurations lessons)
    {l : Lesson Rat}
    (hl : l ∈ lessons) :
    0 ≤ l.duration.getD defaultMinutes := by
  cases hDuration : l.duration with
  | none => exact (by decide : (0 : Rat) ≤ defaultMinutes)
  | some minutes => exact h l hl minutes hDuration

/- What a lesson costs at a speed above zero. -/
theorem lessonCost_exact
    (duration : Option Rat)
    {speed : Rat}
    (hSpeed : 0 < speed) :
    lessonCost duration speed =
      duration.getD defaultMinutes / speed * overhead := by
  unfold lessonCost
  exact congrArg
    (fun s => duration.getD defaultMinutes / s * overhead)
    (if_neg (not_le.mpr hSpeed))

theorem overhead_nonneg :
    0 ≤ (overhead : Rat) := by
  decide +kernel

theorem lessonCost_nonneg
    {duration : Option Rat}
    (hDuration : 0 ≤ duration.getD defaultMinutes)
    {speed : Rat}
    (hSpeed : 0 < speed) :
    0 ≤ lessonCost duration speed := by
  rw [lessonCost_exact duration hSpeed]
  exact mul_nonneg (div_nonneg hDuration hSpeed.le) overhead_nonneg

/- At a higher speed a lesson costs no more. -/
theorem lessonCost_antitone
    {duration : Option Rat}
    (hDuration : 0 ≤ duration.getD defaultMinutes)
    {speed faster : Rat}
    (hSpeed : 0 < speed)
    (hFaster : speed ≤ faster) :
    lessonCost duration faster ≤ lessonCost duration speed := by
  rw [lessonCost_exact duration hSpeed,
    lessonCost_exact duration (hSpeed.trans_le hFaster)]
  have hOverhead := overhead_nonneg
  gcongr

/- Fewer lessons at a higher speed cost no more. -/
theorem totalCost_applyCost_mono
    {lessons fewer : List (Lesson Rat)}
    (hFewer : fewer.Sublist lessons)
    (hDurations : NonnegDurations lessons)
    {speed faster : Rat}
    (hSpeed : 0 < speed)
    (hFaster : speed ≤ faster) :
    totalCost (applyCost fewer faster) ≤
      totalCost (applyCost lessons speed) := by
  have hCosts : NonnegCosts (applyCost lessons speed) := by
    intro c hc
    rcases List.mem_map.mp hc with ⟨l, hl, rfl⟩
    exact lessonCost_nonneg (hDurations.getD_nonneg hl) hSpeed
  calc
    totalCost (applyCost fewer faster)
      ≤ totalCost (applyCost fewer speed) := by
        rw [totalCost_eq_sum, totalCost_eq_sum, applyCost, applyCost,
          List.map_map, List.map_map]
        apply List.sum_le_sum
        intro l hl
        exact lessonCost_antitone
          (hDurations.getD_nonneg (hFewer.subset hl)) hSpeed hFaster
    _ ≤ totalCost (applyCost lessons speed) :=
        totalCost_le_of_sublist hCosts (hFewer.map _)

------------------------------------------------------------
-- Feasibility
------------------------------------------------------------

/- Accepted is a cost that exceeds the time by no more than the tolerance. -/
theorem checkFeasibility_ok_iff
    {α : Type}
    [Scalar α]
    {cost capacity hoursPerDay : α}
    {studyDays usefulWeeks : Int} :
    checkFeasibility cost capacity hoursPerDay studyDays usefulWeeks =
        .ok () ↔
      cost ≤ capacity + tolerance := by
  unfold checkFeasibility
  by_cases hEnough : cost ≤ capacity + tolerance
  · rw [if_pos hEnough]
    exact ⟨fun _ => hEnough, fun _ => rfl⟩
  · rw [if_neg hEnough]
    exact ⟨nofun, fun h => absurd h hEnough⟩

/- Whether there is time in a period for lessons that are viewed at a speed. -/
def feasibility
    (lessons : List (Lesson Rat))
    (speed : Rat)
    (start finish : Date)
    (vacations : List Vacation)
    (hoursPerDay : Rat)
    (studyDays : Int) : Except (Shortfall Rat) Unit :=
  checkFeasibility (totalCost (applyCost lessons speed))
    (totalCapacity
      (buildWeeks start finish vacations hoursPerDay studyDays))
    hoursPerDay studyDays
    (usefulWeeks (buildWeeks start finish vacations hoursPerDay studyDays))

/-
  Lessons for which there is time stay so with more hours or
  days of study, at a higher speed, without some vacations and
  without some lessons, and with any of these together.  The
  time of a period is that of its weeks without vacation.
-/
theorem feasibility_monotone
    (start finish : Date)
    {vacations fewerVacations : List Vacation}
    (hVacations : fewerVacations ⊆ vacations)
    {lessons fewerLessons : List (Lesson Rat)}
    (hLessons : fewerLessons.Sublist lessons)
    (hDurations : NonnegDurations lessons)
    {hoursPerDay moreHours : Rat}
    (hHours : 0 < hoursPerDay)
    (hMoreHours : hoursPerDay ≤ moreHours)
    {studyDays moreDays : Int}
    (hDays : 1 ≤ studyDays)
    (hMoreDays : studyDays ≤ moreDays)
    {speed faster : Rat}
    (hSpeed : 0 < speed)
    (hFaster : speed ≤ faster) :
    (feasibility lessons speed start finish vacations hoursPerDay
        studyDays = .ok () →
      feasibility fewerLessons faster start finish fewerVacations moreHours
        moreDays = .ok ()) ∧
    totalCapacity
        (buildWeeks start finish vacations hoursPerDay studyDays) =
      usefulWeeks
          (buildWeeks start finish vacations hoursPerDay studyDays) *
        (hoursPerDay * studyDays * 60) := by
  have hSomeDays : 0 ≤ studyDays := Int.le_trans (by decide) hDays
  refine ⟨?_, totalCapacity_buildWeeks start finish vacations hHours.le
    hSomeDays⟩
  intro hAccepted
  unfold feasibility at hAccepted ⊢
  rw [checkFeasibility_ok_iff] at hAccepted ⊢
  have hTime :=
    totalCapacity_mono hVacations start finish hHours.le hMoreHours
      hSomeDays hMoreDays
  have hCost :=
    totalCost_applyCost_mono hLessons hDurations hSpeed hFaster
  calc
    totalCost (applyCost fewerLessons faster)
      ≤ totalCost (applyCost lessons speed) := hCost
    _ ≤ totalCapacity
          (buildWeeks start finish vacations hoursPerDay studyDays) +
          tolerance := hAccepted
    _ ≤ totalCapacity
          (buildWeeks start finish fewerVacations moreHours moreDays) +
          tolerance := by
        gcongr

/- A lesson of an hour. -/
def hourLesson : Lesson Rat :=
  { Lesson.blank Rat with id := "a", duration := some 60 }

/-
  Two hours of a week, beside one of vacation, are enough for
  a lesson of an hour and one of unknown length.  So they are
  when the longer one is viewed alone at twice the speed, with
  more time and without the vacation.
-/
theorem feasibility_monotone_beside_vacation :
    feasibility [hourLesson, Lesson.blank Rat] 1 ⟨0⟩ ⟨9⟩ [⟨⟨8⟩, ⟨8⟩⟩] 1 2 =
      .ok () ∧
    feasibility [hourLesson] 2 ⟨0⟩ ⟨9⟩ [] (3 / 2) 3 = .ok () ∧
    totalCapacity (buildWeeks ⟨0⟩ ⟨9⟩ [⟨⟨8⟩, ⟨8⟩⟩] (1 : Rat) 2) = 120 := by
  have hVacations : ([] : List Vacation) ⊆ [⟨⟨8⟩, ⟨8⟩⟩] :=
    List.nil_subset _
  have hLessons :
      [hourLesson].Sublist [hourLesson, Lesson.blank Rat] :=
    List.singleton_sublist.mpr List.mem_cons_self
  have hDurations :
      NonnegDurations [hourLesson, Lesson.blank Rat] := by
    intro l hl minutes hDuration
    simp only [List.mem_cons, List.not_mem_nil, or_false] at hl
    rcases hl with rfl | rfl
    · cases hDuration
      decide
    · cases hDuration
  have hHours : (0 : Rat) < 1 := by decide
  have hMoreHours : (1 : Rat) ≤ 3 / 2 := by decide +kernel
  have hDays : (1 : Int) ≤ 2 := by decide
  have hMoreDays : (2 : Int) ≤ 3 := by decide
  have hFaster : (1 : Rat) ≤ 2 := by decide
  rcases
      feasibility_monotone ⟨0⟩ ⟨9⟩ hVacations hLessons hDurations hHours
        hMoreHours hDays hMoreDays hHours hFaster with
    ⟨hMonotone, hTime⟩
  have hWeeks :
      usefulWeeks (buildWeeks ⟨0⟩ ⟨9⟩ [⟨⟨8⟩, ⟨8⟩⟩] (1 : Rat) 2) = 1 := by
    unfold buildWeeks
    rw [weeksFrom_eq_map]
    decide +kernel
  rw [hWeeks] at hTime
  have hCapacity :
      totalCapacity (buildWeeks ⟨0⟩ ⟨9⟩ [⟨⟨8⟩, ⟨8⟩⟩] (1 : Rat) 2) = 120 := by
    rw [hTime]
    decide +kernel
  have hAccepted :
      feasibility [hourLesson, Lesson.blank Rat] 1 ⟨0⟩ ⟨9⟩ [⟨⟨8⟩, ⟨8⟩⟩] 1 2 =
        .ok () := by
    rw [feasibility, checkFeasibility_ok_iff, hCapacity]
    decide +kernel
  exact ⟨hAccepted, hMonotone hAccepted, hCapacity⟩

end Timetable.Plan
