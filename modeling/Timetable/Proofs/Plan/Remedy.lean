import Mathlib.Algebra.Order.Floor.Ring
import Mathlib.Data.Rat.Floor
import Timetable.Proofs.Plan.Feasibility

/-
  This file looks at the remedy that a shortfall names: the
  hours of study per day that a cost asks for.  Over the
  rationals the figure is the exact need, rounded to the
  nearest tenth of an hour.  It may be three minutes of every
  study day too short, and then is no remedy.  Each longer
  time in tenths of an hour is long enough, and no shorter
  one is.

  Key definitions include:
    * `checkPeriod`

  Main theorems include:
    * `ratRound_near`
    * `totalCapacity_eq_max`
    * `hoursPerDayFor_near`
    * `remedy_near`
    * `remedy_falls_short`
-/

namespace Timetable.Plan

------------------------------------------------------------
-- Rounding
------------------------------------------------------------

/- Rounding changes a number by no more than one half. -/
theorem ratRound_near (x : Rat) :
    |x - ratRound x| ≤ 1 / 2 := by
  unfold ratRound
  split
  · have hBelow := Rat.floor_le (-x + 1 / 2)
    have hAbove := Rat.lt_floor (x := -x + 1 / 2)
    rw [abs_le]
    constructor <;> linarith
  · have hBelow := Rat.floor_le (x + 1 / 2)
    have hAbove := Rat.lt_floor (x := x + 1 / 2)
    rw [abs_le]
    constructor <;> linarith

/- A rounded number is whole. -/
theorem exists_ratRound_eq (x : Rat) :
    ∃ n : Int, ratRound x = n := by
  unfold ratRound
  split
  · exact ⟨-(-x + 1 / 2).floor, by push_cast; rfl⟩
  · exact ⟨(x + 1 / 2).floor, rfl⟩

------------------------------------------------------------
-- Study Days and their Time
------------------------------------------------------------

/- Study days that are few enough are counted as they are. -/
theorem studySlots_of_lt
    {weeks days : Int}
    (hSome : 0 < weeks * days)
    (hFit : weeks * days < 2 ^ 63) :
    studySlots weeks days = weeks * days := by
  unfold studySlots Decimal.int64Count
  apply Int.bmod_eq_of_le_mul_two
  · omega
  · push_cast
    omega

/- The minutes of a week are never less than none. -/
theorem weeklyMinutes_exact_max
    (hoursPerDay : Rat)
    (studyDays : Int) :
    weeklyMinutes hoursPerDay studyDays =
      max 0 (hoursPerDay * studyDays * 60) := by
  change (if hoursPerDay * studyDays * 60 < 0 then 0
    else hoursPerDay * studyDays * 60) = _
  split
  · rename_i hLess
    exact (max_eq_left hLess.le).symm
  · rename_i hLess
    exact (max_eq_right (not_lt.mp hLess)).symm

/- A period has the minutes of a week for each week without vacation. -/
theorem totalCapacity_eq_max
    (start finish : Date)
    (vacations : List Vacation)
    (hoursPerDay : Rat)
    (studyDays : Int) :
    totalCapacity
        (buildWeeks start finish vacations hoursPerDay studyDays) =
      usefulWeeks
          (buildWeeks start finish vacations hoursPerDay studyDays) *
        max 0 (hoursPerDay * studyDays * 60) := by
  rw [← weeklyMinutes_exact_max]
  apply totalCapacity_of_equal
  intro w hw
  exact capacity_of_mem_buildWeeks hw

/- How many weeks are without vacation does not depend on the hours per day. -/
theorem usefulWeeks_hours
    (start finish : Date)
    (vacations : List Vacation)
    (hoursPerDay otherHours : Rat)
    (studyDays : Int) :
    usefulWeeks (buildWeeks start finish vacations hoursPerDay studyDays) =
      usefulWeeks (buildWeeks start finish vacations otherHours studyDays) :=
  Nat.le_antisymm
    (usefulWeeks_mono (List.Subset.refl _) start finish _ _ _ _)
    (usefulWeeks_mono (List.Subset.refl _) start finish _ _ _ _)

------------------------------------------------------------
-- The Time of a Period
------------------------------------------------------------

/- Whether a period has the time for a cost. -/
def checkPeriod
    (cost : Rat)
    (start finish : Date)
    (vacations : List Vacation)
    (hoursPerDay : Rat)
    (studyDays : Int) : Except (Shortfall Rat) Unit :=
  checkFeasibility cost
    (totalCapacity
      (buildWeeks start finish vacations hoursPerDay studyDays))
    hoursPerDay studyDays
    (usefulWeeks (buildWeeks start finish vacations hoursPerDay studyDays))

section Periods

variable
  {start finish : Date}
  {vacations : List Vacation}
  {hoursPerDay : Rat}
  {studyDays slots : Int}
  {cost : Rat}

/- At whatever hours per day, a period has the time of its study days. -/
theorem checkPeriod_ok_iff
    (hSlots :
      slots =
        usefulWeeks
            (buildWeeks start finish vacations hoursPerDay studyDays) *
          studyDays)
    (hours : Rat) :
    checkPeriod cost start finish vacations hours studyDays = .ok () ↔
      cost ≤ max 0 (slots * (hours * 60)) + tolerance := by
  have hNumber :
      (slots : Rat) =
        usefulWeeks
            (buildWeeks start finish vacations hoursPerDay studyDays) *
          studyDays := by
    rw [hSlots]
    push_cast
    rfl
  have hMinutes :
      (slots : Rat) * (hours * 60) =
        usefulWeeks
            (buildWeeks start finish vacations hoursPerDay studyDays) *
          (hours * studyDays * 60) := by
    rw [hNumber]
    ring
  unfold checkPeriod
  rw [checkFeasibility_ok_iff, totalCapacity_eq_max,
    usefulWeeks_hours start finish vacations hours hoursPerDay studyDays,
    mul_max_of_nonneg _ _ (Nat.cast_nonneg _), mul_zero, hMinutes]

/- What does not fit costs more than nothing. -/
theorem tolerance_lt_of_error
    {s : Shortfall Rat}
    (hSlots :
      slots =
        usefulWeeks
            (buildWeeks start finish vacations hoursPerDay studyDays) *
          studyDays)
    (hShort :
      checkPeriod cost start finish vacations hoursPerDay studyDays =
        .error s) :
    tolerance < cost := by
  have hRefused :
      ¬ checkPeriod cost start finish vacations hoursPerDay studyDays =
          .ok () := by
    rw [hShort]
    nofun
  rw [checkPeriod_ok_iff hSlots, not_le] at hRefused
  calc
    tolerance
      ≤ max 0 (slots * (hoursPerDay * 60)) + tolerance :=
        le_add_of_nonneg_left (le_max_left _ _)
    _ < cost := hRefused

/- Such a cost fits just when the study days have its time. -/
theorem checkPeriod_ok_iff_of_tolerance_lt
    (hSlots :
      slots =
        usefulWeeks
            (buildWeeks start finish vacations hoursPerDay studyDays) *
          studyDays)
    (hCost : tolerance < cost)
    (hours : Rat) :
    checkPeriod cost start finish vacations hours studyDays = .ok () ↔
      cost ≤ slots * (hours * 60) + tolerance := by
  rw [checkPeriod_ok_iff hSlots]
  constructor
  · intro hTime
    rcases le_max_iff.mp (sub_le_iff_le_add.mpr hTime) with hNone | hSome
    · exact absurd hCost (not_lt.mpr (sub_nonpos.mp hNone))
    · exact sub_le_iff_le_add.mp hSome
  · intro hTime
    exact hTime.trans (by gcongr; exact le_max_right _ _)

/- A cost that the study days have no time for is a shortfall. -/
theorem exists_shortfall
    (cost : Rat)
    (hSlots :
      slots =
        usefulWeeks
            (buildWeeks start finish vacations hoursPerDay studyDays) *
          studyDays)
    (hMore : max 0 (slots * (hoursPerDay * 60)) + tolerance < cost) :
    ∃ s,
      checkPeriod cost start finish vacations hoursPerDay studyDays =
        .error s := by
  have hRefused := mt (checkPeriod_ok_iff hSlots hoursPerDay).mp
    (not_le.mpr hMore)
  cases hCheck :
      checkPeriod cost start finish vacations hoursPerDay studyDays with
  | ok fits => exact absurd hCheck hRefused
  | error s => exact ⟨s, rfl⟩

/- A shortfall names the hours that the cost asks for. -/
theorem hoursPerDayNeeded_of_error
    {s : Shortfall Rat}
    (hSlots :
      slots =
        usefulWeeks
            (buildWeeks start finish vacations hoursPerDay studyDays) *
          studyDays)
    (hSome : 0 < slots)
    (hFit : slots < 2 ^ 63)
    (hShort :
      checkPeriod cost start finish vacations hoursPerDay studyDays =
        .error s) :
    s.hoursPerDayNeeded = hoursPerDayFor cost slots := by
  subst hSlots
  unfold checkPeriod checkFeasibility at hShort
  split at hShort
  · cases hShort
  · cases hShort
    exact congrArg (hoursPerDayFor cost) (studySlots_of_lt hSome hFit)

end Periods

------------------------------------------------------------
-- The Remedy
------------------------------------------------------------

/- The hours per day for a cost, where there are study days. -/
theorem hoursPerDayFor_exact
    (cost : Rat)
    {slots : Int}
    (hSome : 0 < slots) :
    hoursPerDayFor cost slots = ratRound (cost / 60 / slots * 10) / 10 :=
  if_pos hSome

/- They are off by no more than three minutes of every study day. -/
theorem hoursPerDayFor_near
    (cost : Rat)
    {slots : Int}
    (hSome : 0 < slots) :
    |cost - slots * (hoursPerDayFor cost slots * 60)| ≤ slots * 3 := by
  have hNumber : (0 : Rat) < slots := by exact_mod_cast hSome
  have hNear := ratRound_near (cost / 60 / slots * 10)
  have hScaled :
      cost - slots * (hoursPerDayFor cost slots * 60) =
        slots * 6 *
          (cost / 60 / slots * 10 - ratRound (cost / 60 / slots * 10)) := by
    rw [hoursPerDayFor_exact cost hSome]
    generalize ratRound (cost / 60 / slots * 10) = n
    field_simp
    ring
  calc
    |cost - slots * (hoursPerDayFor cost slots * 60)|
      = slots * 6 *
          |cost / 60 / slots * 10 - ratRound (cost / 60 / slots * 10)| := by
        rw [hScaled, abs_mul, abs_of_pos (by positivity)]
    _ ≤ slots * 6 * (1 / 2) := by
        gcongr
    _ = slots * 3 := by
        ring

/- They are whole tenths of an hour. -/
theorem exists_hoursPerDayFor_eq
    (cost : Rat)
    {slots : Int}
    (hSome : 0 < slots) :
    ∃ n : Int, hoursPerDayFor cost slots = n / 10 := by
  rcases exists_ratRound_eq (cost / 60 / slots * 10) with ⟨n, hWhole⟩
  refine ⟨n, ?_⟩
  rw [hoursPerDayFor_exact cost hSome, hWhole]

/- Tenths of an hour that differ are six minutes of a study day apart. -/
theorem six_minutes_apart
    {fewer more slots : Int}
    (hSome : 0 < slots)
    (hMore : (fewer : Rat) / 10 < more / 10) :
    (slots : Rat) * (fewer / 10 * 60) + slots * 6 ≤
      slots * (more / 10 * 60) := by
  have hNumber : (0 : Rat) < slots := by exact_mod_cast hSome
  have hTenths : (fewer : Rat) < more :=
    (div_lt_div_iff_of_pos_right (by norm_num)).mp hMore
  have hNext : (fewer : Rat) + 1 ≤ more := by exact_mod_cast hTenths
  calc
    (slots : Rat) * (fewer / 10 * 60) + slots * 6
      = slots * ((fewer + 1) / 10 * 60) := by ring
    _ ≤ slots * (more / 10 * 60) := by gcongr

/-
  The remedy of a shortfall is the need of the cost, up to
  three minutes of every study day.  It is a remedy just when
  the study days have the time for the cost at these hours.
  Every longer time in tenths of an hour is enough, and no
  shorter one is.
-/
theorem remedy_near
    (start finish : Date)
    (vacations : List Vacation)
    {hoursPerDay : Rat}
    {studyDays slots : Int}
    {cost : Rat}
    {s : Shortfall Rat}
    (hSlots :
      slots =
        usefulWeeks
            (buildWeeks start finish vacations hoursPerDay studyDays) *
          studyDays)
    (hSome : 0 < slots)
    (hFit : slots < 2 ^ 63)
    (hShort :
      checkPeriod cost start finish vacations hoursPerDay studyDays =
        .error s) :
    |cost - slots * (s.hoursPerDayNeeded * 60)| ≤ slots * 3 ∧
    (checkPeriod cost start finish vacations s.hoursPerDayNeeded
        studyDays = .ok () ↔
      cost ≤ slots * (s.hoursPerDayNeeded * 60) + tolerance) ∧
    (∀ tenths : Int, s.hoursPerDayNeeded < tenths / 10 →
      checkPeriod cost start finish vacations (tenths / 10) studyDays =
        .ok ()) ∧
    (∀ tenths : Int, tenths / 10 < s.hoursPerDayNeeded →
      checkPeriod cost start finish vacations (tenths / 10) studyDays ≠
        .ok ()) := by
  have hCost := tolerance_lt_of_error hSlots hShort
  have hFits := checkPeriod_ok_iff_of_tolerance_lt hSlots hCost
  have hNumber : (1 : Rat) ≤ slots := by exact_mod_cast hSome
  have hTolerance := tolerance_pos
  have hSmall : (tolerance : Rat) < 3 := by decide +kernel
  have hNear := hoursPerDayFor_near cost hSome
  rcases exists_hoursPerDayFor_eq cost hSome with ⟨n, hTenths⟩
  rw [hTenths] at hNear
  rw [hoursPerDayNeeded_of_error hSlots hSome hFit hShort, hTenths]
  have hBounds := abs_le.mp hNear
  -- the next tenths are six minutes away, and the need is at most three
  refine ⟨hNear, hFits _, ?_, ?_⟩
  · intro tenths hMore
    have hApart := six_minutes_apart hSome hMore
    rw [hFits]
    linarith
  · intro tenths hLess
    have hApart := six_minutes_apart hSome hLess
    rw [Ne, hFits, not_le]
    linarith

------------------------------------------------------------
-- A Remedy that is None
------------------------------------------------------------

/- A week is one week without vacation, at whatever hours per day. -/
theorem usefulWeeks_of_one_week (hoursPerDay : Rat) :
    usefulWeeks (buildWeeks ⟨0⟩ ⟨6⟩ [] hoursPerDay 1) = 1 := by
  rw [usefulWeeks_hours ⟨0⟩ ⟨6⟩ [] hoursPerDay 0 1]
  unfold buildWeeks
  rw [weeksFrom_eq_map]
  decide +kernel

/-
  A week with one study day has half an hour for a cost of
  sixty-one and a half minutes.  Of the tenths above the
  remedy the first is enough.
-/
theorem remedy_near_of_one_day :
    ∃ s,
      checkPeriod (123 / 2) ⟨0⟩ ⟨6⟩ [] (1 / 2) 1 = .error s ∧
      s.hoursPerDayNeeded < (11 : Int) / 10 ∧
      checkPeriod (123 / 2) ⟨0⟩ ⟨6⟩ [] ((11 : Int) / 10) 1 = .ok () := by
  have hSlots :
      (1 : Int) =
        usefulWeeks (buildWeeks ⟨0⟩ ⟨6⟩ [] (1 / 2 : Rat) 1) * 1 := by
    rw [usefulWeeks_of_one_week]
    rfl
  rcases exists_shortfall (123 / 2) hSlots (by decide +kernel) with
    ⟨s, hShort⟩
  have hLess : s.hoursPerDayNeeded < (11 : Int) / 10 := by
    rw [hoursPerDayNeeded_of_error hSlots (by decide) (by decide) hShort]
    decide +kernel
  rcases
      remedy_near ⟨0⟩ ⟨6⟩ [] hSlots (by decide) (by decide) hShort with
    ⟨_, _, hEnough, _⟩
  exact ⟨s, hShort, hLess, hEnough 11 hLess⟩

/-
  With the hour that is its remedy there is still no time for
  the cost, and the remedy is the same hour again.
-/
theorem remedy_falls_short :
    ∃ s again,
      0 < usefulWeeks (buildWeeks ⟨0⟩ ⟨6⟩ [] (1 / 2 : Rat) 1) * (1 : Int) ∧
      checkPeriod (123 / 2) ⟨0⟩ ⟨6⟩ [] (1 / 2) 1 = .error s ∧
      checkPeriod (123 / 2) ⟨0⟩ ⟨6⟩ [] s.hoursPerDayNeeded 1 =
        .error again ∧
      s.hoursPerDayNeeded = 1 ∧ again.hoursPerDayNeeded = 1 := by
  have hSlots :
      ∀ hours : Rat,
        (1 : Int) =
          usefulWeeks (buildWeeks ⟨0⟩ ⟨6⟩ [] hours 1) * 1 := by
    intro hours
    rw [usefulWeeks_of_one_week]
    rfl
  have hHour : hoursPerDayFor (123 / 2 : Rat) 1 = 1 := by
    decide +kernel
  have hNeeded :
      ∀ {hours : Rat} {s : Shortfall Rat},
        checkPeriod (123 / 2) ⟨0⟩ ⟨6⟩ [] hours 1 = .error s →
        s.hoursPerDayNeeded = 1 := by
    intro hours s hShort
    rw [hoursPerDayNeeded_of_error (hSlots hours) (by decide) (by decide)
      hShort, hHour]
  rcases exists_shortfall (123 / 2) (hSlots (1 / 2))
      (by decide +kernel) with
    ⟨s, hShort⟩
  rcases exists_shortfall (123 / 2) (hSlots 1)
      (by decide +kernel) with
    ⟨again, hAgain⟩
  refine ⟨s, again, ?_, hShort, ?_, hNeeded hShort, hNeeded hAgain⟩
  · rw [← hSlots]
    decide
  · rw [hNeeded hShort]
    exact hAgain

end Timetable.Plan
