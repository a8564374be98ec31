import Timetable.Calendar.Date
import Timetable.Plan.Scalar

/-
  This file splits a study period into weeks and gives each
  week its capacity.

  Key definitions include:
    * `Vacation`
    * `Week`
    * `Vacation.touches`
    * `weeklyMinutes`
    * `buildWeeks`
    * `totalCapacity`
    * `usefulWeeks`
-/

namespace Timetable.Plan

------------------------------------------------------------
-- Weeks and Vacations
------------------------------------------------------------

/- A stretch of days without study, both ends included. -/
structure Vacation where
  start : Date
  finish : Date
deriving DecidableEq, Repr

/- One bucket of seven days; the last one of a period may be shorter. -/
structure Week (α : Type) where
  number : Int
  start : Date := Date.unset
  finish : Date := Date.unset
  isVacation : Bool
  capacity : α
deriving Repr

/- A day lies within a vacation. -/
def Vacation.covers
    (v : Vacation)
    (d : Date) : Bool :=
  decide (v.start ≤ d) && decide (d ≤ v.finish)

/-
  A vacation touches a week when it covers one of the week's
  ends, or lies inside the week.
-/
def Vacation.touches
    (v : Vacation)
    (start finish : Date) : Bool :=
  v.covers start || v.covers finish ||
    (decide (start ≤ v.start) && decide (v.finish ≤ finish))

------------------------------------------------------------
-- Capacity
------------------------------------------------------------

variable {α : Type} [Scalar α]

/- Minutes of an hour. -/
def minutesPerHour : α :=
  Scalar.ofInt 60

/- The minutes of a week with study, never below zero. -/
def weeklyMinutes
    (hoursPerDay : α)
    (studyDays : Int) : α :=
  let minutes := hoursPerDay * Scalar.ofInt studyDays * minutesPerHour
  if minutes < Scalar.zero then Scalar.zero else minutes

/- The week that starts on a day of a period. -/
def weekAt
    (finish : Date)
    (vacations : List Vacation)
    (minutes : α)
    (cursor : Date)
    (number : Int) : Week α :=
  let weekEnd := Date.earlier (cursor.addDays 6) finish
  let isVacation := vacations.any (fun v => v.touches cursor weekEnd)
  { number := number
    start := cursor
    finish := weekEnd
    isVacation := isVacation
    capacity := if isVacation then Scalar.zero else minutes }

/- The weeks of a period from a day on. -/
def weeksFrom
    (finish : Date)
    (vacations : List Vacation)
    (minutes : α)
    (cursor : Date)
    (number : Int) : List (Week α) :=
  if finish < cursor then []
  else
    weekAt finish vacations minutes cursor number ::
      weeksFrom finish vacations minutes (cursor.addDays 7) (number + 1)
termination_by (finish.day + 1 - cursor.day).toNat
decreasing_by
  rename_i h
  have hle : ¬ finish.day < cursor.day := h
  simp only [Date.addDays]
  omega

/-
  The weeks of a period, numbered from one.  A week that a
  vacation touches has no capacity, and a shorter last week
  has the capacity of a full one.
-/
def buildWeeks
    (start finish : Date)
    (vacations : List Vacation)
    (hoursPerDay : α)
    (studyDays : Int) : List (Week α) :=
  weeksFrom finish vacations (weeklyMinutes hoursPerDay studyDays) start 1

/- The capacities of weeks, added in order. -/
def totalCapacity (weeks : List (Week α)) : α :=
  Scalar.sum (weeks.map (·.capacity))

omit [Scalar α] in
/- How many weeks are no vacation weeks. -/
def usefulWeeks (weeks : List (Week α)) : Nat :=
  weeks.countP (fun w => !w.isVacation)

end Timetable.Plan
