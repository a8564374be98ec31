import Timetable.Decimal.Layout
import Timetable.Plan.Week

/-
  This file compares the cost of the chosen lessons with the
  capacity of the period, and reports a shortfall with the
  figures that tell how to mend it.

  Key definitions include:
    * `tolerance`
    * `Shortfall`
    * `Shortfall.ofFigures`
    * `checkFeasibility`
    * `Shortfall.message`
-/

namespace Timetable.Plan

------------------------------------------------------------
-- Shortfalls
------------------------------------------------------------

/- The hours that are missing, and the hours per day that would suffice. -/
structure Shortfall (α : Type) where
  hoursNeeded : Int
  hoursAvailable : Int
  hoursPerDayNeeded : α
  hoursPerDay : α
deriving Repr

variable {α : Type} [Scalar α]

/- Sums of minutes may exceed a limit by this much. -/
def tolerance : α :=
  Scalar.decimal 1 9

/- The number of study days of a period, in 64-bit arithmetic. -/
def studySlots
    (usefulWeeks studyDays : Int) : Int :=
  Int.bmod (usefulWeeks * studyDays) Decimal.int64Count

/- The hours per study day that a cost asks for, to one decimal place. -/
def hoursPerDayFor
    (totalCost : α)
    (slots : Int) : α :=
  if 0 < slots then
    Scalar.roundHalfAway
        (totalCost / minutesPerHour / Scalar.ofInt slots * Scalar.ofInt 10) /
      Scalar.ofInt 10
  else
    Scalar.zero

/- The figures of a shortfall. -/
def Shortfall.ofFigures
    (totalCost totalCapacity hoursPerDay : α)
    (studyDays usefulWeeks : Int) : Shortfall α :=
  { hoursNeeded := Scalar.ceiling (totalCost / minutesPerHour)
    hoursAvailable := Scalar.ceiling (totalCapacity / minutesPerHour)
    hoursPerDayNeeded := hoursPerDayFor totalCost (studySlots usefulWeeks studyDays)
    hoursPerDay := hoursPerDay }

/- Accept a cost that the capacity covers; report a shortfall otherwise. -/
def checkFeasibility
    (totalCost totalCapacity hoursPerDay : α)
    (studyDays usefulWeeks : Int) : Except (Shortfall α) Unit :=
  if totalCost ≤ totalCapacity + tolerance then
    .ok ()
  else
    .error
      (Shortfall.ofFigures totalCost totalCapacity hoursPerDay studyDays usefulWeeks)

omit [Scalar α] in
/- The wording of a shortfall. -/
def Shortfall.message (s : Shortfall Float) : String :=
  "insufficient study time: need " ++ toString s.hoursNeeded ++ "h, have " ++
    toString s.hoursAvailable ++ "h (" ++ Decimal.fixed 1 s.hoursPerDayNeeded ++
    "h/day needed, " ++ Decimal.fixed 1 s.hoursPerDay ++ "h/day planned)"

end Timetable.Plan
