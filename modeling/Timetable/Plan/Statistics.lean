import Timetable.Plan.Distribution

/-
  This file sums up a plan.

  Key definitions include:
    * `Statistics`
    * `summarize`
-/

namespace Timetable.Plan

------------------------------------------------------------
-- Statistics
------------------------------------------------------------

/- The figures of a plan. -/
structure Statistics (α : Type) where
  totalItems : Nat
  totalWeeks : Nat
  usefulWeeks : Nat
  totalCapacity : α
  totalCost : α
  frontsTouched : Nat
  forcedItems : Nat
  overflowItems : Int
deriving Repr

variable {α : Type} [Scalar α]

/- The distinct elements of a list, in order of first appearance. -/
def distinct (xs : List String) : List String :=
  xs.foldl (fun seen x => if seen.contains x then seen else seen ++ [x]) []

/- The figures of a week table and the assignments made in it. -/
def summarize
    (weeks : List (Week α))
    (assignments : List (Assignment α))
    (overflow : Int) : Statistics α :=
  { totalItems := assignments.length
    totalWeeks := weeks.length
    usefulWeeks := usefulWeeks weeks
    totalCapacity := totalCapacity weeks
    totalCost := Scalar.sum (assignments.map (·.cost))
    frontsTouched := (distinct (assignments.map (·.frontId))).length
    forcedItems := assignments.countP (·.forced)
    overflowItems := overflow }

end Timetable.Plan
