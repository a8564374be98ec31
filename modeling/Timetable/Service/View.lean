import Timetable.Service.Plans

/-
  This file writes the answers of the service as JSON.

  Key definitions include:
    * `encodeStatistics`
    * `PlanView.toJson`
    * `WeekdaysView.toJson`
    * `RecalculationView.toJson`
    * `encodeItems`
-/

namespace Timetable.Service

open Plan Store

------------------------------------------------------------
-- Answers as JSON
------------------------------------------------------------

/- The figures of a plan. -/
def encodeStatistics (s : Statistics Float) : Json :=
  .obj
    [("total_items", .int s.totalItems), ("total_weeks", .int s.totalWeeks),
      ("useful_weeks", .int s.usefulWeeks),
      ("total_capacity_minutes", .float s.totalCapacity),
      ("total_cost_minutes", .float s.totalCost),
      ("fronts_touched", .int s.frontsTouched), ("forced_items", .int s.forcedItems),
      ("overflow_items", .int s.overflowItems)]

/- Items; none at all are `null`. -/
def encodeItems (items : List ScheduleItem) : Json :=
  encodeRows encodeItem items

/- Weekdays. -/
def encodeWeekdays (days : List Int) : Json :=
  .arr (days.map .int)

/- A plan with its items. -/
def PlanView.toJson (v : PlanView) : Json :=
  .obj
    ([("plan", encodePlan v.plan), ("items", encodeItems v.items),
      ("weekdays", encodeWeekdays v.weekdays)] ++
      optionalMember "statistics" (v.statistics.map encodeStatistics) ++
      [("dates_assigned", .bool v.datesAssigned)])

/- The weekdays of a plan; a count of zero is left out. -/
def WeekdaysView.toJson (v : WeekdaysView) : Json :=
  .obj
    ([("plan_id", .str v.planId), ("weekdays", encodeWeekdays v.weekdays),
      ("is_default", .bool v.isDefault)] ++
      if v.itemsUpdated == 0 then [] else [("items_updated", .int v.itemsUpdated)])

/- What became of a recalculation. -/
def RecalculationView.toJson (v : RecalculationView) : Json :=
  .obj [("success", .bool v.success), ("items_updated", .int v.itemsUpdated)]

end Timetable.Service
