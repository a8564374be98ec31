import Timetable.Records.Transaction

/-
  This file keeps the weekdays chosen for plans in the store.

  Key definitions include:
    * `saveWeekdays`
    * `findWeekdays`
-/

namespace Timetable.Records

open Store

------------------------------------------------------------
-- Chosen Weekdays
------------------------------------------------------------

/- Store the weekdays chosen for a plan in place of earlier ones. -/
def saveWeekdays : Option WeekdayChoice → Act Unit
| none => throw (.plain "plan_id is required")
| some choice => do
    if choice.planId == "" then
      throw (.plain "plan_id is required")
    let moment ← Act.now
    discard (Act.restating (classify "upsert weekday distribution")
      (perform (.chooseWeekdays { choice with updatedAt := moment })))

/- The weekdays chosen for a plan. -/
def findWeekdays (planId : String) : Act WeekdayChoice :=
  fetchOne (.weekdaysOfPlan planId)

end Timetable.Records
