import Timetable.Plan.Dating
import Timetable.Records.Items
import Timetable.Records.Weekdays

/-
  This file gives dates to the items of a plan and writes
  those that changed.  A date that cannot be written does not
  stop the others.

  Key definitions include:
    * `DateRun`
    * `writeDates`
    * `applyDates`
    * `effectiveWeekdays`
-/

namespace Timetable.Service

open Plan Store

------------------------------------------------------------
-- Runs
------------------------------------------------------------

/-
  What became of a run over the items: the items with their
  dates, how many were written and how many could not be, and
  why the run ended early.
-/
structure DateRun where
  items : List ScheduleItem
  updated : Nat := 0
  failed : Nat := 0
  stopped : Option Failure := none

/- The place of an item in its plan. -/
def slotOf (i : ScheduleItem) : Slot :=
  ⟨i.id, i.week, i.position⟩

/- The date of the item with an id; of several items the last one counts. -/
def dateOf?
    (items : List ScheduleItem)
    (id : String) : Option Timestamp :=
  (items.reverse.find? (fun i => i.id == id)).bind (·.scheduledDate)

/- Date the first item with an id. -/
private def dateFirst
    (id : String)
    (date : Timestamp) : List ScheduleItem → List ScheduleItem
| [] => []
| i :: rest =>
    if i.id == id then { i with scheduledDate := some date } :: rest
    else i :: dateFirst id date rest

/- Date the item with an id; of several items the last one counts. -/
def dateItem
    (id : String)
    (date : Timestamp)
    (items : List ScheduleItem) : List ScheduleItem :=
  (dateFirst id date items.reverse).reverse

/- An item already has the calendar day of a date. -/
def hasDay
    (items : List ScheduleItem)
    (id : String)
    (date : Date) : Bool :=
  match dateOf? items id with
  | some moment => moment.date == date
  | none => false

/- Write the dates that differ, until the request ends. -/
def writeDates : List DatedSlot → DateRun → Act DateRun
| [], run => return run
| d :: rest, run => do
    match (← get).context.failure? with
    | some f => return { run with stopped := some f }
    | none =>
        if hasDay run.items d.slot.id d.date then
          writeDates rest run
        else
          let date := Timestamp.ofDate d.date
          match ← Act.attempt (Records.setItemDate d.slot.id date) with
          | .ok () =>
              writeDates rest
                { run with
                  items := dateItem d.slot.id date run.items
                  updated := run.updated + 1 }
          | .error _ =>
              Act.note .warn "schedule item date update failed"
              writeDates rest { run with failed := run.failed + 1 }

/- Give dates to the items of a plan, and write those that changed. -/
def applyDates
    (plan : StudyPlan)
    (items : List ScheduleItem)
    (weekdays : List Int) : Act DateRun := do
  match assignDates (items.map slotOf) plan.startDate.date weekdays with
  | .error e => return { items := items, stopped := some (.plain e.message) }
  | .ok dated =>
      let run ← writeDates dated { items := items }
      Act.measure (·.recordDateUpdates run.updated run.failed)
      return run

------------------------------------------------------------
-- Weekdays
------------------------------------------------------------

/-
  The weekdays of a plan, and whether they are the usual ones
  because none or no valid ones were chosen.
-/
def effectiveWeekdays (plan : StudyPlan) : Act (List Int × Bool) := do
  let usual := defaultWeekdays plan.daysPerWeek
  match ← Act.attempt (Records.findWeekdays plan.id) with
  | .error f =>
      if f.hasSentinel .noRows then
        return (usual, true)
      throw (.wrap .internal "failed to load weekday distribution" f)
  | .ok choice =>
      match normalizeWeekdays choice.days with
      | .ok days => return (days, false)
      | .error _ =>
          Act.note .warn "stored weekday distribution invalid, using default"
          return (usual, true)

end Timetable.Service
