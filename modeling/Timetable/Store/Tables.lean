import Timetable.Store.Row

/-
  This file defines the tables of the store and the changes
  that statements make to them.  Rows stand in the order in
  which they were inserted, and a row that is changed stays in
  its place; lessons stand in the order of the catalog.

  Two things are assumed that a store need not promise.  Rows
  that an order does not tell apart are answered as they were
  inserted: items with the same week and position, and plans
  created at the same moment.  The service stores no such rows
  (`Sound.itemsOfPlan_unique`).  And a column of JSON answers
  with the text that was stored; other blanks or another order
  of the keys would be read as the same vacations.

  Key definitions include:
    * `Tables`
    * `Tables.insertPlan`
    * `Tables.insertCore`
    * `Tables.patchPlan`
    * `Tables.deletePlans`
    * `Tables.insertItems`
    * `Tables.setDate`
    * `Tables.setCompleted`
    * `Tables.chooseWeekdays`
-/

namespace Timetable.Store

------------------------------------------------------------
-- Tables
------------------------------------------------------------

/- The tables of the store. -/
structure Tables where
  plans : List StudyPlan := []
  items : List ScheduleItem := []
  weekdays : List WeekdayChoice := []
  lessons : List CatalogEntry := []
  progress : List Progress := []
deriving Repr, Inhabited

namespace Tables

------------------------------------------------------------
-- Changes to Plans
------------------------------------------------------------

/- Insert a whole plan. -/
def insertPlan
    (p : StudyPlan)
    (t : Tables) : Tables :=
  { t with plans := t.plans ++ [p] }

/-
  The plan that remains when only the columns are stored that
  every revision of the store knows.
-/
def corePlan (p : StudyPlan) : StudyPlan :=
  { p with
    courseId := none, vacations := some "[]", minPriority := 1,
    frontOrder := none, moduleIds := none, excludeCompleted := false,
    playbackSpeed := 1 }

/- Insert the core columns of a plan. -/
def insertCore
    (p : StudyPlan)
    (t : Tables) : Tables :=
  t.insertPlan (corePlan p)

/- Overwrite the columns of a row that the core insert leaves out. -/
def patchRow
    (p row : StudyPlan) : StudyPlan :=
  { row with
    courseId := p.courseId,
    vacations := some (p.vacations.getD StudyPlan.noVacations),
    minPriority := p.minPriority, frontOrder := p.frontOrder,
    moduleIds := p.moduleIds, excludeCompleted := p.excludeCompleted,
    playbackSpeed := p.playbackSpeed, updatedAt := p.updatedAt }

/- Overwrite the extended columns of the plan with the same id. -/
def patchPlan
    (p : StudyPlan)
    (t : Tables) : Tables :=
  { t with
    plans := t.plans.map (fun row => if row.id == p.id then patchRow p row else row) }

/-
  Delete the plans that satisfy a condition, and with them
  the items and weekdays that belong to them.
-/
def deletePlans
    (doomed : StudyPlan → Bool)
    (t : Tables) : Tables :=
  let ids := (t.plans.filter doomed).map (·.id)
  { t with
    plans := t.plans.filter (fun p => !doomed p)
    items := t.items.filter (fun i => !ids.contains i.planId)
    weekdays := t.weekdays.filter (fun c => !ids.contains c.planId) }

------------------------------------------------------------
-- Changes to Items and Weekdays
------------------------------------------------------------

/- Append items. -/
def insertItems
    (items : List ScheduleItem)
    (t : Tables) : Tables :=
  { t with items := t.items ++ items }

/- Set the date of the item with an id, which keeps its place among the rows. -/
def setDate
    (id : String)
    (date : Timestamp)
    (t : Tables) : Tables :=
  { t with
    items := t.items.map (fun i =>
      if i.id == id then { i with scheduledDate := some date } else i) }

/- An item is the one with an id in a plan. -/
def isItemOf
    (planId id : String)
    (i : ScheduleItem) : Bool :=
  i.id == id && i.planId == planId

/- Mark an item of a plan as completed or open. -/
def setCompleted
    (planId id : String)
    (completed : Bool)
    (moment : Option Timestamp)
    (t : Tables) : Tables :=
  { t with
    items := t.items.map (fun i =>
      if isItemOf planId id i then
        { i with completed := completed, completedAt := moment }
      else i) }

/- Replace the weekdays chosen for a plan. -/
def chooseWeekdays
    (c : WeekdayChoice)
    (t : Tables) : Tables :=
  { t with weekdays := t.weekdays.filter (fun old => old.planId != c.planId) ++ [c] }

------------------------------------------------------------
-- Questions
------------------------------------------------------------

/- The plans with an id. -/
def plansWithId
    (id : String)
    (t : Tables) : List StudyPlan :=
  t.plans.filter (fun p => p.id == id)

/- The plans of an owner, the youngest first. -/
def plansOfOwner
    (owner : String)
    (t : Tables) : List StudyPlan :=
  (t.plans.filter (fun p => p.ownerId == owner)).mergeSort
    (fun a b => decide (b.createdAt.instant ≤ a.createdAt.instant))

/- The items of a plan, by week and position; ties are assumed to be answered as inserted. -/
def itemsOfPlan
    (planId : String)
    (t : Tables) : List ScheduleItem :=
  inOrder (t.items.filter (fun i => i.planId == planId))

/- The weekdays chosen for a plan. -/
def choicesOfPlan
    (planId : String)
    (t : Tables) : List WeekdayChoice :=
  t.weekdays.filter (fun c => c.planId == planId)

/- The lessons that a filter chooses. -/
def chosenLessons
    (f : LessonFilter)
    (t : Tables) : List (Plan.Lesson Float) :=
  (t.lessons.filter f.chooses).map (·.toLesson)

/- The lessons with one of some ids. -/
def lessonsWithIds
    (ids : List String)
    (t : Tables) : List (Plan.Lesson Float) :=
  (t.lessons.filter (fun e => ids.contains e.id)).map (·.toLesson)

/- The lessons that a learner has completed, in a course or in all of them. -/
def completedLessons
    (owner course : String)
    (t : Tables) : List String :=
  (t.progress.filter (fun p =>
    p.ownerId == owner && p.completed && (course == "" || p.courseId == course))).map
      (·.lessonId)

end Tables

end Timetable.Store
