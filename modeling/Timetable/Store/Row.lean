import Timetable.Calendar.Timestamp
import Timetable.Plan.Lesson

/-
  This file defines what the store keeps: study plans, the
  items scheduled in them, the weekdays chosen for them, the
  lessons of the catalog, and the progress of learners.

  Key definitions include:
    * `StudyPlan`
    * `ScheduleItem`
    * `WeekdayChoice`
    * `CatalogEntry`
    * `Progress`
    * `LessonFilter`
-/

namespace Timetable.Store

------------------------------------------------------------
-- Plans
------------------------------------------------------------

/-
  A study plan.  The vacations are a JSON text, assumed to be
  read back as it was stored, and lists that were never given
  are told apart from empty ones.
-/
structure StudyPlan where
  id : String
  ownerId : String
  courseId : Option String
  name : String
  startDate : Timestamp
  endDate : Timestamp
  daysPerWeek : Int
  hoursPerDay : Float
  vacations : Option String
  minPriority : Int
  mode : String
  subjectIds : Option (List String)
  frontOrder : Option (List String)
  moduleIds : Option (List String)
  excludeCompleted : Bool
  playbackSpeed : Float
  createdAt : Timestamp
  updatedAt : Timestamp
deriving Repr, Inhabited

/- A plan without any content. -/
def StudyPlan.blank : StudyPlan :=
  { id := "", ownerId := "", courseId := none, name := "",
    startDate := Timestamp.unset, endDate := Timestamp.unset,
    daysPerWeek := 0, hoursPerDay := 0, vacations := none,
    minPriority := 0, mode := "", subjectIds := none,
    frontOrder := none, moduleIds := none, excludeCompleted := false,
    playbackSpeed := 0, createdAt := Timestamp.unset,
    updatedAt := Timestamp.unset }

/- The text of vacations that a plan does not have. -/
def StudyPlan.noVacations : String :=
  "\x7b\x7d"

/- A plan as it is read back: vacations that were not stored read as an object. -/
def StudyPlan.asRead (p : StudyPlan) : StudyPlan :=
  { p with vacations := some (p.vacations.getD noVacations) }

------------------------------------------------------------
-- Items and Weekdays
------------------------------------------------------------

/- A lesson scheduled in a week of a plan. -/
structure ScheduleItem where
  id : String
  planId : String
  lessonId : String
  week : Int
  position : Int
  completed : Bool
  completedAt : Option Timestamp
  scheduledDate : Option Timestamp
deriving DecidableEq, Repr, Inhabited

/- An item without any content. -/
def ScheduleItem.blank : ScheduleItem :=
  ⟨"", "", "", 0, 0, false, none, none⟩

/- An item comes no later than another one, by week and position. -/
def ScheduleItem.before (a b : ScheduleItem) : Bool :=
  decide (a.week < b.week) ||
    (decide (a.week = b.week) && decide (a.position ≤ b.position))

/- Items in the order of week and position; equal ones keep their order. -/
def inOrder (items : List ScheduleItem) : List ScheduleItem :=
  items.mergeSort ScheduleItem.before

/- The weekdays chosen for a plan. -/
structure WeekdayChoice where
  planId : String
  weekdays : Option (List Int)
  updatedAt : Timestamp
deriving DecidableEq, Repr, Inhabited

/- A choice without any content. -/
def WeekdayChoice.blank : WeekdayChoice :=
  ⟨"", none, Timestamp.unset⟩

/- The chosen weekdays as a list. -/
def WeekdayChoice.days (c : WeekdayChoice) : List Int :=
  c.weekdays.getD []

------------------------------------------------------------
-- Catalog
------------------------------------------------------------

/- A lesson of the catalog and the course it belongs to. -/
structure CatalogEntry extends Plan.Lesson Float where
  courseId : String
deriving Repr

/- A learner's progress with a lesson. -/
structure Progress where
  ownerId : String
  lessonId : String
  courseId : String
  completed : Bool
deriving DecidableEq, Repr

/- The lessons a plan is made from; absent conditions choose all. -/
structure LessonFilter where
  subjectIds : List String
  courseId : String
  moduleIds : List String
  minPriority : Int
deriving DecidableEq, Repr

/- A lesson of the catalog is chosen by a filter.  Priority 0 is never chosen. -/
def LessonFilter.chooses
    (f : LessonFilter)
    (e : CatalogEntry) : Bool :=
  f.subjectIds.contains e.subjectId &&
    decide (e.priority ≠ 0) &&
    (decide (f.minPriority ≤ 0) || decide (f.minPriority ≤ e.priority)) &&
    (f.courseId == "" || e.courseId == f.courseId) &&
    (f.moduleIds.isEmpty || f.moduleIds.contains e.moduleId)

end Timetable.Store
