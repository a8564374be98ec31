import Timetable.Export.PlanFile
import Timetable.Service.Generate

/-
  This file answers questions about plans and changes them on
  behalf of their owners.

  Key definitions include:
    * `ownedPlan`
    * `current`
    * `items`
    * `getWeekdays`
    * `setWeekdays`
    * `recalculateDates`
    * `completionMoment`
    * `completeItem`
    * `deletePlan`
    * `exportPlan`
    * `handleDateJob`
-/

namespace Timetable.Service

open Plan Store

------------------------------------------------------------
-- Owned Plans
------------------------------------------------------------

/- The plan with an id, which has to belong to the owner. -/
def ownedPlan (planId owner : String) : Act StudyPlan := do
  if owner == "" then
    throw (.problem .unauthorized)
  match ← Act.attempt (Records.findPlan planId) with
  | .error f =>
      if f.hasSentinel .noRows then
        throw (.because .notFound "study plan not found")
      throw (.wrap .internal "failed to load study plan" f)
  | .ok plan =>
      if plan.ownerId != owner then
        throw (.because .validation "study plan does not belong to the requester")
      return plan

/- The items of a plan. -/
def itemsOf (planId : String) : Act (List ScheduleItem) :=
  Act.restating (.wrap .internal "failed to load schedule items")
    (Records.listItems planId)

/- The lessons of items. -/
def lessonsOf (items : List ScheduleItem) : Act (List (Lesson Float)) :=
  Records.lessonsById (items.map (·.lessonId))

------------------------------------------------------------
-- The Active Plan
------------------------------------------------------------

/- The vacation that a stored period stands for. -/
def readPeriod (p : VacationRequest) : Except Failure Vacation :=
  match Date.read? p.start, Date.read? p.finish with
  | some start, some finish => .ok ⟨start, finish⟩
  | none, _ => .error (.plain "decode vacation start")
  | _, none => .error (.plain "decode vacation end")

/- Read the vacations of a stored plan. -/
def readStoredVacations (text : Option String) : Except Failure (List Vacation) := do
  match text with
  | none => return []
  | some text =>
      match Json.whole text with
      | .error fault => throw (.during "decode vacations" (.plain fault.message))
      | .ok v =>
          match decodeVacations v none with
          | none => throw (.during "decode vacations" (.plain "json: cannot unmarshal value"))
          | some periods => (periods.getD []).mapM readPeriod

/- The assignment that an item stands for. -/
def assignmentOf
    (lessons : List (Lesson Float))
    (speed : Float)
    (i : ScheduleItem) : Assignment Float :=
  let lesson := (Export.lessonWithId? lessons i.lessonId).getD (Lesson.blank Float)
  { lessonId := i.lessonId, frontId := lesson.frontId, week := i.week,
    position := i.position, cost := lessonCost lesson.duration speed, forced := false }

/- The figures of a stored plan; what was forced is not stored. -/
def storedStatistics
    (plan : StudyPlan)
    (items : List ScheduleItem) : Act (Statistics Float) := do
  let vacations ← Act.resume (readStoredVacations plan.vacations)
  let weeks := buildWeeks plan.startDate.date plan.endDate.date vacations
    plan.hoursPerDay plan.daysPerWeek
  let lessons ← lessonsOf items
  return summarize weeks (items.map (assignmentOf lessons plan.playbackSpeed)) 0

/- The active plan of an owner. -/
def current (owner : String) : Act PlanView := do
  if owner == "" then
    throw (.problem .unauthorized)
  match ← Act.attempt (Records.findPlanOfOwner owner) with
  | .error f =>
      if f.hasSentinel .noRows then
        throw (.because .notFound "no active study plan")
      throw (.wrap .internal "failed to load study plan" f)
  | .ok plan =>
      let items ← itemsOf plan.id
      let (weekdays, _) ← effectiveWeekdays plan
      let statistics ← Act.attempt (storedStatistics plan items)
      unless statistics.isOk do
        Act.note .warn "study plan statistics unavailable"
      return {
        plan := plan
        items := items
        weekdays := weekdays
        statistics := statistics.toOption
        datesAssigned := !items.isEmpty && items.all (·.scheduledDate.isSome) }

/- The items of an owned plan. -/
def items (planId owner : String) : Act (List ScheduleItem) := do
  let plan ← ownedPlan planId owner
  itemsOf plan.id

------------------------------------------------------------
-- Weekdays and Dates
------------------------------------------------------------

/- The weekdays of a plan as clients see them. -/
structure WeekdaysView where
  planId : String
  weekdays : List Int
  isDefault : Bool := false
  itemsUpdated : Nat := 0
deriving DecidableEq, Repr

/- The weekdays of an owned plan. -/
def getWeekdays (planId owner : String) : Act WeekdaysView := do
  let plan ← ownedPlan planId owner
  let (weekdays, isDefault) ← effectiveWeekdays plan
  return { planId := plan.id, weekdays := weekdays, isDefault := isDefault }

/- Choose weekdays for an owned plan, and date its items anew. -/
def setWeekdays
    (planId owner : String)
    (weekdays : List Int) : Act WeekdaysView :=
  Act.limited do
    match normalizeWeekdays weekdays with
    | .error e => throw (.wrap .validation e.message (.plain e.message))
    | .ok days =>
        let plan ← ownedPlan planId owner
        Act.restating
          (fun f => deadlineFailure (storeFailure "failed to save weekday distribution" f))
          (Records.saveWeekdays
            (some { planId := plan.id, weekdays := some days, updatedAt := .unset }))
        let items ← itemsOf plan.id
        let run ← applyDates plan items days
        if run.stopped.isSome then
          Act.note .warn "date recalculation after weekday change failed"
        Act.note .info "weekday distribution updated"
        return { planId := plan.id, weekdays := days, itemsUpdated := run.updated }

/- What became of a recalculation. -/
structure RecalculationView where
  success : Bool
  itemsUpdated : Nat
deriving DecidableEq, Repr

/- Date the items of an owned plan anew; only dates that change are written. -/
def recalculateDates (planId owner : String) : Act RecalculationView :=
  Act.limited do
    let plan ← ownedPlan planId owner
    let (weekdays, _) ← effectiveWeekdays plan
    let items ← itemsOf plan.id
    let run ← applyDates plan items weekdays
    match run.stopped with
    | some f =>
        throw (deadlineFailure (.wrap .internal "failed to recalculate dates" f))
    | none => return { success := run.failed == 0, itemsUpdated := run.updated }

------------------------------------------------------------
-- Other Changes
------------------------------------------------------------

/- The moment of completion, which an open item does not have. -/
def completionMoment (completed : Bool) : Act (Option Timestamp) :=
  if completed then some <$> Act.now else pure none

/- Mark an item of an owned plan as completed or open. -/
def completeItem
    (planId owner itemId : String)
    (completed : Bool) : Act ScheduleItem := do
  let plan ← ownedPlan planId owner
  let moment ← completionMoment completed
  match ← Act.attempt (Records.setItemCompleted plan.id itemId completed moment) with
  | .ok item => return item
  | .error f =>
      if f.hasSentinel .noRows then
        throw (.because .notFound "schedule item not found")
      throw (.wrap .internal "failed to update schedule item" f)

/- Delete an owned plan with all that belongs to it. -/
def deletePlan (planId owner : String) : Act Unit := do
  let plan ← ownedPlan planId owner
  match ← Act.attempt (Records.deletePlan plan.id owner) with
  | .ok () => Act.note .info "study plan deleted"
  | .error f =>
      if f.hasSentinel .noRows then
        throw (.because .notFound "study plan not found")
      throw (.wrap .internal "failed to delete study plan" f)

/- The file of an owned plan.  Without the catalog it lacks the names of lessons. -/
def exportPlan (planId owner format : String) : Act Export.ExportFile := do
  let plan ← ownedPlan planId owner
  let items ← itemsOf plan.id
  let lessons ←
    match ← Act.attempt (lessonsOf items) with
    | .ok lessons => pure lessons
    | .error _ =>
        Act.note .warn "lesson names unavailable for export"
        pure []
  let file ← Act.resume (Export.renderPlan (some plan) items lessons format)
  Act.note .debug "study plan exported"
  return file

------------------------------------------------------------
-- Jobs
------------------------------------------------------------

/-
  Do a job that dates the items of a plan.  A plan that has
  gone or changed hands is passed over; a job that leaves an
  item undated fails and has to be done again.
-/
def handleDateJob (job : DateJob) : Act Unit := do
  match ← Act.attempt (recalculateDates job.planId job.ownerId) with
  | .error f =>
      unless f.hasCode Problem.notFound.code || f.hasCode Problem.validation.code do
        throw f
  | .ok view =>
      unless view.success do
        throw (.plain ("plan " ++ job.planId ++ " still has undated items"))
      Act.note .info "deferred date assignment completed"

/- A job that is not about dates is reported and dropped. -/
def handleForeignJob : Act Unit :=
  Act.note .error "unexpected date job payload"

/- Do all recorded jobs in order; those that fail stay recorded. -/
def runJobs : Act (List (DateJob × Option Failure)) := do
  let jobs := (← get).jobs
  let results ← jobs.mapM (fun job => do
    match ← Act.attempt (handleDateJob job) with
    | .ok () => return (job, none)
    | .error f => return (job, some f))
  let left := (results.filter (fun (_, failure) => failure.isSome)).map (·.1)
  modify (fun w => { w with jobs := left })
  return results

end Timetable.Service
