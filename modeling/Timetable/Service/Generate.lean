import Timetable.Plan.Statistics
import Timetable.Service.Content
import Timetable.Service.Dates
import Timetable.Service.Persistence

/-
  This file generates study plans.

  Key definitions include:
    * `PlanView`
    * `arrange`
    * `buildPlan`
    * `storePlan`
    * `composePlan`
    * `generatePlan`
    * `generate`
-/

namespace Timetable.Service

open Plan Store

------------------------------------------------------------
-- Views
------------------------------------------------------------

/- A plan as clients see it. -/
structure PlanView where
  plan : StudyPlan
  items : List ScheduleItem
  weekdays : List Int
  statistics : Option (Statistics Float)
  datesAssigned : Bool

------------------------------------------------------------
-- Arranging Lessons
------------------------------------------------------------

/- The week table of a request. -/
def weekTable
    (r : GenerateRequest)
    (input : GenerationInput) : List (Week Float) :=
  buildWeeks input.start input.finish input.vacations r.hoursPerDay r.daysPerWeek

/- What a client is told about a shortfall. -/
def shortfallFailure (s : Shortfall Float) : Failure :=
  .caused { Problem.insufficientTime with details := shortfallDetails s } (.shortfall s)

/- Distribute lessons over weeks; there has to be some that can be scheduled. -/
def arrange
    (r : GenerateRequest)
    (input : GenerationInput)
    (weeks : List (Week Float))
    (content : List (CostedLesson Float)) : Except Failure (Distribution Float) :=
  let frontOrder := if input.mode = .sequential then r.frontOrder.getD [] else []
  match distribute content weeks input.mode frontOrder with
  | .error e => .error (.wrap .validation "no lessons to distribute" (.plain e.message))
  | .ok d =>
      if d.assignments.isEmpty then
        .error (.because .validation
          "no lessons could be scheduled with the selected configuration")
      else .ok d

------------------------------------------------------------
-- Building the Rows
------------------------------------------------------------

/- The text that vacations are stored as. -/
def vacationsText (vacations : List Vacation) : String :=
  (Json.arr (vacations.map (fun v =>
    .obj [("start", .str v.start.render), ("end", .str v.finish.render)]))).render

/- A list, unless it is empty. -/
private def nonEmpty (xs : List String) : Option (List String) :=
  if xs.isEmpty then none else some xs

/- The row of a new plan. -/
def buildPlan
    (id owner : String)
    (r : GenerateRequest)
    (input : GenerationInput) : StudyPlan :=
  let name := Text.trim r.name
  { StudyPlan.blank with
    id := id
    ownerId := owner
    name :=
      if name == "" then "Study plan " ++ r.startDate ++ " to " ++ r.endDate else name
    startDate := .ofDate input.start
    endDate := .ofDate input.finish
    daysPerWeek := r.daysPerWeek
    hoursPerDay := r.hoursPerDay
    vacations := some (vacationsText input.vacations)
    minPriority := r.minPriority
    mode := input.mode.name
    subjectIds := r.subjectIds
    excludeCompleted := r.excludeCompleted
    playbackSpeed := input.speed
    courseId := if r.courseId == "" then none else some r.courseId
    moduleIds := nonEmpty (r.moduleIds.getD [])
    frontOrder :=
      if input.mode = .sequential then nonEmpty (r.frontOrder.getD []) else none }

/- The row of a new item. -/
def buildItem
    (id planId : String)
    (a : Assignment Float) : ScheduleItem :=
  { ScheduleItem.blank with
    id := id, planId := planId, lessonId := a.lessonId,
    week := a.week, position := a.position }

/- The rows of new items, each with an id of its own. -/
def buildItems
    (planId : String) :
    List (Assignment Float) → Act (List ScheduleItem)
| [] => return []
| a :: rest => do
    let id ← Act.newId
    let rest ← buildItems planId rest
    return buildItem id planId a :: rest

------------------------------------------------------------
-- Generating
------------------------------------------------------------

/- The job that dates the items of a plan, which has the id of the plan. -/
def dateOffer (plan : StudyPlan) : JobOffer :=
  { id := plan.id, payload := ⟨plan.id, plan.ownerId⟩ }

/- Offer a job to the queue. -/
def offer (job : JobOffer) : Act Unit :=
  modify (fun w => { w with offers := w.offers ++ [job] })

/- Offer a job that dates the items of a plan to the queue, if there is one. -/
def enqueueDateJob (plan : StudyPlan) : Act Unit := do
  let job := dateOffer plan
  match (← get).queue with
  | .absent => return ()
  | .accepting =>
      offer job
      modify (fun w => { w with jobs := w.jobs ++ [job.payload] })
  | .refusingDuplicates =>
      offer job
      Act.note .debug "date retry already queued"
  | .full =>
      offer job
      Act.note .warn "date retry not queued"

/- Store the plan that a distribution makes in place of the old one, and date its items. -/
def storePlan
    (owner : String)
    (r : GenerateRequest)
    (input : GenerationInput)
    (d : Distribution Float) : Act PlanView := do
  Act.checkContext
  let planId ← Act.newId
  let plan := buildPlan planId owner r input
  let items ← buildItems planId d.assignments
  let weekdays := defaultWeekdays r.daysPerWeek
  let (plan, items) ← persist plan items weekdays
  let run ← applyDates plan items weekdays
  let datesAssigned := run.stopped.isNone && run.failed == 0
  unless datesAssigned do
    Act.note .warn "date assignment incomplete, plan kept"
    enqueueDateJob plan
  Act.note .info "study plan generated"
  return {
    plan := plan
    items := run.items
    weekdays := weekdays
    statistics := some (summarize (weekTable r input) d.assignments d.overflow)
    datesAssigned := datesAssigned }

/- Make a plan of lessons, for which there has to be time. -/
def composePlan
    (owner : String)
    (r : GenerateRequest)
    (input : GenerationInput)
    (content : List (CostedLesson Float)) : Act PlanView := do
  let weeks := weekTable r input
  if content.isEmpty then
    throw (.because .validation
      "no eligible lessons for the selected subjects and filters")
  match checkFeasibility (totalCost content) (totalCapacity weeks) r.hoursPerDay
      r.daysPerWeek (usefulWeeks weeks) with
  | .error s =>
      Act.note .info "study plan rejected for insufficient time"
      throw (shortfallFailure s)
  | .ok () =>
      let d ← Act.resume (arrange r input weeks content)
      if 0 < d.overflow then
        Act.note .warn "lessons appended to the last study week"
      storePlan owner r input d

/- Replace the plan of the requester by a newly generated one. -/
def generatePlan
    (requester : String)
    (r : GenerateRequest) : Act PlanView := do
  let input ← Act.resume (parseRequest r)
  let owner ← Act.resume (resolveOwner requester r.ownerId)
  Act.note .debug "capacity computed"
  let content ← loadContent owner r input.speed
  composePlan owner r input content

/- The name under which the outcome of a generation is counted. -/
def outcomeName
    {α : Type} : Except Failure α → String
| .ok _ => "success"
| .error f => Text.lower f.answer.1.code

/- Generate a plan under the time limit of requests, and keep figures about it. -/
def generate
    (requester : String)
    (r : GenerateRequest) : Act PlanView := do
  let mode := if (Mode.ofName? r.mode).isSome then r.mode else "invalid"
  let limited := Act.limited (generatePlan requester r)
  let (outcome, nanos) ← Act.timed (Act.attempt (Act.restating deadlineFailure limited))
  let items := match outcome with
    | .ok view => view.items.length
    | .error _ => 0
  Act.measure (·.observeGeneration mode (outcomeName outcome) nanos items)
  Act.resume outcome

end Timetable.Service
