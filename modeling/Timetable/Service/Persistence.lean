import Timetable.Records.Items
import Timetable.Records.Weekdays

/-
  This file replaces the plan of an owner by a new one, in
  one transaction: either everything is stored, or nothing
  changes.

  Key definitions include:
    * `storeFailure`
    * `deadlineFailure`
    * `createReducedPlan`
    * `createPlan`
    * `writePlan`
    * `replacePlan`
    * `persist`
-/

namespace Timetable.Service

open Store

------------------------------------------------------------
-- Failures of the Store
------------------------------------------------------------

/- What a client is told about a failure of the store. -/
def storeFailure
    (message : String)
    (f : Failure) : Failure :=
  if f.hasSentinel .duplicate then
    .wrap .conflict "a study plan for this owner already exists" f
  else if f.hasSentinel .transient then
    .wrap .transientStore message f
  else
    .wrap .internal message f

/- A missed deadline is a failure that may be tried again. -/
def deadlineFailure (f : Failure) : Failure :=
  if f.hasSentinel .deadline then .caused .timeout f else f

------------------------------------------------------------
-- Storing a Plan
------------------------------------------------------------

/- What a client is told when a plan cannot be created. -/
private def creationFailure : Failure → Failure :=
  storeFailure "failed to create study plan"

/- Insert the core columns of a plan, and write the others if that is possible. -/
def createReducedPlan (plan : StudyPlan) : Act StudyPlan := do
  let (plan, outcome) ← Act.restating creationFailure
    (Records.createCorePlan .transaction (some plan))
  Act.restating creationFailure (Act.resume outcome)
  match ← Act.attempt (Records.patchPlan .transaction (some plan)) with
  | .ok (plan, .ok ()) => return plan
  | .ok (plan, .error _) =>
      Act.note .warn "study plan extended columns not saved"
      return plan
  | .error _ =>
      Act.note .warn "study plan extended columns not saved"
      return plan

/-
  Insert a plan.  When the store does not know all columns,
  the plan is reduced to those that it knows.
-/
def createPlan (plan : StudyPlan) : Act StudyPlan := do
  let (plan, outcome) ← Act.restating creationFailure
    (Records.createPlan .transaction (some plan))
  match outcome with
  | .ok () => return plan
  | .error f =>
      unless f.hasSentinel .transient do
        throw (creationFailure f)
      Act.note .warn "study plan insert rejected, retrying with core columns"
      createReducedPlan plan

/- Write a plan in place of those of its owner; the answer is the plan and items as stored. -/
def writePlan
    (plan : StudyPlan)
    (items : List ScheduleItem)
    (weekdays : List Int) : Act (StudyPlan × List ScheduleItem) := do
  discard (Act.restating (storeFailure "failed to remove previous study plan")
    (Records.deletePlansOfOwner plan.ownerId))
  let plan ← createPlan plan
  let items ← Act.restating (storeFailure "failed to persist schedule items")
    (Records.insertItems (items.map (fun i => { i with planId := plan.id })))
  Act.restating (storeFailure "failed to persist weekday distribution")
    (Records.saveWeekdays
      (some { planId := plan.id, weekdays := some weekdays, updatedAt := .unset }))
  return (plan, items)

/- The statements of the transaction. -/
def replacePlan
    (plan : StudyPlan)
    (items : List ScheduleItem)
    (weekdays : List Int) : Act (StudyPlan × List ScheduleItem) := do
  let stored ← writePlan plan items weekdays
  Act.restating (.wrap .internal "failed to commit study plan") Records.commit
  return stored

/- Open a transaction and replace the plan of an owner in it. -/
def transact
    (plan : StudyPlan)
    (items : List ScheduleItem)
    (weekdays : List Int) : Act (StudyPlan × List ScheduleItem) := do
  Act.restating (.wrap .internal "failed to begin transaction") Records.start
  Records.inTransaction (replacePlan plan items weekdays)

/- Replace the plan of an owner. -/
def persist
    (plan : StudyPlan)
    (items : List ScheduleItem)
    (weekdays : List Int) : Act (StudyPlan × List ScheduleItem) := do
  unless (← Act.settings).transactional do
    throw (.because .internal "transaction provider missing")
  let (outcome, nanos) ← Act.timed (Act.attempt (transact plan items weekdays))
  if outcome.isOk then
    Act.note .debug "study plan persisted"
  Act.measure (·.observeQuery "persist_study_plan" nanos)
  Act.resume outcome

end Timetable.Service
