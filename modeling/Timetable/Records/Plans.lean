import Timetable.Records.Transaction

/-
  This file keeps study plans in the store.

  Key definitions include:
    * `prepare`
    * `createPlan`
    * `createCorePlan`
    * `patchPlan`
    * `findPlan`
    * `findPlanOfOwner`
    * `deletePlansOfOwner`
    * `deletePlan`
-/

namespace Timetable.Records

open Store

------------------------------------------------------------
-- Writing Plans
------------------------------------------------------------

/- Fill in what a plan lacks before it is stored. -/
def prepare : Option StudyPlan → Act StudyPlan
| none => throw (.plain "study plan payload is nil")
| some plan => do
    if plan.ownerId == "" then
      throw (.plain "owner_id is required")
    let id ← if plan.id == "" then Act.newId else pure plan.id
    let moment ← Act.now
    return { plan with
      id := id
      vacations := some (plan.vacations.getD "[]")
      createdAt := if plan.createdAt.isUnset then moment else plan.createdAt
      updatedAt := moment }

/-
  Insert a plan.  The answer is the plan as it was sent, and
  whether the store took it.
-/
def createPlan
    (scope : Scope)
    (plan : Option StudyPlan) : Act (StudyPlan × Except Failure Unit) := do
  let plan ← prepare plan
  let outcome ← Act.attempt
    (behindSavepoint scope "study_plan_insert"
      (Act.restating (classify "insert study plan")
        (discard (perform (.insertPlan plan)))))
  return (plan, outcome)

/- Insert the core columns of a plan. -/
def createCorePlan
    (scope : Scope)
    (plan : Option StudyPlan) : Act (StudyPlan × Except Failure Unit) := do
  let plan ← prepare plan
  let outcome ← Act.attempt
    (behindSavepoint scope "study_plan_insert_degraded"
      (Act.restating (classify "insert degraded study plan")
        (discard (perform (.insertCore plan)))))
  return (plan, outcome)

/- Write the columns that the core insert leaves out. -/
def patchPlan
    (scope : Scope)
    (plan : Option StudyPlan) : Act (StudyPlan × Except Failure Unit) := do
  match plan with
  | none => throw (.plain "study plan id is required")
  | some plan =>
      if plan.id == "" then
        throw (.plain "study plan id is required")
      let moment ← Act.now
      let plan := { plan with updatedAt := moment }
      let outcome ← Act.attempt
        (behindSavepoint scope "study_plan_patch"
          (Act.restating (classify "patch study plan")
            (discard (perform (.patchPlan plan)))))
      return (plan, outcome)

------------------------------------------------------------
-- Reading and Deleting Plans
------------------------------------------------------------

/- The plan with an id. -/
def findPlan (id : String) : Act StudyPlan :=
  fetchOne (.planById id)

/- The active plan of an owner. -/
def findPlanOfOwner (owner : String) : Act StudyPlan :=
  fetchOne (.planOfOwner owner)

/- The number of rows that a change touched. -/
def touchedRows
    (label : String)
    (outcome : Except Failure Nat) : Act Nat :=
  Act.restating (.during label) (Act.resume outcome)

/- Delete the plans of an owner with all that belongs to them. -/
def deletePlansOfOwner (owner : String) : Act Nat := do
  let outcome ← Act.restating (.during "delete study plans by owner")
    (perform (.deleteOwned owner))
  touchedRows "study plan rows affected" outcome

/- Delete a plan of an owner with all that belongs to it. -/
def deletePlan (id owner : String) : Act Unit := do
  let outcome ← Act.restating (.during "delete study plan")
    (perform (.deletePlan id owner))
  let touched ← touchedRows "study plan rows affected" outcome
  if touched == 0 then
    throw (.sentinel .noRows)

end Timetable.Records
