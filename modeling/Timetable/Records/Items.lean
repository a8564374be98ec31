import Timetable.Records.Plans

/-
  This file keeps schedule items in the store.

  Key definitions include:
    * `batchSize`
    * `batches`
    * `insertItems`
    * `listItems`
    * `setItemDate`
    * `setItemCompleted`
-/

namespace Timetable.Records

open Store

------------------------------------------------------------
-- Writing Items
------------------------------------------------------------

/- Items are inserted in statements of at most this many. -/
def batchSize : Nat :=
  500

/- Cut a list into pieces of the batch size; the last one may be shorter. -/
def batches
    {α : Type}
    (xs : List α) : List (List α) :=
  match xs with
  | [] => []
  | x :: rest =>
      (x :: rest).take batchSize :: batches ((x :: rest).drop batchSize)
termination_by xs.length
decreasing_by
  simp only [List.length_drop, List.length_cons, batchSize]
  omega

/- Give an id to every item without one; each item needs a plan. -/
def completeItems :
    Nat → List ScheduleItem → Act (List ScheduleItem)
| _, [] => return []
| n, item :: rest => do
    let id ← if item.id == "" then Act.newId else pure item.id
    if item.planId == "" then
      throw (.plain ("schedule item " ++ toString n ++ " has no plan_id"))
    let rest ← completeItems (n + 1) rest
    return { item with id := id } :: rest

/- Insert batches until one is refused. -/
def insertBatches : List (List ScheduleItem) → Act Unit
| [] => return ()
| batch :: rest => do
    discard (Act.restating (classify "insert schedule items")
      (perform (.insertItems batch)))
    insertBatches rest

/- Insert items; the answer is the items with their ids. -/
def insertItems (items : List ScheduleItem) : Act (List ScheduleItem) := do
  let items ← completeItems 0 items
  insertBatches (batches items)
  return items

------------------------------------------------------------
-- Reading and Changing Items
------------------------------------------------------------

/- The items of a plan by week and position. -/
def listItems (planId : String) : Act (List ScheduleItem) :=
  Act.restating (.during "list schedule items") (fetch (.itemsOfPlan planId))

/- Set the date of an item, which must be there. -/
def setItemDate
    (id : String)
    (date : Timestamp) : Act Unit := do
  let outcome ← Act.restating (.during "update schedule item date")
    (perform (.setDate id date))
  let touched ← touchedRows "schedule item rows affected" outcome
  if touched == 0 then
    throw (.sentinel .noRows)

/- Mark an item of a plan as completed or open; the answer is the new row. -/
def setItemCompleted
    (planId id : String)
    (completed : Bool)
    (moment : Option Timestamp) : Act ScheduleItem :=
  fetchOne (.complete planId id completed moment)

end Timetable.Records
