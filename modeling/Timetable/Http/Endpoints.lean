import Timetable.Http.Accept
import Timetable.Http.Route
import Timetable.Metrics.Exposition
import Timetable.Service.View

/-
  This file defines what is done for requests about study
  plans, and about the health of the service.

  Key definitions include:
    * `createPlan`
    * `showCurrent`
    * `listItems`
    * `changeItem`
    * `showWeekdays`
    * `changeWeekdays`
    * `redate`
    * `download`
    * `removePlan`
    * `clearCatalog`
    * `showReadiness`
    * `showMetrics`
-/

namespace Timetable.Http

------------------------------------------------------------
-- Plans
------------------------------------------------------------

/- Replace the plan of the caller by a new one. -/
def createPlan (e : Exchange) : Act Response := do
  let request ← Act.resume
    (e.request.decode "invalid study plan payload" Service.decodeRequest {})
  let request :=
    if request.ownerId == "" then { request with ownerId := e.callerId } else request
  let view ← Service.generate e.callerId request
  return .success 201 view.toJson

/- The active plan of an owner. -/
def showPlanOf (owner : String) : Act Response := do
  let view ← Service.current owner
  return .success 200 view.toJson

/- The active plan of the caller. -/
def showCurrent (e : Exchange) : Act Response :=
  showPlanOf e.callerId

/- The active plan of the owner that the path names. -/
def showOwned (e : Exchange) : Act Response :=
  showPlanOf (e.param "ownerId")

/- The items of a plan, and how many there are. -/
def listItems (e : Exchange) : Act Response := do
  let items ← Service.items (e.param "id") e.callerId
  return .success 200 (Service.encodeItems items) [("total", .int items.length)]

/- Delete a plan. -/
def removePlan (e : Exchange) : Act Response := do
  Service.deletePlan (e.param "id") e.callerId
  return .noContent

/- The file of a plan. -/
def download (e : Exchange) : Act Response := do
  let file ← Service.exportPlan (e.param "id") e.callerId (e.request.target.value "format")
  return .attachment file

------------------------------------------------------------
-- Items
------------------------------------------------------------

/- Read whether an item is completed. -/
def decodeCompletion : Json.Decoder (Option Bool) :=
  Json.record
    [Json.field "completed" (Json.optional false Json.flag) id (fun _ v => v)]

/- Mark an item as completed, or as not completed. -/
def changeItem (e : Exchange) : Act Response := do
  let completion ← Act.resume
    (e.request.decode "invalid item payload" decodeCompletion none)
  match completion with
  | none => throw (.because .validation "completed is required")
  | some completed =>
      let item ← Service.completeItem (e.param "id") e.callerId (e.param "itemId") completed
      return .success 200 (Store.encodeItem item)

------------------------------------------------------------
-- Weekdays
------------------------------------------------------------

/- Read weekdays. -/
def decodeWeekdays : Json.Decoder (Option (List Int)) :=
  Json.record
    [Json.listField "weekdays" 0 Json.integer id (fun _ v => v)]

/- The weekdays of a plan. -/
def showWeekdays (e : Exchange) : Act Response := do
  let view ← Service.getWeekdays (e.param "id") e.callerId
  return .success 200 view.toJson

/- Replace the weekdays of a plan. -/
def changeWeekdays (e : Exchange) : Act Response := do
  let weekdays ← Act.resume
    (e.request.decode "invalid weekdays payload" decodeWeekdays none)
  let view ← Service.setWeekdays (e.param "id") e.callerId (weekdays.getD [])
  return .success 200 view.toJson

/- Give every item of a plan its date again. -/
def redate (e : Exchange) : Act Response := do
  let view ← Service.recalculateDates (e.param "id") e.callerId
  return .success 200 view.toJson

------------------------------------------------------------
-- The Service Itself
------------------------------------------------------------

/- Drop the cached lessons of the catalog. -/
def clearCatalog (_ : Exchange) : Act Response := do
  Act.restating (.wrap .serviceUnavailable "catalog cache unavailable")
    (Cache.forget Service.catalogPattern)
  return .noContent

/- The service is alive. -/
def showHealth (_ : Exchange) : Act Response :=
  return .json 200 (.obj [("status", .str "ok")])

/- Something that the service depends on, and how it is probed. -/
abbrev Dependency :=
  String × Act Unit

/- What became of the probes, in order. -/
def probeAll : List Dependency → Act (List (String × Option Failure))
| [] => return []
| (name, probe) :: rest => do
    let failure ←
      match ← Act.attempt probe with
      | .ok () => pure none
      | .error f => pure (some f)
    return (name, failure) :: (← probeAll rest)

/- The service is ready if all that it depends on is. -/
def showReadiness
    (dependencies : List Dependency)
    (_ : Exchange) : Act Response := do
  let outcomes ← probeAll (dependencies.mergeSort (fun a b => decide (a.1 ≤ b.1)))
  let ready := outcomes.all (fun (_, failure) => failure.isNone)
  return .json (if ready then 200 else 503)
    (.obj
      [("status", .str (if ready then "ready" else "unavailable")),
        ("dependencies", .obj (outcomes.map (fun (name, failure) =>
          (name, .str (failure.elim "ok" (·.text))))))])

/- Figures as a page of lines. -/
def metricsPage
    (mediaType : String)
    (m : Metrics) : Response :=
  { status := 200
    headers := [Response.mediaType mediaType]
    content := .document
      (.text (String.join (m.exposition.map (fun line => line ++ "\n")))) }

/- The figures of the service. -/
def showMetrics (e : Exchange) : Act Response := do
  match (← get).metrics with
  | none => return { status := 503 }
  | some m => return metricsPage (figuresType (e.request.header "Accept")) m

end Timetable.Http
