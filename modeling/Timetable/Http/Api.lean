import Timetable.Http.Endpoints

/-
  This file lists the routes of the service.

  Key definitions include:
    * `guardedRoute`
    * `planRoutes`
    * `ownerRoute`
    * `serviceRoutes`
    * `apiRoutes`
-/

namespace Timetable.Http

------------------------------------------------------------
-- Routes
------------------------------------------------------------

/- A route whose callers have to be known. -/
def guardedRoute
    (base : String)
    (method path : String)
    (endpoint : Exchange → Act Response) : Route :=
  { method := method
    pattern := .ofText (base ++ path)
    identification := .required
    endpoint := endpoint }

/- The routes about plans. -/
def planRoutes (base : String) : List Route :=
  let route := guardedRoute (base ++ "/study-plans")
  [{ route "POST" "" createPlan with record := some ("generate", "study_plan") },
    route "GET" "/current" showCurrent,
    route "GET" "/:id/items" listItems,
    route "PATCH" "/:id/items/:itemId" changeItem,
    route "GET" "/:id/weekdays" showWeekdays,
    { route "PUT" "/:id/weekdays" changeWeekdays with
      record := some ("set_weekdays", "study_plan") },
    route "POST" "/:id/recalculate-dates" redate,
    route "GET" "/:id/export" download,
    { route "DELETE" "/:id" removePlan with record := some ("delete", "study_plan") }]

/- The plan of an owner, for administrators and the owner. -/
def ownerRoute (base : String) : Route :=
  { guardedRoute base "GET" "/owners/:ownerId/study-plan" showOwned with
    allowance := some { roles := ["ADMIN"], owner := true } }

/- The routes for administrators; an owner may see their own plan. -/
def adminRoutes (base : String) : List Route :=
  [ownerRoute base,
    { guardedRoute base "DELETE" "/admin/catalog-cache" clearCatalog with
      allowance := some { roles := ["ADMIN"] }
      record := some ("invalidate", "catalog_cache") }]

/- The routes about the service itself. -/
def serviceRoutes (dependencies : List Dependency) : List Route :=
  let route (path : String) (endpoint : Exchange → Act Response) : Route :=
    { method := "GET", pattern := .ofText path, endpoint := endpoint }
  [route "/health" showHealth, route "/ready" (showReadiness dependencies),
    route "/metrics" showMetrics]

/- All routes of the service; `base` is what the paths of the API start with. -/
def apiRoutes
    (base : String)
    (dependencies : List Dependency) : List Route :=
  serviceRoutes dependencies ++ planRoutes base ++ adminRoutes base

end Timetable.Http
