import Timetable.Cache.Access
import Timetable.Catalog.LessonCodec
import Timetable.Digest.NameId
import Timetable.Plan.Ordering
import Timetable.Records.Catalog
import Timetable.Service.Request

/-
  This file gathers the lessons that a plan is made from.
  The catalog is read through the cache: what it answered for
  a filter is kept under a key that is derived from the
  filter alone.

  Key definitions include:
    * `filterText`
    * `catalogKey`
    * `lessons`
    * `eligible`
    * `loadContent`
-/

namespace Timetable.Service

open Plan Store

------------------------------------------------------------
-- Keys
------------------------------------------------------------

/- Texts in ascending order. -/
def ascendingTexts (xs : List String) : List String :=
  xs.mergeSort (fun a b => decide (a ≤ b))

/- The text of a filter, the same for all orders of its ids. -/
def filterText (f : LessonFilter) : String :=
  String.intercalate "|"
    [String.intercalate "," (ascendingTexts f.subjectIds), f.courseId,
      String.intercalate "," (ascendingTexts f.moduleIds), toString f.minPriority]

/- What the keys of catalog answers start with. -/
def catalogMark : String :=
  "lessons:"

/- The key of the catalog's answer to a filter. -/
def catalogKey (f : LessonFilter) : String :=
  catalogMark ++ Digest.nameId (filterText f)

/- The pattern of all these keys. -/
def catalogPattern : String :=
  catalogMark ++ "*"

------------------------------------------------------------
-- Lessons through the Cache
------------------------------------------------------------

/- Lessons as they are cached; none at all are `null`. -/
def encodeSnapshot (lessons : List (Lesson Float)) : Json :=
  Catalog.encodeLessons (if lessons.isEmpty then none else some lessons)

/- Cached lessons. -/
def decodeSnapshot (v : Json) : Except String (List (Lesson Float)) :=
  match Catalog.decodeLessons v with
  | some lessons => .ok (lessons.getD [])
  | none => .error "json: cannot unmarshal value"

/- Cached lessons for a filter; trouble with the cache counts as a miss. -/
def cachedLessons (f : LessonFilter) : Act (Option (List (Lesson Float))) := do
  match ← Act.attempt (Cache.lookUp (catalogKey f) decodeSnapshot) with
  | .ok found => return found
  | .error _ => return none

/- The lessons that the store answers for a filter, which are then kept in the cache. -/
def loadLessons (f : LessonFilter) : Act (List (Lesson Float)) := do
  let (outcome, nanos) ← Act.timed (Act.attempt (Records.listLessons f))
  Act.measure (·.observeQuery "list_catalog_lessons" nanos)
  let lessons ← Act.resume outcome
  let ttl := (← Act.settings).catalogTtl
  let _ ← Act.attempt (Cache.rememberValue (catalogKey f) (encodeSnapshot lessons) ttl)
  return lessons

/-
  The lessons for a filter.  Reading them from the store goes
  on even if the request is canceled meanwhile, but then its
  answer is not waited for.
-/
def lessons (f : LessonFilter) : Act (List (Lesson Float)) := do
  match ← cachedLessons f with
  | some found => return found
  | none =>
      let limit := (← Act.settings).requestTimeout
      let outcome ← Act.attempt
        (Act.under (fun c => Context.limited limit { c with detached := true })
          (loadLessons f))
      Act.checkContext
      Act.resume outcome

------------------------------------------------------------
-- The Content of a Plan
------------------------------------------------------------

/- The filter of a request. -/
def GenerateRequest.filter (r : GenerateRequest) : LessonFilter :=
  { subjectIds := r.subjectIds.getD []
    courseId := r.courseId
    moduleIds := r.moduleIds.getD []
    minPriority := r.minPriority }

/- A lesson belongs into the plan: it has the priority, and was not completed before. -/
def eligible
    (minPriority : Int)
    (completed : List String)
    (l : Lesson Float) : Bool :=
  decide (l.priority ≠ 0) && decide (minPriority ≤ l.priority) && !completed.contains l.id

/- The lessons that an owner has completed, if these are to be left out. -/
def completedBefore
    (owner : String)
    (r : GenerateRequest) : Act (List String) :=
  if r.excludeCompleted then
    Act.restating (.wrap .internal "failed to load lesson progress")
      (Records.completedLessons owner r.courseId)
  else
    return []

/-
  The eligible lessons in the order of study, with their costs.
  The catalog and the progress may be asked at the same time,
  so that the failure that comes first is told.  Here they are
  asked in turn, and the catalog's failure wins when both fail.
-/
def loadContent
    (owner : String)
    (r : GenerateRequest)
    (speed : Float) : Act (List (CostedLesson Float)) := do
  let found ← Act.attempt
    (Act.restating (.wrap .internal "failed to load catalog lessons") (lessons r.filter))
  let completed ← Act.attempt (completedBefore owner r)
  let found ← Act.resume found
  let completed ← Act.resume completed
  let settings ← Act.settings
  return applyCost
    (sortLessons settings.locale
      (found.filter (eligible r.minPriority completed)) settings.collator)
    speed

end Timetable.Service
