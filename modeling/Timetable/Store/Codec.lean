import Timetable.Catalog.LessonCodec
import Timetable.Store.Row

/-
  This file writes the rows of the store as the JSON that
  clients see, and reads them.

  Key definitions include:
    * `encodePlan`
    * `decodePlan`
    * `encodeItem`
    * `decodeItem`
    * `encodeChoice`
    * `decodeChoice`
    * `decodeEntry`
    * `decodeProgress`
-/

namespace Timetable.Store

------------------------------------------------------------
-- Writing
------------------------------------------------------------

/- A moment; only the years of four digits can be written. -/
def encodeMoment (t : Timestamp) : Json :=
  let year := t.date.civil.year
  if 0 ≤ year ∧ year ≤ 9999 then .str t.render
  else
    .unwritable
      "json: error calling MarshalJSON for type *time.Time: year outside of range [0,9999]"
      t.render

/- A member that is left out when its value is absent. -/
def optionalMember
    (name : String) : Option Json → List (String × Json)
| none => []
| some v => [(name, v)]

/- A member that is left out when its list is absent or empty. -/
def listMember
    (name : String) : Option (List String) → List (String × Json)
| none => []
| some xs => if xs.isEmpty then [] else [(name, .strings xs)]

/- The value that a JSON text stands for. -/
def textValue (s : String) : Json :=
  (Json.whole s).toOption.getD .null

/- A plan. -/
def encodePlan (p : StudyPlan) : Json :=
  .obj
    ([("id", .str p.id), ("owner_id", .str p.ownerId)] ++
      optionalMember "course_id" (p.courseId.map .str) ++
      [("name", .str p.name), ("start_date", encodeMoment p.startDate),
        ("end_date", encodeMoment p.endDate),
        ("days_per_week", .int p.daysPerWeek),
        ("hours_per_day", .float p.hoursPerDay),
        ("vacations", textValue (p.vacations.getD StudyPlan.noVacations)),
        ("min_priority", .int p.minPriority), ("mode", .str p.mode),
        ("subject_ids", Json.ofOption .strings p.subjectIds)] ++
      listMember "front_order" p.frontOrder ++
      listMember "module_ids" p.moduleIds ++
      [("exclude_completed", .bool p.excludeCompleted),
        ("playback_speed", .float p.playbackSpeed),
        ("created_at", encodeMoment p.createdAt),
        ("updated_at", encodeMoment p.updatedAt)])

/- An item. -/
def encodeItem (i : ScheduleItem) : Json :=
  .obj
    ([("id", .str i.id), ("plan_id", .str i.planId), ("lesson_id", .str i.lessonId),
      ("week_number", .int i.week), ("position", .int i.position),
      ("completed", .bool i.completed)] ++
      optionalMember "completed_at" (i.completedAt.map encodeMoment) ++
      optionalMember "scheduled_date" (i.scheduledDate.map encodeMoment))

/- Rows of a query; no rows at all are `null`. -/
def encodeRows
    {α : Type}
    (encode : α → Json)
    (rows : List α) : Json :=
  if rows.isEmpty then .null else .arr (rows.map encode)

/- A choice of weekdays. -/
def encodeChoice (c : WeekdayChoice) : Json :=
  .obj
    [("plan_id", .str c.planId),
      ("weekdays", Json.ofOption (fun days => .arr (days.map .int)) c.weekdays),
      ("updated_at", encodeMoment c.updatedAt)]

------------------------------------------------------------
-- Reading
------------------------------------------------------------

/- Vacations, kept as the text they are written with. -/
def vacationsText : Json.Decoder (Option String) :=
  fun v _ => some (some v.render)

/- Read a plan. -/
def decodePlan : Json.Decoder StudyPlan :=
  Json.record
    [Json.field "id" Json.text (·.id) (fun p v => { p with id := v }),
      Json.field "owner_id" Json.text (·.ownerId) (fun p v => { p with ownerId := v }),
      Json.field "course_id" (Json.optional "" Json.text) (·.courseId)
        (fun p v => { p with courseId := v }),
      Json.field "name" Json.text (·.name) (fun p v => { p with name := v }),
      Json.field "start_date" Json.moment (·.startDate)
        (fun p v => { p with startDate := v }),
      Json.field "end_date" Json.moment (·.endDate) (fun p v => { p with endDate := v }),
      Json.field "days_per_week" Json.integer (·.daysPerWeek)
        (fun p v => { p with daysPerWeek := v }),
      Json.field "hours_per_day" Json.number (·.hoursPerDay)
        (fun p v => { p with hoursPerDay := v }),
      Json.field "vacations" vacationsText (·.vacations)
        (fun p v => { p with vacations := v }),
      Json.field "min_priority" Json.integer (·.minPriority)
        (fun p v => { p with minPriority := v }),
      Json.field "mode" Json.text (·.mode) (fun p v => { p with mode := v }),
      Json.textsField "subject_ids" (·.subjectIds)
        (fun p v => { p with subjectIds := v }),
      Json.textsField "front_order" (·.frontOrder)
        (fun p v => { p with frontOrder := v }),
      Json.textsField "module_ids" (·.moduleIds)
        (fun p v => { p with moduleIds := v }),
      Json.field "exclude_completed" Json.flag (·.excludeCompleted)
        (fun p v => { p with excludeCompleted := v }),
      Json.field "playback_speed" Json.number (·.playbackSpeed)
        (fun p v => { p with playbackSpeed := v }),
      Json.field "created_at" Json.moment (·.createdAt)
        (fun p v => { p with createdAt := v }),
      Json.field "updated_at" Json.moment (·.updatedAt)
        (fun p v => { p with updatedAt := v })]

/- Read an item. -/
def decodeItem : Json.Decoder ScheduleItem :=
  Json.record
    [Json.field "id" Json.text (·.id) (fun i v => { i with id := v }),
      Json.field "plan_id" Json.text (·.planId) (fun i v => { i with planId := v }),
      Json.field "lesson_id" Json.text (·.lessonId) (fun i v => { i with lessonId := v }),
      Json.field "week_number" Json.integer (·.week) (fun i v => { i with week := v }),
      Json.field "position" Json.integer (·.position)
        (fun i v => { i with position := v }),
      Json.field "completed" Json.flag (·.completed)
        (fun i v => { i with completed := v }),
      Json.field "completed_at" (Json.optional Timestamp.unset Json.moment) (·.completedAt)
        (fun i v => { i with completedAt := v }),
      Json.field "scheduled_date" (Json.optional Timestamp.unset Json.moment)
        (·.scheduledDate) (fun i v => { i with scheduledDate := v })]

/- Read a choice of weekdays. -/
def decodeChoice : Json.Decoder WeekdayChoice :=
  Json.record
    [Json.field "plan_id" Json.text (·.planId) (fun c v => { c with planId := v }),
      Json.listField "weekdays" 0 Json.integer (·.weekdays)
        (fun c v => { c with weekdays := v }),
      Json.field "updated_at" Json.moment (·.updatedAt)
        (fun c v => { c with updatedAt := v })]

/- Read a lesson of the catalog with its course. -/
def decodeEntry (v : Json) : CatalogEntry :=
  { (Catalog.decodeLesson v (Plan.Lesson.blank Float)).getD (Plan.Lesson.blank Float) with
    courseId := ((v.member? "course_id").bind (fun c => Json.text c "")).getD "" }

/- Read a learner's progress. -/
def decodeProgress : Json.Decoder Progress :=
  Json.record
    [Json.field "owner_id" Json.text (·.ownerId) (fun p v => { p with ownerId := v }),
      Json.field "lesson_id" Json.text (·.lessonId) (fun p v => { p with lessonId := v }),
      Json.field "course_id" Json.text (·.courseId) (fun p v => { p with courseId := v }),
      Json.field "completed" Json.flag (·.completed)
        (fun p v => { p with completed := v })]

end Timetable.Store
