import Timetable.Store.Codec
import Timetable.Store.Tables

/-
  This file defines the statements that are sent to the
  store: what each one does to the tables, what it answers,
  and the text and arguments it is sent as.

  Key definitions include:
    * `Change`
    * `Change.run`
    * `Lookup`
    * `Lookup.run`
    * `Statement`
    * `Statement.label`
    * `Statement.text`
    * `Statement.arguments`
-/

namespace Timetable.Store

------------------------------------------------------------
-- Changes
------------------------------------------------------------

/- A statement that changes tables and answers how many rows it touched. -/
inductive Change where
| insertPlan (plan : StudyPlan) : Change
| insertCore (plan : StudyPlan) : Change
| patchPlan (plan : StudyPlan) : Change
| deleteOwned (owner : String) : Change
| deletePlan (id owner : String) : Change
| insertItems (items : List ScheduleItem) : Change
| setDate (id : String) (date : Timestamp) : Change
| chooseWeekdays (choice : WeekdayChoice) : Change
deriving Repr, Inhabited

/- The number of rows that a change touches. -/
def Change.touched : Change → Tables → Nat
| .insertPlan _, _ => 1
| .insertCore _, _ => 1
| .patchPlan p, t => t.plans.countP (fun row => row.id == p.id)
| .deleteOwned owner, t => t.plans.countP (fun p => p.ownerId == owner)
| .deletePlan id owner, t =>
    t.plans.countP (fun p => p.id == id && p.ownerId == owner)
| .insertItems items, _ => items.length
| .setDate id _, t => t.items.countP (fun i => i.id == id)
| .chooseWeekdays _, _ => 1

/- The tables after a change. -/
def Change.run : Change → Tables → Tables
| .insertPlan p, t => t.insertPlan p
| .insertCore p, t => t.insertCore p
| .patchPlan p, t => t.patchPlan p
| .deleteOwned owner, t => t.deletePlans (fun p => p.ownerId == owner)
| .deletePlan id owner, t =>
    t.deletePlans (fun p => p.id == id && p.ownerId == owner)
| .insertItems items, t => t.insertItems items
| .setDate id date, t => t.setDate id date
| .chooseWeekdays c, t => t.chooseWeekdays c

------------------------------------------------------------
-- Lookups
------------------------------------------------------------

/- A statement that answers with rows.  Only `complete` also changes them. -/
inductive Lookup where
| planById (id : String) : Lookup
| planOfOwner (owner : String) : Lookup
| itemsOfPlan (planId : String) : Lookup
| complete (planId id : String) (completed : Bool) (moment : Option Timestamp) : Lookup
| weekdaysOfPlan (planId : String) : Lookup
| lessons (filter : LessonFilter) : Lookup
| lessonsById (ids : List String) : Lookup
| completedLessons (owner course : String) : Lookup
deriving Repr, Inhabited

/- The rows that a lookup answers with. -/
abbrev Lookup.Row : Lookup → Type
| .planById _ => StudyPlan
| .planOfOwner _ => StudyPlan
| .itemsOfPlan _ => ScheduleItem
| .complete _ _ _ _ => ScheduleItem
| .weekdaysOfPlan _ => WeekdayChoice
| .lessons _ => Plan.Lesson Float
| .lessonsById _ => Plan.Lesson Float
| .completedLessons _ _ => String

/- The tables after a lookup. -/
def Lookup.after : Lookup → Tables → Tables
| .complete planId id completed moment, t => t.setCompleted planId id completed moment
| _, t => t

/- The rows that a lookup answers with, read from the tables after it. -/
def Lookup.rows : (l : Lookup) → Tables → List l.Row
| .planById id, t => (t.plansWithId id).map (·.asRead)
| .planOfOwner owner, t => ((t.plansOfOwner owner).take 1).map (·.asRead)
| .itemsOfPlan planId, t => t.itemsOfPlan planId
| .complete planId id _ _, t => t.items.filter (Tables.isItemOf planId id)
| .weekdaysOfPlan planId, t => t.choicesOfPlan planId
| .lessons f, t => t.chosenLessons f
| .lessonsById ids, t => t.lessonsWithIds ids
| .completedLessons owner course, t => t.completedLessons owner course

/- Run a lookup. -/
def Lookup.run
    (l : Lookup)
    (t : Tables) : List l.Row × Tables :=
  let t := l.after t
  (l.rows t, t)

------------------------------------------------------------
-- Statements
------------------------------------------------------------

/- What can be sent to the store. -/
inductive Statement where
| start : Statement
| commit : Statement
| rollback : Statement
| savepoint (name : String) : Statement
| rollbackTo (name : String) : Statement
| release (name : String) : Statement
| change (c : Change) : Statement
| lookup (l : Lookup) : Statement
deriving Repr, Inhabited

/- The name a change is known by. -/
def Change.label : Change → String
| .insertPlan _ => "plan_insert"
| .insertCore _ => "plan_insert_degraded"
| .patchPlan _ => "plan_patch"
| .deleteOwned _ => "plan_delete_owner"
| .deletePlan _ _ => "plan_delete"
| .insertItems _ => "item_insert"
| .setDate _ _ => "item_update_date"
| .chooseWeekdays _ => "weekday_upsert"

/- The name a lookup is known by. -/
def Lookup.label : Lookup → String
| .planById _ => "plan_find"
| .planOfOwner _ => "plan_find_owner"
| .itemsOfPlan _ => "item_list"
| .complete _ _ _ _ => "item_set_completed"
| .weekdaysOfPlan _ => "weekday_get"
| .lessons _ => "lessons_list"
| .lessonsById _ => "lessons_by_ids"
| .completedLessons _ _ => "completed_ids"

/- The name a statement is known by. -/
def Statement.label : Statement → String
| .start => "begin"
| .commit => "commit"
| .rollback => "rollback"
| .savepoint name => "savepoint " ++ name
| .rollbackTo name => "rollback_to " ++ name
| .release name => "release " ++ name
| .change c => c.label
| .lookup l => l.label

------------------------------------------------------------
-- Arguments
------------------------------------------------------------

/- An element of an array text, with quotes and backslashes escaped. -/
def quoteElement (s : String) : String :=
  "\"" ++
    String.join (s.toList.map (fun c =>
      if c == '"' || c == '\\' then String.ofList ['\\', c] else c.toString)) ++
    "\""

/- The text of an array of texts. -/
def arrayText (xs : List String) : String :=
  "\x7b" ++ String.intercalate "," (xs.map quoteElement) ++ "\x7d"

/- The text of an array of numbers. -/
def numberArrayText (xs : List Int) : String :=
  "\x7b" ++ String.intercalate "," (xs.map toString) ++ "\x7d"

/- A stored array of texts. -/
def storedTexts (xs : Option (List String)) : Json :=
  Json.ofOption (fun xs => .str (arrayText xs)) xs

/- A stored array of numbers. -/
def storedNumbers (xs : Option (List Int)) : Json :=
  Json.ofOption (fun xs => .str (numberArrayText xs)) xs

/- The columns of a plan. -/
def planColumns (p : StudyPlan) : List (String × Json) :=
  [("id", .str p.id), ("owner_id", .str p.ownerId),
    ("course_id", Json.ofOption .str p.courseId), ("name", .str p.name),
    ("start_date", encodeMoment p.startDate), ("end_date", encodeMoment p.endDate),
    ("days_per_week", .int p.daysPerWeek), ("hours_per_day", .float p.hoursPerDay),
    ("vacations", Json.ofOption .str p.vacations), ("min_priority", .int p.minPriority),
    ("mode", .str p.mode), ("subject_ids", storedTexts p.subjectIds),
    ("front_order", storedTexts p.frontOrder), ("module_ids", storedTexts p.moduleIds),
    ("exclude_completed", .bool p.excludeCompleted),
    ("playback_speed", .float p.playbackSpeed),
    ("created_at", encodeMoment p.createdAt), ("updated_at", encodeMoment p.updatedAt)]

/- The names of the columns that every revision of the store has. -/
def coreColumnNames : List String :=
  ["id", "owner_id", "name", "start_date", "end_date", "days_per_week", "hours_per_day",
    "mode", "subject_ids", "created_at", "updated_at"]

/- The names of the other columns, with the moment of the last change. -/
def extendedColumnNames : List String :=
  ["course_id", "vacations", "min_priority", "front_order", "module_ids",
    "exclude_completed", "playback_speed", "updated_at"]

/- The columns with given names, in the order of the names. -/
def pickColumns
    (names : List String)
    (columns : List (String × Json)) : List Json :=
  names.map (fun name => (columns.lookup name).getD .null)

/- The columns of an item. -/
def itemColumns (i : ScheduleItem) : List (String × Json) :=
  [("id", .str i.id), ("plan_id", .str i.planId), ("lesson_id", .str i.lessonId),
    ("week_number", .int i.week), ("position", .int i.position),
    ("completed", .bool i.completed),
    ("completed_at", Json.ofOption encodeMoment i.completedAt),
    ("scheduled_date", Json.ofOption encodeMoment i.scheduledDate)]

/- The columns of a choice of weekdays. -/
def choiceColumns (c : WeekdayChoice) : List (String × Json) :=
  [("plan_id", .str c.planId), ("weekdays", storedNumbers c.weekdays),
    ("updated_at", encodeMoment c.updatedAt)]

/- The arguments of a change. -/
def Change.arguments : Change → List Json
| .insertPlan p => (planColumns p).map (·.2)
| .insertCore p => pickColumns coreColumnNames (planColumns p)
| .patchPlan p =>
    let patched := { p with vacations := some (p.vacations.getD StudyPlan.noVacations) }
    pickColumns (extendedColumnNames ++ ["id"]) (planColumns patched)
| .deleteOwned owner => [.str owner]
| .deletePlan id owner => [.str id, .str owner]
| .insertItems items => items.flatMap (fun i => (itemColumns i).map (·.2))
| .setDate id date => [encodeMoment date, .str id]
| .chooseWeekdays c => (choiceColumns c).map (·.2)

/- The arguments of a lookup. -/
def Lookup.arguments : Lookup → List Json
| .planById id => [.str id]
| .planOfOwner owner => [.str owner]
| .itemsOfPlan planId => [.str planId]
| .complete planId id completed moment =>
    [.bool completed, Json.ofOption encodeMoment moment, .str id, .str planId]
| .weekdaysOfPlan planId => [.str planId]
| .lessons f =>
    [Json.str (arrayText f.subjectIds)] ++
      (if 0 < f.minPriority then [Json.int f.minPriority] else []) ++
      (if f.courseId == "" then [] else [Json.str f.courseId]) ++
      (if f.moduleIds.isEmpty then [] else [Json.str (arrayText f.moduleIds)])
| .lessonsById ids => [.str (arrayText ids)]
| .completedLessons owner course =>
    [Json.str owner] ++ (if course == "" then [] else [Json.str course])

/- The arguments of a statement. -/
def Statement.arguments : Statement → List Json
| .change c => c.arguments
| .lookup l => l.arguments
| _ => []

------------------------------------------------------------
-- Texts
------------------------------------------------------------

/- The placeholder of an argument. -/
def placeholder (n : Nat) : String :=
  "$" ++ toString n

/- Texts with a comma and a blank between them. -/
def commaList (xs : List String) : String :=
  String.intercalate ", " xs

/- A row of `width` placeholders that starts with a number. -/
def placeholderRow (start width : Nat) : String :=
  "(" ++ commaList ((List.range width).map (fun i => placeholder (start + i))) ++ ")"

/- Insert one row of columns. -/
def insertText
    (table : String)
    (columns : List String) : String :=
  "INSERT INTO " ++ table ++ " (" ++ commaList columns ++ ") VALUES " ++
    placeholderRow 1 columns.length

/- The names of the columns of the plan table. -/
def planColumnNames : List String :=
  (planColumns StudyPlan.blank).map (·.1)

/- The names of the columns of the item table. -/
def itemColumnNames : List String :=
  (itemColumns ScheduleItem.blank).map (·.1)

/- The text of a change. -/
def Change.text : Change → String
| .insertPlan _ => insertText "study_plans" planColumnNames
| .insertCore _ => insertText "study_plans" coreColumnNames
| .patchPlan _ =>
    let settings := extendedColumnNames.zipIdx.map (fun (name, i) =>
      name ++ " = " ++ placeholder (i + 1))
    "UPDATE study_plans SET " ++ commaList settings ++ " WHERE id = " ++
      placeholder (extendedColumnNames.length + 1)
| .deleteOwned _ => "DELETE FROM study_plans WHERE owner_id = $1"
| .deletePlan _ _ => "DELETE FROM study_plans WHERE id = $1 AND owner_id = $2"
| .insertItems items =>
    let width := itemColumnNames.length
    let more := (List.range (items.length - 1)).map (fun i =>
      "," ++ placeholderRow ((i + 1) * width + 1) width)
    insertText "schedule_items" itemColumnNames ++ String.join more
| .setDate _ _ => "UPDATE schedule_items SET scheduled_date = $1 WHERE id = $2"
| .chooseWeekdays _ =>
    insertText "weekday_distributions" ["plan_id", "weekdays", "updated_at"] ++
      " ON CONFLICT (plan_id) DO UPDATE SET weekdays = EXCLUDED.weekdays," ++
      " updated_at = EXCLUDED.updated_at"

/- Select the columns of plans. -/
private def selectPlans : String :=
  "SELECT " ++ commaList planColumnNames ++ " FROM study_plans"

/- Select the columns of catalog lessons. -/
private def selectLessons : String :=
  "SELECT l.id AS lesson_id, l.name AS lesson_name, l.sequence AS lesson_sequence," ++
    " l.duration_minutes, l.priority, m.id AS module_id, m.name AS module_name," ++
    " m.sequence AS module_sequence, f.id AS front_id, f.name AS front_name," ++
    " s.id AS subject_id, s.name AS subject_name FROM lessons l" ++
    " JOIN modules m ON m.id = l.module_id JOIN fronts f ON f.id = m.front_id" ++
    " JOIN subjects s ON s.id = f.subject_id"

/-
  Number the conditions of a lesson filter: a condition that
  is present takes the next placeholder.
-/
private def numberConditions :
    Nat → List (Bool × (String → String)) → List String
| _, [] => []
| n, (present, condition) :: rest =>
    if present then condition (placeholder n) :: numberConditions (n + 1) rest
    else numberConditions n rest

/- The conditions of a lesson filter. -/
private def filterConditions (f : LessonFilter) : List String :=
  ["s.id = ANY($1)", "l.priority <> 0"] ++
    numberConditions 2
      [(decide (0 < f.minPriority), fun n => "l.priority >= " ++ n),
        (f.courseId != "", fun n => "m.course_id = " ++ n),
        (!f.moduleIds.isEmpty, fun n => "m.id = ANY(" ++ n ++ ")")]

/- The text of a lookup. -/
def Lookup.text : Lookup → String
| .planById _ => selectPlans ++ " WHERE id = $1"
| .planOfOwner _ =>
    selectPlans ++ " WHERE owner_id = $1 ORDER BY created_at DESC LIMIT 1"
| .itemsOfPlan _ =>
    "SELECT " ++ commaList itemColumnNames ++
      " FROM schedule_items WHERE plan_id = $1 ORDER BY week_number, position"
| .complete _ _ _ _ =>
    "UPDATE schedule_items SET completed = $1, completed_at = $2" ++
      " WHERE id = $3 AND plan_id = $4 RETURNING " ++ commaList itemColumnNames
| .weekdaysOfPlan _ =>
    "SELECT plan_id, weekdays, updated_at FROM weekday_distributions WHERE plan_id = $1"
| .lessons f =>
    selectLessons ++ " WHERE " ++ String.intercalate " AND " (filterConditions f) ++
      " ORDER BY s.name, f.name, m.sequence, l.sequence"
| .lessonsById _ => selectLessons ++ " WHERE l.id = ANY($1)"
| .completedLessons _ course =>
    "SELECT lesson_id FROM lesson_progress WHERE owner_id = $1 AND completed = TRUE" ++
      (if course == "" then "" else " AND course_id = $2")

/- The text of a statement. -/
def Statement.text : Statement → String
| .start => "BEGIN"
| .commit => "COMMIT"
| .rollback => "ROLLBACK"
| .savepoint name => "SAVEPOINT " ++ name
| .rollbackTo name => "ROLLBACK TO SAVEPOINT " ++ name
| .release name => "RELEASE SAVEPOINT " ++ name
| .change c => c.text
| .lookup l => l.text

end Timetable.Store
