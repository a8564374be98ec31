import Timetable.Export.Csv
import Timetable.Export.Sheet
import Timetable.Failure
import Timetable.Store.Row
import Timetable.Text.Case
import Timetable.Text.Quoted

/-
  This file turns a study plan into a file that can be
  downloaded.

  Key definitions include:
    * `Format`
    * `Format.ofText?`
    * `planDataset`
    * `renderPlan`
-/

namespace Timetable.Export

open Store

------------------------------------------------------------
-- Formats
------------------------------------------------------------

/- The formats of files. -/
inductive Format where
| csv : Format
| pdf : Format
deriving DecidableEq, Repr

/- The way the name of a format is compared: without case and outer blanks. -/
def formatName (s : String) : String :=
  Text.lower (Text.trim s)

/- The format with a name; no name at all means `csv`. -/
def Format.ofText? (s : String) : Option Format :=
  let name := formatName s
  if name == "" || name == Csv.extension then some .csv
  else if name == Sheet.extension then some .pdf
  else none

/- The ending of the names of files. -/
def Format.extension : Format → String
| .csv => Csv.extension
| .pdf => Sheet.extension

/- The media type of files. -/
def Format.contentType : Format → String
| .csv => Csv.contentType
| .pdf => Sheet.contentType

------------------------------------------------------------
-- The Table of a Plan
------------------------------------------------------------

/- The headers of the table of a plan. -/
def planHeaders : List String :=
  ["week", "position", "date", "subject", "front", "lesson", "completed"]

/- The lesson with an id; of several the last one counts. -/
def lessonWithId?
    (lessons : List (Plan.Lesson Float))
    (id : String) : Option (Plan.Lesson Float) :=
  lessons.reverse.find? (fun l => l.id == id)

/- The row of an item. -/
def itemRow
    (lessons : List (Plan.Lesson Float))
    (item : ScheduleItem) : List (String × String) :=
  [("week", toString item.week), ("position", toString item.position),
    ("completed", if item.completed then "yes" else "no")] ++
    (match item.scheduledDate with
    | some moment => [("date", moment.date.render)]
    | none => []) ++
    (match lessonWithId? lessons item.lessonId with
    | some l =>
        [("subject", l.subjectName), ("front", l.frontName), ("lesson", l.name)]
    | none => [("lesson", item.lessonId)])

/- The title of the table of a plan. -/
def planTitle (p : StudyPlan) : String :=
  (if p.name == "" then "Study plan" else p.name) ++ " (" ++
    p.startDate.date.render ++ " to " ++ p.endDate.date.render ++ ")"

/- The table of a plan: its items by week and position. -/
def planDataset
    (p : StudyPlan)
    (items : List ScheduleItem)
    (lessons : List (Plan.Lesson Float)) : Dataset :=
  ⟨planTitle p, planHeaders, (inOrder items).map (itemRow lessons)⟩

------------------------------------------------------------
-- Files
------------------------------------------------------------

/- Write a table in a format. -/
def renderDataset
    (d : Dataset) : Format → Except Failure Document
| .csv =>
    match Csv.render ',' d with
    | .ok s => .ok (.text s)
    | .error r => .error (.plain r.message)
| .pdf =>
    match Sheet.render d with
    | .ok pages => .ok (.pages pages)
    | .error r => .error (.plain r.message)

/- The file of a plan. -/
def renderPlan
    (plan : Option StudyPlan)
    (items : List ScheduleItem)
    (lessons : List (Plan.Lesson Float))
    (format : String) : Except Failure ExportFile :=
  match plan with
  | none => .error (.because .notFound "study plan not found")
  | some p =>
      match Format.ofText? format with
      | none =>
          .error (.because .unsupportedFormat
            ("unsupported export format " ++ Text.quoted (formatName format)))
      | some f =>
          match renderDataset (planDataset p items lessons) f with
          | .error cause =>
              .error (.wrap .internal "failed to render study plan" cause)
          | .ok body =>
              .ok
                { filename :=
                    "study-plan-" ++ p.startDate.date.renderCompact ++ "." ++ f.extension
                  contentType := f.contentType
                  body := body }

end Timetable.Export
