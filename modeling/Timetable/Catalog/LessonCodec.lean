import Timetable.Json.Decode
import Timetable.Plan.Lesson

/-
  This file writes and reads catalog lessons as JSON, the
  form in which they are cached.

  Key definitions include:
    * `encodeLesson`
    * `lessonFields`
    * `decodeLesson`
    * `encodeLessons`
    * `decodeLessons`
-/

namespace Timetable.Catalog

open Plan

------------------------------------------------------------
-- Writing
------------------------------------------------------------

/- A lesson; a missing duration is left out. -/
def encodeLesson (l : Lesson Float) : Json :=
  .obj
    ([("lesson_id", .str l.id), ("lesson_name", .str l.name),
      ("lesson_sequence", .int l.sequence)] ++
      (match l.duration with
      | some d => [("duration_minutes", Json.float d)]
      | none => []) ++
      [("priority", .int l.priority), ("module_id", .str l.moduleId),
        ("module_name", .str l.moduleName),
        ("module_sequence", .int l.moduleSequence),
        ("front_id", .str l.frontId), ("front_name", .str l.frontName),
        ("subject_id", .str l.subjectId), ("subject_name", .str l.subjectName)])

/- A list of lessons; an absent one is `null`. -/
def encodeLessons (lessons : Option (List (Lesson Float))) : Json :=
  Json.ofOption (fun ls => .arr (ls.map encodeLesson)) lessons

------------------------------------------------------------
-- Reading
------------------------------------------------------------

/- The members of a lesson. -/
def lessonFields : List (Json.Field (Lesson Float)) :=
  [Json.field "lesson_id" Json.text (·.id) (fun l v => { l with id := v }),
    Json.field "lesson_name" Json.text (·.name) (fun l v => { l with name := v }),
    Json.field "lesson_sequence" Json.integer (·.sequence)
      (fun l v => { l with sequence := v }),
    Json.field "duration_minutes" (Json.optional 0 Json.number) (·.duration)
      (fun l v => { l with duration := v }),
    Json.field "priority" Json.integer (·.priority)
      (fun l v => { l with priority := v }),
    Json.field "module_id" Json.text (·.moduleId)
      (fun l v => { l with moduleId := v }),
    Json.field "module_name" Json.text (·.moduleName)
      (fun l v => { l with moduleName := v }),
    Json.field "module_sequence" Json.integer (·.moduleSequence)
      (fun l v => { l with moduleSequence := v }),
    Json.field "front_id" Json.text (·.frontId) (fun l v => { l with frontId := v }),
    Json.field "front_name" Json.text (·.frontName)
      (fun l v => { l with frontName := v }),
    Json.field "subject_id" Json.text (·.subjectId)
      (fun l v => { l with subjectId := v }),
    Json.field "subject_name" Json.text (·.subjectName)
      (fun l v => { l with subjectName := v })]

/- Read a lesson. -/
def decodeLesson : Json.Decoder (Lesson Float) :=
  Json.record lessonFields

/- Read a list of lessons. -/
def decodeLessons (v : Json) : Option (Option (List (Lesson Float))) :=
  Json.list (Lesson.blank Float) decodeLesson v none

end Timetable.Catalog
