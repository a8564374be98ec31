import Timetable.Records.Transaction

/-
  This file reads the catalog of lessons from the store.

  Key definitions include:
    * `listLessons`
    * `lessonsById`
    * `completedLessons`
-/

namespace Timetable.Records

open Store

------------------------------------------------------------
-- Catalog
------------------------------------------------------------

/- The lessons that a filter chooses; without subjects there are none. -/
def listLessons (filter : LessonFilter) : Act (List (Plan.Lesson Float)) :=
  if filter.subjectIds.isEmpty then return []
  else
    Act.restating (.during "list catalog lessons") (fetch (.lessons filter))

/- The lessons with some ids, whatever their priority. -/
def lessonsById (ids : List String) : Act (List (Plan.Lesson Float)) :=
  if ids.isEmpty then return []
  else
    Act.restating (.during "list lessons by id") (fetch (.lessonsById ids))

/- The lessons that a learner has completed. -/
def completedLessons (owner course : String) : Act (List String) :=
  Act.restating (.during "list completed lessons")
    (fetch (.completedLessons owner course))

end Timetable.Records
