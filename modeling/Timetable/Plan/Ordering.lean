import Timetable.Plan.Lesson
import Timetable.Text.Collation.Latin

/-
  This file puts lessons into study order: by subject and
  front as a collator orders their names, then by module and
  lesson.

  Key definitions include:
    * `Lesson.isBefore`
    * `sortLessons`
-/

namespace Timetable.Plan

variable {α : Type}

------------------------------------------------------------
-- Study Order
------------------------------------------------------------

/-
  A lesson is studied before another one.  Names are compared
  first, and numbers only when they are alike.
-/
def Lesson.isBefore
    (order : String → String → Ordering)
    (a b : Lesson α) : Bool :=
  match order a.subjectName b.subjectName with
  | .lt => true
  | .gt => false
  | .eq =>
      match order a.frontName b.frontName with
      | .lt => true
      | .gt => false
      | .eq =>
          if a.moduleSequence != b.moduleSequence then
            decide (a.moduleSequence < b.moduleSequence)
          else
            decide (a.sequence < b.sequence)

/-
  Put lessons into study order.  Lessons of which none is
  before the other stay in the order they came in.
-/
def sortLessons
    (locale : Text.Locale)
    (lessons : List (Lesson α))
    (collator : Text.Collator := .latin) : List (Lesson α) :=
  let order := collator.compare locale
  lessons.mergeSort (fun a b => !b.isBefore order a)

end Timetable.Plan
