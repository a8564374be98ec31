import Timetable.Plan.Scalar

/-
  This file defines lessons as the catalog lists them, and
  the study effort that a lesson costs.

  Key definitions include:
    * `Lesson`
    * `CostedLesson`
    * `lessonCost`
    * `Lesson.withCost`
    * `applyCost`
    * `totalCost`
-/

namespace Timetable.Plan

------------------------------------------------------------
-- Lessons
------------------------------------------------------------

/-
  A lesson with its place in the catalog: the module it
  belongs to, the module's front, and the front's subject.
-/
structure Lesson (α : Type) where
  id : String
  name : String
  sequence : Int
  duration : Option α
  priority : Int
  moduleId : String
  moduleName : String
  moduleSequence : Int
  frontId : String
  frontName : String
  subjectId : String
  subjectName : String
deriving Repr

/- A lesson without any text, number or duration. -/
def Lesson.blank (α : Type) : Lesson α :=
  ⟨"", "", 0, none, 0, "", "", 0, "", "", "", ""⟩

/- A lesson with the minutes of study that it costs. -/
structure CostedLesson (α : Type) extends Lesson α where
  cost : α
deriving Repr

------------------------------------------------------------
-- Study Effort
------------------------------------------------------------

variable {α : Type} [Scalar α]

/- Viewing time is scaled by one and a half to give study time. -/
def overhead : α :=
  Scalar.decimal 15 1

/- A lesson of unknown length counts as ten minutes. -/
def defaultMinutes : α :=
  Scalar.ofInt 10

/-
  The minutes of study that a lesson costs.  A playback
  speed that is not positive counts as normal speed.
-/
def lessonCost
    (duration : Option α)
    (speed : α) : α :=
  let speed := if speed ≤ Scalar.zero then Scalar.ofInt 1 else speed
  duration.getD defaultMinutes / speed * overhead

/- A lesson together with its cost at a playback speed. -/
def Lesson.withCost
    (l : Lesson α)
    (speed : α) : CostedLesson α :=
  { l with cost := lessonCost l.duration speed }

/- Every lesson with its cost. -/
def applyCost
    (lessons : List (Lesson α))
    (speed : α) : List (CostedLesson α) :=
  lessons.map (·.withCost speed)

/- The costs of lessons, added in order. -/
def totalCost (lessons : List (CostedLesson α)) : α :=
  Scalar.sum (lessons.map (·.cost))

end Timetable.Plan
