/-
  This file defines selections of weekdays, numbered from 0
  for Sunday to 6 for Saturday.

  Key definitions include:
    * `WeekdayError`
    * `normalizeWeekdays`
    * `defaultWeekdays`
-/

namespace Timetable.Plan

------------------------------------------------------------
-- Selections
------------------------------------------------------------

/- Why a selection of weekdays is refused. -/
inductive WeekdayError where
| empty : WeekdayError
| outOfRange : Int → WeekdayError
deriving DecidableEq, Repr

/- The wording of the error. -/
def WeekdayError.message : WeekdayError → String
| .empty => "at least one weekday must be selected"
| .outOfRange d => "weekday must be between 0 and 6: " ++ toString d

/- A number names a weekday. -/
def isWeekday (d : Int) : Bool :=
  decide (0 ≤ d) && decide (d ≤ 6)

/- Put a day into an ascending list, once. -/
def insertDay
    (d : Int) : List Int → List Int
| [] => [d]
| e :: es =>
    if d < e then d :: e :: es
    else if d = e then e :: es
    else e :: insertDay d es

/- The days of a selection, ascending and without repetition. -/
def ascendingDays (days : List Int) : List Int :=
  days.foldl (fun sorted d => insertDay d sorted) []

/-
  Check a selection and put it into order.  The first number
  that names no weekday is reported.
-/
def normalizeWeekdays (days : List Int) : Except WeekdayError (List Int) :=
  if days.isEmpty then .error .empty
  else
    match days.find? (fun d => !isWeekday d) with
    | some d => .error (.outOfRange d)
    | none => .ok (ascendingDays days)

/- The weekdays of a plan that has not chosen its own. -/
def defaultWeekdays (daysPerWeek : Int) : List Int :=
  if daysPerWeek = 5 then [1, 2, 3, 4, 5]
  else if daysPerWeek = 4 then [1, 2, 4, 5]
  else if daysPerWeek = 3 then [1, 3, 5]
  else if daysPerWeek = 2 then [1, 4]
  else [1]

end Timetable.Plan
