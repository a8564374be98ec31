import Timetable.Calendar.Date
import Timetable.Plan.Weekday

/-
  This file gives calendar days to the items of a plan.
  Items are walked in the order of their week and position,
  and the selected weekdays are handed out in turn.

  Key definitions include:
    * `Slot`
    * `Slot.before`
    * `anchor`
    * `advance`
    * `rotate`
    * `assignDates`
-/

namespace Timetable.Plan

------------------------------------------------------------
-- Slots
------------------------------------------------------------

/- An item's place in a plan. -/
structure Slot where
  id : String
  week : Int
  position : Int
deriving DecidableEq, Repr

/- A slot comes no later than another one. -/
def Slot.before (a b : Slot) : Bool :=
  decide (a.week < b.week) ||
    (decide (a.week = b.week) && decide (a.position ≤ b.position))

/- A slot with its calendar day. -/
structure DatedSlot where
  slot : Slot
  date : Date
deriving DecidableEq, Repr

------------------------------------------------------------
-- The Rotation
------------------------------------------------------------

/-
  The first selected day on or after a start, and its place
  in the selection.  When the rest of the week has none, it
  is the first selected day of the next week.
-/
def anchor
    (start : Date)
    (days : List Int) : Date × Nat :=
  let today := start.weekday
  match days.findIdx? (fun d => decide (today ≤ d)) with
  | some i => (start.addDays (days.getD i 0 - today), i)
  | none => (start.addDays (7 - today + days.headD 0), 0)

/-
  Move from one selected weekday to another.  A completed
  round always lands in the following week.
-/
def advance
    (cursor : Date)
    (source target : Int)
    (wrapped : Bool) : Date :=
  let delta := target - source
  cursor.addDays (if wrapped || decide (delta ≤ 0) then delta + 7 else delta)

/- Hand out days from a cursor that stands at a place of the selection. -/
def rotate
    (days : List Int) :
    Date → Nat → List Slot → List DatedSlot
| _, _, [] => []
| cursor, i, slot :: rest =>
    let next := (i + 1) % days.length
    ⟨slot, cursor⟩ ::
      rotate days
        (advance cursor (days.getD i 0) (days.getD next 0) (next == 0))
        next rest

/- Give every slot its day, in the order of week and position. -/
def assignDates
    (slots : List Slot)
    (start : Date)
    (weekdays : List Int) : Except WeekdayError (List DatedSlot) := do
  let days ← normalizeWeekdays weekdays
  let (cursor, i) := anchor start days
  return rotate days cursor i (slots.mergeSort Slot.before)

end Timetable.Plan
