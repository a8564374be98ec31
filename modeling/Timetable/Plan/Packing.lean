import Timetable.Plan.Feasibility
import Timetable.Plan.Front

/-
  This file packs lessons into one week.  The two ways of
  packing share the week under construction and differ in
  which lesson they offer to it next.

  Key definitions include:
    * `Assignment`
    * `WeekLoad`
    * `WeekLoad.fits`
    * `WeekLoad.add`
    * `Lane`
    * `fillParallel`
    * `fillSequential`
-/

namespace Timetable.Plan

------------------------------------------------------------
-- The Week Under Construction
------------------------------------------------------------

/- A lesson at a position of a week. -/
structure Assignment (α : Type) where
  lessonId : String
  frontId : String
  week : Int
  position : Int
  cost : α
  forced : Bool
deriving Repr

/- A week with what it holds so far and the minutes that are used. -/
structure WeekLoad (α : Type) where
  week : Week α
  used : α
  assignments : List (Assignment α)
deriving Repr

variable {α : Type} [Scalar α]

namespace WeekLoad

/- A week that holds nothing. -/
def opened (w : Week α) : WeekLoad α :=
  ⟨w, Scalar.zero, []⟩

/- A lesson fits when the week's capacity covers it too. -/
def fits
    (load : WeekLoad α)
    (l : CostedLesson α) : Bool :=
  decide (load.used + l.cost ≤ load.week.capacity + tolerance)

/- Put a lesson at the next position. -/
def add
    (load : WeekLoad α)
    (l : CostedLesson α)
    (forced : Bool) : WeekLoad α :=
  { load with
    used := load.used + l.cost
    assignments :=
      load.assignments ++
        [{ lessonId := l.id
           frontId := l.frontId
           week := load.week.number
           position := load.assignments.length + 1
           cost := l.cost
           forced := forced }] }

omit [Scalar α] in
/- Nothing has been put into the week. -/
def isEmpty (load : WeekLoad α) : Bool :=
  load.assignments.isEmpty

end WeekLoad

------------------------------------------------------------
-- Parallel Packing
------------------------------------------------------------

/- A front's share of a week and its lessons that are not placed yet. -/
structure Lane (α : Type) where
  weight : α
  queue : List (CostedLesson α)
deriving Repr

/- The lane of a front before the first week. -/
def Front.lane (f : Front α) : Lane α :=
  ⟨f.weight, f.lessons⟩

/-
  Place lessons while they stay within a front's quota and
  fit the week.  `spent` is what the front has used.
-/
def fillQuota
    (quota : α) :
    α → WeekLoad α → List (CostedLesson α) →
      WeekLoad α × List (CostedLesson α)
| _, load, [] => (load, [])
| spent, load, l :: rest =>
    if quota + tolerance < spent + l.cost ∨ load.fits l = false then
      (load, l :: rest)
    else
      fillQuota quota (spent + l.cost) (load.add l false) rest

/- Place lessons while they fit the week. -/
def fillWhileFits :
    WeekLoad α → List (CostedLesson α) →
      WeekLoad α × List (CostedLesson α)
| load, [] => (load, [])
| load, l :: rest =>
    if load.fits l then fillWhileFits (load.add l false) rest
    else (load, l :: rest)

/- Give each lane its quota of the week, in order. -/
def quotaPass :
    WeekLoad α → List (Lane α) → WeekLoad α × List (Lane α)
| load, [] => (load, [])
| load, lane :: lanes =>
    let (load, queue) :=
      fillQuota (load.week.capacity * lane.weight) Scalar.zero load lane.queue
    let (load, lanes) := quotaPass load lanes
    (load, { lane with queue := queue } :: lanes)

/- Let each lane use what is left of the week, in order. -/
def leftoverPass :
    WeekLoad α → List (Lane α) → WeekLoad α × List (Lane α)
| load, [] => (load, [])
| load, lane :: lanes =>
    let (load, queue) := fillWhileFits load lane.queue
    let (load, lanes) := leftoverPass load lanes
    (load, { lane with queue := queue } :: lanes)

/- Force the next lesson of the first lane that has one. -/
def forceFirst :
    WeekLoad α → List (Lane α) → WeekLoad α × List (Lane α)
| load, [] => (load, [])
| load, lane :: lanes =>
    match lane.queue with
    | l :: rest => (load.add l true, { lane with queue := rest } :: lanes)
    | [] =>
        let (load, lanes) := forceFirst load lanes
        (load, lane :: lanes)

/-
  Fill a week from all fronts at once: each front's quota,
  then what is left, and one forced lesson when nothing fits
  the empty week.
-/
def fillParallel
    (load : WeekLoad α)
    (lanes : List (Lane α)) : WeekLoad α × List (Lane α) :=
  let (load, lanes) := quotaPass load lanes
  let (load, lanes) := leftoverPass load lanes
  if load.isEmpty then forceFirst load lanes else (load, lanes)

------------------------------------------------------------
-- Sequential Packing
------------------------------------------------------------

/-
  Place lessons of one front.  The flag tells whether the
  week stays open for the next front.
-/
def fillFront :
    WeekLoad α → List (CostedLesson α) →
      WeekLoad α × List (CostedLesson α) × Bool
| load, [] => (load, [], true)
| load, l :: rest =>
    if load.fits l then
      fillFront (load.add l false) rest
    else if load.isEmpty then
      (load.add l true, rest, false)
    else
      (load, l :: rest, false)

/-
  Fill a week one front after the other.  The first lesson
  that does not fit closes the week; it is forced when the
  week is empty.
-/
def fillSequential :
    WeekLoad α → List (List (CostedLesson α)) →
      WeekLoad α × List (List (CostedLesson α))
| load, [] => (load, [])
| load, front :: fronts =>
    match fillFront load front with
    | (load, _, true) => fillSequential load fronts
    | (load, rest, false) => (load, rest :: fronts)

end Timetable.Plan
