import Timetable.Plan.Packing

/-
  This file distributes lessons over the weeks of a period.
  Weeks are visited in order until every lesson is placed;
  what no week had room for is appended to the last week
  that was visited.

  Key definitions include:
    * `Mode`
    * `Strategy`
    * `visitWeeks`
    * `overflowFrom`
    * `distribute`
    * `nextFit`
-/

namespace Timetable.Plan

------------------------------------------------------------
-- Modes
------------------------------------------------------------

/- How lessons of different fronts share a week. -/
inductive Mode where
| parallel : Mode
| sequential : Mode
deriving DecidableEq, Repr

namespace Mode

/- The name of a mode. -/
def name : Mode → String
| .parallel => "parallel"
| .sequential => "sequential"

/- The mode with a name. -/
def ofName? (s : String) : Option Mode :=
  if s = "parallel" then some .parallel
  else if s = "sequential" then some .sequential
  else none

/- The mode a name asks for; one that names none asks for parallel packing. -/
def ofName (s : String) : Mode :=
  (ofName? s).getD .parallel

end Mode

------------------------------------------------------------
-- Visiting Weeks
------------------------------------------------------------

variable {α : Type} [Scalar α]

/- A way of packing: how it fills a week, and what it has left. -/
structure Strategy (α σ : Type) where
  fill : WeekLoad α → σ → WeekLoad α × σ
  remaining : σ → List (CostedLesson α)

/- A week that lessons can be put into. -/
def Week.isUseful (w : Week α) : Bool :=
  !w.isVacation && !decide (w.capacity ≤ Scalar.zero)

/- The state after some weeks. -/
structure Progress (α σ : Type) where
  assignments : List (Assignment α)
  lastWeek : Option Int
  state : σ

/-
  Fill the useful weeks in order, and stop once nothing is
  left to place.
-/
def visitWeeks
    {σ : Type}
    (s : Strategy α σ) :
    List (Week α) → Progress α σ → Progress α σ
| [], p => p
| w :: ws, p =>
    if w.isUseful then
      if (s.remaining p.state).isEmpty then p
      else
        let (load, state) := s.fill (WeekLoad.opened w) p.state
        visitWeeks s ws
          ⟨p.assignments ++ load.assignments, some w.number, state⟩
    else
      visitWeeks s ws p

------------------------------------------------------------
-- Overflow
------------------------------------------------------------

omit [Scalar α] in
/- The last position that a week has taken. -/
def lastPosition
    (week : Int)
    (assignments : List (Assignment α)) : Int :=
  assignments.foldl
    (fun p a => if a.week = week ∧ p < a.position then a.position else p) 0

omit [Scalar α] in
/- Forced assignments of lessons to a week from a position on. -/
def overflowFrom
    (week : Int) :
    Int → List (CostedLesson α) → List (Assignment α)
| _, [] => []
| position, l :: rest =>
    { lessonId := l.id
      frontId := l.frontId
      week := week
      position := position + 1
      cost := l.cost
      forced := true } :: overflowFrom week (position + 1) rest

/- What a distribution consists of. -/
structure Distribution (α : Type) where
  assignments : List (Assignment α)
  fronts : List (Front α)
  overflow : Nat
deriving Repr

omit [Scalar α] in
/- Append what is left to the last visited week, when its number is not negative. -/
def finish
    {σ : Type}
    (s : Strategy α σ)
    (fronts : List (Front α))
    (p : Progress α σ) : Distribution α :=
  match p.lastWeek with
  | none => ⟨p.assignments, fronts, 0⟩
  | some week =>
      if week < 0 then ⟨p.assignments, fronts, 0⟩
      else
        let rest := s.remaining p.state
        ⟨p.assignments ++ overflowFrom week (lastPosition week p.assignments) rest,
          fronts, rest.length⟩

------------------------------------------------------------
-- The Two Modes
------------------------------------------------------------

/- All fronts share each week. -/
def parallelStrategy : Strategy α (List (Lane α)) where
  fill := fillParallel
  remaining lanes := lanes.flatMap (·.queue)

/- One front after the other. -/
def sequentialStrategy : Strategy α (List (List (CostedLesson α))) where
  fill := fillSequential
  remaining fronts := fronts.flatten

/- Distribute lessons in parallel. -/
def distributeParallel
    (lessons : List (CostedLesson α))
    (weeks : List (Week α)) : Distribution α :=
  let fronts := weighFronts (groupFronts lessons)
  finish parallelStrategy fronts
    (visitWeeks parallelStrategy weeks ⟨[], none, fronts.map (·.lane)⟩)

/- Distribute lessons front by front, preferred fronts first. -/
def distributeSequential
    (lessons : List (CostedLesson α))
    (weeks : List (Week α))
    (frontOrder : List String) : Distribution α :=
  let fronts := groupFronts lessons
  finish sequentialStrategy fronts
    (visitWeeks sequentialStrategy weeks
      ⟨[], none, (orderFronts frontOrder fronts).map (·.lessons)⟩)

/- There is nothing to distribute. -/
inductive DistributionError where
| noContent : DistributionError
deriving DecidableEq, Repr

/- The wording of the error. -/
def DistributionError.message : DistributionError → String
| .noContent => "no content items to distribute"

/- Distribute lessons over weeks. -/
def distribute
    (lessons : List (CostedLesson α))
    (weeks : List (Week α))
    (mode : Mode)
    (frontOrder : List String) : Except DistributionError (Distribution α) :=
  if lessons.isEmpty then .error .noContent
  else
    .ok
      (match mode with
      | .parallel => distributeParallel lessons weeks
      | .sequential => distributeSequential lessons weeks frontOrder)

------------------------------------------------------------
-- Next-Fit Packing of One List
------------------------------------------------------------

/-
  Pack one list into a week: place lessons while they fit,
  and close the week at the first that does not, which is
  forced when the week is empty.
-/
def nextFitWeek :
    WeekLoad α → List (CostedLesson α) →
      WeekLoad α × List (CostedLesson α)
| load, [] => (load, [])
| load, l :: rest =>
    if load.fits l then nextFitWeek (load.add l false) rest
    else if load.isEmpty then (load.add l true, rest)
    else (load, l :: rest)

/- Pack one list over the useful weeks of a table. -/
def nextFit :
    List (Week α) → List (CostedLesson α) →
      List (Assignment α) × List (CostedLesson α)
| [], rest => ([], rest)
| w :: ws, rest =>
    if w.isUseful then
      let (load, rest) := nextFitWeek (WeekLoad.opened w) rest
      let (more, rest) := nextFit ws rest
      (load.assignments ++ more, rest)
    else
      nextFit ws rest

end Timetable.Plan
