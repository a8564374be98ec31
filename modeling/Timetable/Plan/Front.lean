import Timetable.Plan.Lesson
import Timetable.Text.Blank
import Timetable.Text.Case

/-
  This file groups lessons by the front they belong to, and
  orders and weighs the fronts.

  Key definitions include:
    * `Front`
    * `Front.push`
    * `addToFronts`
    * `groupFronts`
    * `weighFronts`
    * `frontRank`
    * `orderFronts`
-/

namespace Timetable.Plan

------------------------------------------------------------
-- Grouping
------------------------------------------------------------

/-
  The lessons of one front in study order, with their cost
  and the share of each week that the front is given.
-/
structure Front (α : Type) where
  id : String
  name : String
  lessons : List (CostedLesson α)
  totalCost : α
  weight : α
deriving Repr

variable {α : Type} [Scalar α]

/- Put a lesson at the end of a front. -/
def Front.push
    (f : Front α)
    (l : CostedLesson α) : Front α :=
  { f with
    lessons := f.lessons ++ [l]
    totalCost := f.totalCost + l.cost }

/- The front of a first lesson. -/
def Front.opened (l : CostedLesson α) : Front α :=
  ⟨l.frontId, l.frontName, [l], Scalar.zero + l.cost, Scalar.zero⟩

/- Put a lesson into its front, which is opened at the end when it is new. -/
def addToFronts
    (l : CostedLesson α) : List (Front α) → List (Front α)
| [] => [Front.opened l]
| f :: fs =>
    if f.id = l.frontId then f.push l :: fs
    else f :: addToFronts l fs

/- Fronts in order of first appearance, each with its lessons in order. -/
def groupFronts (lessons : List (CostedLesson α)) : List (Front α) :=
  lessons.foldl (fun fs l => addToFronts l fs) []

------------------------------------------------------------
-- Weights
------------------------------------------------------------

/-
  Give every front the share of a week that its cost is of
  the whole; fronts without any cost share equally.
-/
def weighFronts (fronts : List (Front α)) : List (Front α) :=
  let grand := Scalar.sum (fronts.map (·.totalCost))
  fronts.map (fun f =>
    { f with
      weight :=
        if Scalar.zero < grand then f.totalCost / grand
        else Scalar.ofInt 1 / Scalar.ofInt fronts.length })

------------------------------------------------------------
-- Preferred Order
------------------------------------------------------------

/- A front's name as it is compared: trimmed and in lower case. -/
def frontKey (name : String) : String :=
  Text.lower (Text.trim name)

/- The place of a front in a list of preferred names, the list's length when it has none. -/
def frontRank
    (preference : List String)
    (name : String) : Nat :=
  (preference.map frontKey).idxOf (frontKey name)

omit [Scalar α] in
/- Preferred fronts first, the others after them; ties keep their order. -/
def orderFronts
    (preference : List String)
    (fronts : List (Front α)) : List (Front α) :=
  fronts.mergeSort
    (fun a b => decide (frontRank preference a.name ≤ frontRank preference b.name))

end Timetable.Plan
