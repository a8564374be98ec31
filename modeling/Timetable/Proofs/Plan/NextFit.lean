import Timetable.Proofs.Plan.StudyOrder
import Timetable.Proofs.Plan.Visits

/-
  This file shows that packing front by front is next-fit
  packing of one list: the lessons in the order of study are
  put into the week at hand while they fit it, and what does
  not fit closes the week.  Where the fronts end in the list
  does not matter.

  Key definitions include:
    * `appendForced`

  Main theorems include:
    * `nextFitWeek_append`
    * `fillSequential_nextFit`
    * `visitWeeks_nextFit`
    * `distribute_nextFit`
-/

namespace Timetable.Plan

variable {α : Type} [Scalar α]

------------------------------------------------------------
-- One Week
------------------------------------------------------------

/-
  To pack a list into a week is to pack its first part, and
  then the rest if the week is still open.
-/
theorem nextFitWeek_append
    (load : WeekLoad α)
    (front rest : List (CostedLesson α)) :
    nextFitWeek load (front ++ rest) =
      if (fillFront load front).2.2 then
        nextFitWeek (fillFront load front).1 rest
      else
        ((fillFront load front).1, (fillFront load front).2.1 ++ rest) := by
  induction front generalizing load with
  | nil => rfl
  | cons l front ih =>
      rw [List.cons_append, nextFitWeek, fillFront]
      by_cases hFits : load.fits l = true
      · rw [if_pos hFits, if_pos hFits]
        exact ih (load.add l false)
      · rw [if_neg hFits, if_neg hFits]
        split <;> rfl

/- A week that is filled front by front is packed from their lessons in a row. -/
theorem fillSequential_nextFit
    (load : WeekLoad α)
    (fronts : List (List (CostedLesson α))) :
    nextFitWeek load fronts.flatten =
      ((fillSequential load fronts).1,
        (fillSequential load fronts).2.flatten) := by
  induction fronts generalizing load with
  | nil => rfl
  | cons front fronts ih =>
      rw [List.flatten_cons, nextFitWeek_append]
      unfold fillSequential
      generalize fillFront load front = filled
      rcases filled with ⟨middle, left, isOpen⟩
      cases isOpen with
      | true => exact ih middle
      | false => rfl

------------------------------------------------------------
-- All Weeks
------------------------------------------------------------

/- Without lessons nothing is packed. -/
theorem nextFit_nil
    (weeks : List (Week α)) :
    nextFit weeks [] = ([], []) := by
  induction weeks with
  | nil => rfl
  | cons w ws ih =>
      unfold nextFit
      split
      · simp only [nextFitWeek, ih]
        rfl
      · exact ih

/- Visiting weeks packs the lessons of all fronts in a row. -/
theorem visitWeeks_nextFit
    (weeks : List (Week α))
    (p : Progress α (List (List (CostedLesson α)))) :
    (visitWeeks sequentialStrategy weeks p).assignments =
        p.assignments ++ (nextFit weeks p.state.flatten).1 ∧
      (visitWeeks sequentialStrategy weeks p).state.flatten =
        (nextFit weeks p.state.flatten).2 := by
  induction weeks generalizing p with
  | nil => exact ⟨(List.append_nil _).symm, rfl⟩
  | cons w ws ih =>
      unfold visitWeeks
      by_cases hUseful : w.isUseful = true
      · rw [if_pos hUseful]
        split
        · rename_i hDone
          have hNone : p.state.flatten = [] := List.isEmpty_iff.mp hDone
          rw [hNone, nextFit_nil]
          exact ⟨(List.append_nil _).symm, rfl⟩
        · have hWeek :=
            fillSequential_nextFit (WeekLoad.opened w) p.state
          have hTable :
              nextFit (w :: ws) p.state.flatten =
                ((fillSequential (WeekLoad.opened w) p.state).1.assignments ++
                    (nextFit ws
                      (fillSequential (WeekLoad.opened w)
                        p.state).2.flatten).1,
                  (nextFit ws
                    (fillSequential (WeekLoad.opened w)
                      p.state).2.flatten).2) := by
            rw [nextFit, if_pos hUseful, hWeek]
          rcases ih
              ⟨p.assignments ++
                  (fillSequential (WeekLoad.opened w) p.state).1.assignments,
                some w.number,
                (fillSequential (WeekLoad.opened w) p.state).2⟩ with
            ⟨hAssignments, hState⟩
          rw [hTable, ← List.append_assoc]
          exact ⟨hAssignments, hState⟩
      · have hTable :
            nextFit (w :: ws) p.state.flatten =
              nextFit ws p.state.flatten := by
          rw [nextFit, if_neg hUseful]
        rw [if_neg hUseful, hTable]
        exact ih p

/- While lessons are left, the last visited week is the last of use. -/
theorem visitWeeks_lastWeek_of_left
    {σ : Type}
    {s : Strategy α σ}
    (hPacks : s.Packs)
    (weeks : List (Week α))
    (state : σ)
    (hLeft :
      s.remaining (visitWeeks s weeks ⟨[], none, state⟩).state ≠ []) :
    (visitWeeks s weeks ⟨[], none, state⟩).lastWeek =
      (weeks.filter (·.isUseful)).getLast?.map (·.number) := by
  have hLoads := visitWeeks_visited hPacks weeks ⟨[], none, state⟩
  rw [hLoads.lastWeek, ← hLoads.complete hLeft, Option.or_none]
  simp only [List.getLast?_map, Option.map_map]
  rfl

------------------------------------------------------------
-- What is Left Over
------------------------------------------------------------

/-
  Assignments with lessons appended to a week by force.  Their
  positions count on from the highest one that the week has.
-/
def appendForced
    (week : Int)
    (placed : List (Assignment α))
    (rest : List (CostedLesson α)) : List (Assignment α) :=
  placed ++
    rest.mapIdx (fun i l =>
      { lessonId := l.id
        frontId := l.frontId
        week := week
        position := (positionsIn week placed).foldl max 0 + (i + 1 : Nat)
        cost := l.cost
        forced := true })

omit [Scalar α] in
theorem lastPosition_eq_max
    (week : Int)
    (placed : List (Assignment α)) :
    lastPosition week placed =
      (positionsIn week placed).foldl max 0 := by
  have hFold :
      ∀ (xs : List (Assignment α)) (p : Int),
        xs.foldl
            (fun p a =>
              if a.week = week ∧ p < a.position then a.position
              else p) p =
          (positionsIn week xs).foldl max p := by
    intro xs
    induction xs with
    | nil =>
        intro p
        rfl
    | cons a xs ih =>
        intro p
        by_cases hWeek : a.week = week
        · have hMax :
              (if p < a.position then a.position else p) =
                max p a.position := by
            omega
          simp only [List.foldl_cons, hWeek, true_and, hMax, ih]
          simp [positionsIn, hWeek]
        · simp only [List.foldl_cons, hWeek, false_and, if_false, ih]
          simp [positionsIn, hWeek]
  exact hFold placed 0

omit [Scalar α] in
theorem overflowFrom_eq_mapIdx
    (week position : Int)
    (rest : List (CostedLesson α)) :
    overflowFrom week position rest =
      rest.mapIdx (fun i l =>
        { lessonId := l.id
          frontId := l.frontId
          week := week
          position := position + (i + 1 : Nat)
          cost := l.cost
          forced := true }) := by
  induction rest generalizing position with
  | nil => rfl
  | cons l rest ih =>
      rw [List.mapIdx_cons, overflowFrom, ih]
      congr 1
      apply congrArg (fun f => List.mapIdx f rest)
      funext i m
      congr 1
      omega

omit [Scalar α] in
/- What remains is appended to the last visited week. -/
theorem finish_appendForced
    {σ : Type}
    (s : Strategy α σ)
    (fronts : List (Front α))
    {p : Progress α σ}
    {week : Int}
    (hLast : p.lastWeek = some week)
    (hWeek : 0 ≤ week) :
    finish s fronts p =
      ⟨appendForced week p.assignments (s.remaining p.state), fronts,
        (s.remaining p.state).length⟩ := by
  unfold finish appendForced
  rw [hLast]
  simp only
  rw [if_neg (by omega), overflowFrom_eq_mapIdx, lastPosition_eq_max]

omit [Scalar α] in
@[simp] theorem appendForced_nil
    (week : Int)
    (placed : List (Assignment α)) :
    appendForced week placed [] = placed :=
  List.append_nil placed

------------------------------------------------------------
-- Distributions
------------------------------------------------------------

/-
  With a week to put lessons into, distributing front by front
  is to take the lessons in the order of study, to pack this
  one list over the weeks of use by next-fit, and to append
  what is left by force to the last of them.
-/
theorem distribute_nextFit
    (lessons : List (CostedLesson α))
    (weeks : List (Week α))
    (frontOrder : List String)
    (hLessons : lessons ≠ [])
    (hNumbers : ∀ w ∈ weeks, 0 ≤ w.number)
    (hUseful : ∃ w ∈ weeks, w.isUseful = true) :
    ∃ last,
      (weeks.filter (·.isUseful)).getLast? = some last ∧
      distribute lessons weeks .sequential frontOrder =
        .ok
          { assignments :=
              appendForced last.number
                (nextFit weeks (studyOrder frontOrder lessons)).1
                (nextFit weeks (studyOrder frontOrder lessons)).2
            fronts := groupFronts lessons
            overflow :=
              (nextFit weeks (studyOrder frontOrder lessons)).2.length } := by
  have hState :
      ((orderFronts frontOrder (groupFronts lessons)).map
          (·.lessons)).flatten =
        studyOrder frontOrder lessons := by
    rw [← List.flatMap_def]
    exact lessons_orderFronts frontOrder lessons
  have hOk :
      distribute lessons weeks .sequential frontOrder =
        .ok (distributeSequential lessons weeks frontOrder) := by
    unfold distribute
    rw [if_neg (by simpa using hLessons)]
  have hSome : studyOrder frontOrder lessons ≠ [] := by
    rw [← lessons_orderFronts]
    intro hNone
    have hPerm :=
      (orderFronts_lessons_perm frontOrder (groupFronts lessons)).trans
        (groupFronts_lessons_perm lessons)
    unfold frontLessons at hPerm
    rw [hNone] at hPerm
    exact hLessons hPerm.nil_eq.symm
  rw [hOk]
  unfold distributeSequential
  simp only
  generalize
    (orderFronts frontOrder (groupFronts lessons)).map (·.lessons) = state at *
  have hVisit := visitWeeks_nextFit weeks ⟨[], none, state⟩
  simp only [hState, List.nil_append] at hVisit
  rcases hVisit with ⟨hAssignments, hLeft⟩
  have hRemaining :
      sequentialStrategy.remaining
          (visitWeeks sequentialStrategy weeks ⟨[], none, state⟩).state =
        (nextFit weeks (studyOrder frontOrder lessons)).2 :=
    hLeft
  have hWaiting :
      (sequentialStrategy.remaining state).isEmpty = false := by
    rw [List.isEmpty_eq_false_iff]
    change state.flatten ≠ []
    rw [hState]
    exact hSome
  rcases visitWeeks_visits weeks hUseful ⟨[], none, state⟩ hWaiting with
    ⟨visited, hVisited, hLastWeek⟩
  rcases hUseful with ⟨useful, hMember, hIsUseful⟩
  have hTable : weeks.filter (·.isUseful) ≠ [] :=
    List.ne_nil_of_mem (List.mem_filter.mpr ⟨hMember, hIsUseful⟩)
  refine ⟨_, List.getLast?_eq_some_getLast hTable, ?_⟩
  rw [finish_appendForced _ _ hLastWeek (hNumbers visited hVisited),
    hRemaining, hAssignments]
  by_cases hNone : (nextFit weeks (studyOrder frontOrder lessons)).2 = []
  · rw [hNone, appendForced_nil, appendForced_nil]
  · -- all weeks of use were visited, so that the last of them is the last of the table
    have hLast :=
      visitWeeks_lastWeek_of_left sequentialStrategy_packs weeks state
        (hRemaining.symm ▸ hNone)
    rw [hLastWeek, List.getLast?_eq_some_getLast hTable] at hLast
    rw [Option.some.inj hLast]

/- Lessons of two fronts, one of which takes more than an hour. -/
def unevenLessons : List (CostedLesson Float) :=
  [{ Lesson.blank Float with
      id := "a", frontId := "x", frontName := "Algebra", cost := 50 },
    { Lesson.blank Float with
      id := "b", frontId := "y", frontName := "biology ", cost := 70 },
    { Lesson.blank Float with
      id := "c", frontId := "x", frontName := "", cost := 20 }]

/- Two weeks of an hour each, and one between them without any time. -/
def hourWeeks : List (Week Float) :=
  [⟨1, .unset, .unset, false, 60⟩, ⟨2, .unset, .unset, true, 0⟩,
    ⟨3, .unset, .unset, false, 60⟩]

/-
  Of three lessons the one of the preferred front comes first
  and is too large for any week, and the last one is left over
  when the weeks of use are full.
-/
theorem distribute_nextFit_of_large_lesson :
    ∃ d,
      distribute unevenLessons hourWeeks .sequential
          ["Physics", " Biology"] = .ok d ∧
      d.assignments.map
          (fun a => (a.lessonId, a.week, a.position, a.forced)) =
        [("b", 1, 1, true), ("a", 3, 1, false), ("c", 3, 2, true)] ∧
      d.overflow = 1 := by
  rcases
      distribute_nextFit unevenLessons hourWeeks ["Physics", " Biology"]
        (by simp [unevenLessons]) (by simp [hourWeeks])
        ⟨_, List.mem_cons_self, by decide +kernel⟩ with
    ⟨last, hLast, hDistribute⟩
  have hThird : last.number = 3 := by
    have hTable :
        (hourWeeks.filter (·.isUseful)).getLast?.map (·.number) = some 3 := by
      decide +kernel
    rw [hLast] at hTable
    exact Option.some.inj hTable
  refine ⟨_, hDistribute, ?_, ?_⟩
  · rw [hThird]
    decide +kernel
  · dsimp only
    decide +kernel

end Timetable.Plan
