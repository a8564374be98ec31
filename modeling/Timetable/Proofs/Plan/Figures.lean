import Mathlib.Data.Finset.Card
import Timetable.Plan.Statistics
import Timetable.Proofs.Plan.FrontWeights
import Timetable.Proofs.Plan.Loads
import Timetable.Proofs.Plan.StudyOrder
import Timetable.Proofs.Plan.VisitedWeeks

/-
  This file compares the figures of a distribution, which are
  counted again from its assignments, with the lessons that
  it was made of.  No lesson and no front is lost; of what is
  forced, a part was left over, and each other one is alone in
  a week that is too short for it.  Over the rationals nothing
  of the cost is lost, either.

  Key definitions include:
    * `Distribution.placed`
    * `Distribution.holdsLongLesson`
    * `Distribution.figures`

  Main theorems include:
    * `length_distinct`
    * `Composed.countP_forced`
    * `sum_costs_distribute`
    * `summarize_distribute`
-/

namespace Timetable.Plan

------------------------------------------------------------
-- Distinct Texts
------------------------------------------------------------

theorem distinct_concat
    (xs : List String)
    (x : String) :
    distinct (xs ++ [x]) =
      if x ∈ distinct xs then distinct xs else distinct xs ++ [x] := by
  unfold distinct
  rw [List.foldl_append]
  simp

/- Each text is listed once, and none is left out. -/
theorem distinct_lists
    (xs : List String) :
    (distinct xs).Nodup ∧ ∀ x, x ∈ distinct xs ↔ x ∈ xs := by
  induction xs using List.reverseRecOn with
  | nil => exact ⟨List.nodup_nil, fun _ => Iff.rfl⟩
  | append_singleton xs y ih =>
      rcases ih with ⟨hOnce, hSame⟩
      rw [distinct_concat]
      split
      · rename_i hKnown
        refine ⟨hOnce, ?_⟩
        intro x
        rw [hSame, List.mem_append, List.mem_singleton]
        constructor
        · exact Or.inl
        · rintro (hOld | rfl)
          · exact hOld
          · exact (hSame x).mp hKnown
      · rename_i hNew
        constructor
        · exact List.nodup_append.mpr
            ⟨hOnce, List.nodup_singleton y, by
              intro x hx z hz hEq
              rw [List.mem_singleton.mp hz] at hEq
              exact hNew (hEq ▸ hx)⟩
        · intro x
          rw [List.mem_append, List.mem_append, hSame]

/- There are as many as the texts make a set of. -/
theorem length_distinct
    (xs : List String) :
    (distinct xs).length = xs.toFinset.card := by
  rcases distinct_lists xs with ⟨hOnce, hSame⟩
  rw [← List.toFinset_card_of_nodup hOnce]
  congr 1
  ext x
  rw [List.mem_toFinset, List.mem_toFinset, hSame]

variable {α : Type} [Scalar α]

------------------------------------------------------------
-- Fronts
------------------------------------------------------------

/- A distribution keeps the fronts of its lessons, with their costs. -/
theorem distribute_fronts
    {lessons : List (CostedLesson α)}
    {weeks : List (Week α)}
    {mode : Mode}
    {frontOrder : List String}
    {d : Distribution α}
    (hDistribute : distribute lessons weeks mode frontOrder = .ok d) :
    d.fronts.map (fun f => (f.id, f.totalCost)) =
      (groupFronts lessons).map (fun f => (f.id, f.totalCost)) := by
  unfold distribute at hDistribute
  split at hDistribute
  · cases hDistribute
  · cases mode with
    | parallel =>
        cases hDistribute
        change List.map _ (finish _ _ _).fronts = _
        rw [finish_fronts]
        unfold weighFronts
        rw [List.map_map]
        rfl
    | sequential =>
        cases hDistribute
        change List.map _ (finish _ _ _).fronts = _
        rw [finish_fronts]

/- There is a front for each front id among the lessons. -/
theorem length_groupFronts
    (lessons : List (CostedLesson α)) :
    (groupFronts lessons).length =
      (lessons.map (·.frontId)).toFinset.card := by
  have hIds := (groupFronts_appeared lessons).ids
  have hOnce := (groupFronts_grouped lessons).distinct
  rw [← List.length_map, ← List.toFinset_card_of_nodup hOnce, hIds]
  congr 1
  ext front
  rw [List.mem_toFinset, List.mem_toFinset, mem_frontIds, List.mem_map]

/- A distribution has a front for each front id among the lessons. -/
theorem length_fronts_distribute
    {lessons : List (CostedLesson α)}
    {weeks : List (Week α)}
    {mode : Mode}
    {frontOrder : List String}
    {d : Distribution α}
    (hDistribute : distribute lessons weeks mode frontOrder = .ok d) :
    d.fronts.length = (lessons.map (·.frontId)).toFinset.card := by
  have hPairs := congrArg List.length (distribute_fronts hDistribute)
  rw [List.length_map, List.length_map] at hPairs
  exact hPairs.trans (length_groupFronts lessons)

/- As many front ids occur among the assignments as among the lessons. -/
theorem card_frontIds_distribute
    {lessons : List (CostedLesson α)}
    {weeks : List (Week α)}
    {mode : Mode}
    {frontOrder : List String}
    {d : Distribution α}
    (hNumbers : ∀ w ∈ weeks, 0 ≤ w.number)
    (hUseful : ∃ w ∈ weeks, w.isUseful = true)
    (hDistribute : distribute lessons weeks mode frontOrder = .ok d) :
    (distinct (d.assignments.map (·.frontId))).length =
      (lessons.map (·.frontId)).toFinset.card := by
  have hFronts :=
    (distribute_origins_perm hNumbers hUseful hDistribute).map (·.2.1)
  rw [List.map_map, List.map_map] at hFronts
  rw [length_distinct]
  exact congrArg Finset.card (List.toFinset_eq_of_perm _ _ hFronts)

------------------------------------------------------------
-- Forced Lessons
------------------------------------------------------------

omit [Scalar α] in
/- The assignments of a distribution without those of what was left over. -/
def Distribution.placed (d : Distribution α) : List (Assignment α) :=
  d.assignments.take (d.assignments.length - d.overflow)

/- A single lesson, which is too long for a week of some capacity while it is empty. -/
def isLongLesson
    (capacity : α) : List (Assignment α) → Bool
| [a] => !decide (Scalar.zero + a.cost ≤ capacity + tolerance)
| _ => false

/- Nothing but a lesson that is too long for it was placed in a week. -/
def Distribution.holdsLongLesson
    (d : Distribution α)
    (w : Week α) : Bool :=
  isLongLesson w.capacity (d.placed.filter (fun a => a.week = w.number))

/- Lessons that fit in order are not one that is too long. -/
theorem FitsInOrder.isLongLesson_eq_false
    {capacity : α}
    {assignments : List (Assignment α)}
    (h : FitsInOrder capacity assignments) :
    isLongLesson capacity assignments = false := by
  unfold isLongLesson
  split
  · rename_i a
    have hTime : Scalar.zero + a.cost ≤ capacity + tolerance :=
      (h [] a [] rfl).2
    simpa using hTime
  · rfl

/- What is forced into a week that is filled is a lesson that is too long for it. -/
theorem WeekLoad.Filled.countP_forced
    {load : WeekLoad α}
    (h : load.Filled) :
    load.assignments.countP (·.forced) =
      if isLongLesson load.week.capacity load.assignments then 1 else 0 := by
  rcases h.holds with hFits | ⟨a, hOnly, hForced, hLong⟩
  · rw [hFits.isLongLesson_eq_false, List.countP_eq_zero.mpr]
    · rfl
    · intro a ha hForced
      rcases List.append_of_mem ha with ⟨before, after, hSplit⟩
      rw [(hFits before a after hSplit).1] at hForced
      cases hForced
  · rw [hOnly]
    simp [isLongLesson, hForced, hLong]

/- Where each element brings one of a kind or none, those are counted that bring one. -/
theorem countP_flatMap_of_single
    {β γ : Type}
    {f : β → List γ}
    {p : γ → Bool}
    {q : β → Bool}
    {xs : List β}
    (hSingle : ∀ x ∈ xs, (f x).countP p = if q x then 1 else 0) :
    (xs.flatMap f).countP p = xs.countP q := by
  induction xs with
  | nil => rfl
  | cons x xs ih =>
      rw [List.flatMap_cons, List.countP_append, List.countP_cons,
        hSingle x List.mem_cons_self,
        ih (fun y hy => hSingle y (List.mem_cons_of_mem x hy)),
        Nat.add_comm]

section Composed

variable
  {weeks : List (Week α)}
  {d : Distribution α}
  {loads : List (WeekLoad α)}
  {surplus : List (Assignment α)}

theorem Composed.placed_eq
    (h : Composed weeks d loads surplus) :
    d.placed = loads.flatMap (·.assignments) := by
  unfold Distribution.placed
  rw [← h.overflow, h.assignments, List.length_append,
    Nat.add_sub_cancel, List.take_left]

/- What was placed in a week that is filled is what the week holds. -/
theorem Composed.placed_in_load
    (h : Composed weeks d loads surplus)
    (hDistinct : (weeks.map (·.number)).Nodup)
    {load : WeekLoad α}
    (hLoad : load ∈ loads) :
    d.placed.filter (fun a => a.week = load.week.number) =
      load.assignments := by
  rcases (h.filled load hLoad).exists_assignment with ⟨a, ha, hWeek⟩
  have hPlaced : a ∈ loads.flatMap (·.assignments) :=
    List.mem_flatMap.mpr ⟨load, hLoad, ha⟩
  rcases List.append_of_mem hPlaced with ⟨before, after, hSplit⟩
  rcases h.split_placed hDistinct hSplit with
    ⟨other, hOther, inner, outer, hNumber, hHeld, hBefore, hAfter⟩
  have hSame : other = load :=
    List.inj_on_of_nodup_map (h.distinct hDistinct) hOther hLoad
      (hNumber.trans hWeek)
  rw [h.placed_eq, hSplit, ← hSame, hNumber, List.filter_append,
    List.filter_cons_of_pos (by simp), hBefore, hAfter, hHeld]

/- A week with a lesson that is too long for it is one that was filled. -/
theorem Composed.mem_loads_of_holdsLongLesson
    (h : Composed weeks d loads surplus)
    (hDistinct : (weeks.map (·.number)).Nodup)
    {w : Week α}
    (hw : w ∈ weeks)
    (hHolds : d.holdsLongLesson w = true) :
    w ∈ loads.map (·.week) := by
  have hSome : d.placed.filter (fun a => a.week = w.number) ≠ [] := by
    intro hNone
    rw [Distribution.holdsLongLesson, hNone] at hHolds
    cases hHolds
  rcases List.exists_mem_of_ne_nil _ hSome with ⟨a, ha⟩
  rcases List.mem_filter.mp ha with ⟨hPlaced, hWeek⟩
  rw [h.placed_eq] at hPlaced
  rcases List.mem_flatMap.mp hPlaced with ⟨load, hLoad, hHeld⟩
  have hNumber : load.week.number = w.number := by
    rw [← (h.filled load hLoad).weeks a hHeld]
    simpa using hWeek
  have hSame : load.week = w :=
    List.inj_on_of_nodup_map hDistinct (h.mem_week hLoad).1 hw hNumber
  rw [← hSame]
  exact List.mem_map_of_mem hLoad

/- Weeks with a lesson that is too long for them may be counted among those that were filled. -/
theorem Composed.countP_holdsLongLesson
    (h : Composed weeks d loads surplus)
    (hDistinct : (weeks.map (·.number)).Nodup) :
    weeks.countP d.holdsLongLesson =
      loads.countP (fun load =>
        isLongLesson load.week.capacity load.assignments) := by
  have hOnce : weeks.Nodup := hDistinct.of_map
  have hFilled : (loads.map (·.week)).Nodup :=
    (hOnce.filter _).sublist h.inOrder
  have hPerm :
      (weeks.filter d.holdsLongLesson).Perm
        ((loads.map (·.week)).filter d.holdsLongLesson) := by
    rw [List.perm_ext_iff_of_nodup (hOnce.filter _) (hFilled.filter _)]
    intro w
    rw [List.mem_filter, List.mem_filter]
    constructor
    · rintro ⟨hw, hHolds⟩
      exact ⟨h.mem_loads_of_holdsLongLesson hDistinct hw hHolds, hHolds⟩
    · rintro ⟨hw, hHolds⟩
      exact ⟨(List.mem_filter.mp (h.inOrder.subset hw)).1, hHolds⟩
  rw [List.countP_eq_length_filter, hPerm.length_eq,
    ← List.countP_eq_length_filter, List.countP_map]
  apply List.countP_congr
  intro load hLoad
  rw [Function.comp_apply, Distribution.holdsLongLesson,
    h.placed_in_load hDistinct hLoad]

/- Forced is what was left over, and what is too long for its week. -/
theorem Composed.countP_forced
    (h : Composed weeks d loads surplus)
    (hDistinct : (weeks.map (·.number)).Nodup) :
    d.assignments.countP (·.forced) =
      weeks.countP d.holdsLongLesson + d.overflow := by
  have hSurplus : surplus.countP (·.forced) = surplus.length :=
    List.countP_eq_length.mpr h.forced
  rw [h.assignments, List.countP_append, hSurplus, h.overflow,
    h.countP_holdsLongLesson hDistinct]
  congr 1
  apply countP_flatMap_of_single
  intro load hLoad
  exact (h.filled load hLoad).countP_forced

end Composed

------------------------------------------------------------
-- Costs
------------------------------------------------------------

/- The costs of fronts are those of their lessons. -/
theorem sum_totalCost_fronts
    {fronts : List (Front Rat)}
    (hCosts : ∀ f ∈ fronts, f.totalCost = totalCost f.lessons) :
    (fronts.map (·.totalCost)).sum = totalCost (frontLessons fronts) := by
  induction fronts with
  | nil => rfl
  | cons f fronts ih =>
      rw [List.forall_mem_cons] at hCosts
      rw [List.map_cons, List.sum_cons, ih hCosts.2, hCosts.1,
        ← totalCost_append]
      rfl

theorem sum_groupFronts_totalCost
    (lessons : List (CostedLesson Rat)) :
    Scalar.sum ((groupFronts lessons).map (·.totalCost)) =
      totalCost lessons := by
  rw [sum_eq, sum_totalCost_fronts (groupFronts_totalCost lessons)]
  exact totalCost_perm (groupFronts_lessons_perm lessons)

/- The costs of assignments are those of the lessons that were distributed. -/
theorem sum_costs_distribute
    {lessons : List (CostedLesson Rat)}
    {weeks : List (Week Rat)}
    {mode : Mode}
    {frontOrder : List String}
    {d : Distribution Rat}
    (hNumbers : ∀ w ∈ weeks, 0 ≤ w.number)
    (hUseful : ∃ w ∈ weeks, w.isUseful = true)
    (hDistribute : distribute lessons weeks mode frontOrder = .ok d) :
    Scalar.sum (d.assignments.map (·.cost)) = totalCost lessons := by
  have hOrigins :=
    (distribute_origins_perm hNumbers hUseful hDistribute).map (·.2.2)
  rw [List.map_map, List.map_map] at hOrigins
  rw [sum_eq, totalCost_eq_sum]
  exact hOrigins.sum_eq

------------------------------------------------------------
-- The Figures of a Distribution
------------------------------------------------------------

/- What is summed up about a distribution over weeks. -/
def Distribution.figures
    (d : Distribution α)
    (weeks : List (Week α)) : Statistics α :=
  summarize weeks d.assignments d.overflow

/-
  Lessons that are distributed over weeks with different
  numbers, one of which is of use, are all counted, and so are
  their fronts.  Of those that are forced, as many as were not
  left over are each alone in a week that is too short.  Over
  the rationals the whole cost is that of the lessons, and
  that of their fronts.
-/
theorem summarize_distribute :
    (∀ {α : Type} [Scalar α]
      {lessons : List (CostedLesson α)}
      {weeks : List (Week α)}
      {mode : Mode}
      {frontOrder : List String}
      {d : Distribution α},
      (∀ w ∈ weeks, 0 ≤ w.number) →
      (weeks.map (·.number)).Nodup →
      (∃ w ∈ weeks, w.isUseful = true) →
      distribute lessons weeks mode frontOrder = .ok d →
      (d.figures weeks).totalItems = lessons.length ∧
      (d.figures weeks).frontsTouched =
        (lessons.map (·.frontId)).toFinset.card ∧
      (d.figures weeks).frontsTouched = d.fronts.length ∧
      (d.figures weeks).overflowItems ≤ (d.figures weeks).forcedItems ∧
      (d.figures weeks).forcedItems - (d.figures weeks).overflowItems =
        weeks.countP d.holdsLongLesson) ∧
    (∀ {lessons : List (CostedLesson Rat)}
      {weeks : List (Week Rat)}
      {mode : Mode}
      {frontOrder : List String}
      {d : Distribution Rat},
      (∀ w ∈ weeks, 0 ≤ w.number) →
      (∃ w ∈ weeks, w.isUseful = true) →
      distribute lessons weeks mode frontOrder = .ok d →
      (d.figures weeks).totalCost = totalCost lessons ∧
      (d.figures weeks).totalCost =
        Scalar.sum (d.fronts.map (·.totalCost))) := by
  constructor
  · intro α _ lessons weeks mode frontOrder d hNumbers hDistinct hUseful
      hDistribute
    have hItems : d.assignments.length = lessons.length := by
      have hLengths :=
        (distribute_origins_perm hNumbers hUseful hDistribute).length_eq
      rwa [List.length_map, List.length_map] at hLengths
    have hTouched :
        (d.figures weeks).frontsTouched =
          (lessons.map (·.frontId)).toFinset.card :=
      card_frontIds_distribute hNumbers hUseful hDistribute
    rcases distribute_composed hDistribute with ⟨loads, surplus, hComposed⟩
    have hForced :
        (d.figures weeks).forcedItems =
          weeks.countP d.holdsLongLesson + d.overflow :=
      hComposed.countP_forced hDistinct
    have hOverflow : (d.figures weeks).overflowItems = d.overflow := rfl
    refine ⟨hItems, hTouched, ?_, ?_, ?_⟩
    · rw [hTouched, length_fronts_distribute hDistribute]
    · omega
    · omega
  · intro lessons weeks mode frontOrder d hNumbers hUseful hDistribute
    have hCost :=
      sum_costs_distribute hNumbers hUseful hDistribute
    have hFronts :
        d.fronts.map (·.totalCost) =
          (groupFronts lessons).map (·.totalCost) := by
      have hPairs :=
        congrArg (List.map (·.2)) (distribute_fronts hDistribute)
      rw [List.map_map, List.map_map] at hPairs
      exact hPairs
    refine ⟨hCost, ?_⟩
    rw [hFronts, sum_groupFronts_totalCost]
    exact hCost

/- Three lessons of two fronts, of which two are long. -/
def threeLessons : List (CostedLesson Rat) :=
  [("a", "x", 90), ("b", "y", 70), ("c", "y", 50)].map
    CostedLesson.ofOrigin

/- Two weeks of an hour with a vacation week between them. -/
def partedWeeks : List (Week Rat) :=
  [⟨1, .unset, .unset, false, 60⟩, ⟨2, .unset, .unset, true, 0⟩,
    ⟨3, .unset, .unset, false, 60⟩]

/-
  Of three lessons two are each alone in a week that is too
  short for it, and the last one is left over.
-/
theorem summarize_distribute_of_three :
    ∃ d,
      distribute threeLessons partedWeeks .parallel [] = .ok d ∧
      (d.figures partedWeeks).totalItems = 3 ∧
      (d.figures partedWeeks).frontsTouched = 2 ∧
      (d.figures partedWeeks).forcedItems = 3 ∧
      (d.figures partedWeeks).overflowItems = 1 ∧
      partedWeeks.countP d.holdsLongLesson = 2 ∧
      (d.figures partedWeeks).totalCost = 210 := by
  have hNumbers : ∀ w ∈ partedWeeks, 0 ≤ w.number := by
    decide
  have hUseful : ∃ w ∈ partedWeeks, w.isUseful = true := by
    decide
  have hPacked :
      ∃ d,
        distribute threeLessons partedWeeks .parallel [] = .ok d ∧
        (d.figures partedWeeks).forcedItems = 3 ∧
        (d.figures partedWeeks).overflowItems = 1 := by
    refine ⟨_, rfl, ?_⟩
    decide +kernel
  rcases hPacked with ⟨d, hDistribute, hForced, hOverflow⟩
  rcases
      summarize_distribute.1 hNumbers (by decide) hUseful hDistribute with
    ⟨hItems, hFronts, _, _, hLong⟩
  rcases summarize_distribute.2 hNumbers hUseful hDistribute with
    ⟨hCost, _⟩
  rw [hForced, hOverflow] at hLong
  refine ⟨d, hDistribute, hItems, ?_, hForced, hOverflow, ?_, ?_⟩
  · rw [hFronts]
    decide
  · omega
  · rw [hCost]
    decide +kernel

end Timetable.Plan
