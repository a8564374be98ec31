import Timetable.Proofs.Plan.ExactCosts
import Timetable.Proofs.Plan.Loads
import Timetable.Proofs.Plan.VisitedWeeks

/-
  This file shows that fronts which share weeks leave no week
  with room for a lesson that could be placed in it: when a
  week has been filled, the next lesson of no front fits.

  Key definitions include:
    * `Full`

  Main theorems include:
    * `Draws.full`
    * `leftoverPass_full`
    * `fillParallel_full`
    * `distribute_parallel_leaves_no_room`
-/

namespace Timetable.Plan

open WeekLoad (unforced)

------------------------------------------------------------
-- Full Weeks
------------------------------------------------------------

/- The next lesson of no lane fits the week. -/
def Full
    (load : WeekLoad Rat)
    (lanes : List (Lane Rat)) : Prop :=
  ∀ lane ∈ lanes, ∀ l rest,
    lane.queue = l :: rest → load.fits l = false

/- What does not fit a week does not fit it with more lessons, either. -/
theorem WeekLoad.fits_addAll
    {load : WeekLoad Rat}
    {l : CostedLesson Rat}
    (hFull : load.fits l = false)
    {placed : List (CostedLesson Rat × Bool)}
    (hCosts : NonnegCosts (placed.map (·.1))) :
    (load.addAll placed).fits l = false := by
  rw [fits_eq_false_iff] at hFull ⊢
  rw [addAll_week, used_addAll]
  have hMore := hCosts.totalCost_nonneg
  linarith

/- A full week stays full, whatever is drawn from its lanes. -/
theorem Draws.full
    {load : WeekLoad Rat}
    {lanes : List (Lane Rat)}
    {placed : List (CostedLesson Rat × Bool)}
    {result : WeekLoad Rat × List (Lane Rat)}
    (hDraws : Draws load lanes placed result)
    (hCosts : NonnegCosts (waiting lanes))
    (hFull : Full load lanes) :
    Full result.1 result.2 := by
  have hPlaced : NonnegCosts (placed.map (·.1)) :=
    hCosts.of_subset hDraws.drawn.subset.1
  intro left hLeft l rest hQueue
  rw [hDraws.load_eq]
  rcases hDraws.drawn.exists_lane left hLeft with
    ⟨lane, hLane, _, taken, hTaken, hSublist⟩
  cases taken with
  | nil =>
      have hFits := hFull lane hLane l rest (hTaken.symm.trans hQueue)
      exact WeekLoad.fits_addAll hFits hPlaced
  | cons first taken =>
      -- the lane's first lesson, which did not fit, is now in the week
      have hFits := hFull lane hLane first _ hTaken.symm
      rw [WeekLoad.fits_eq_false_iff] at hFits ⊢
      rw [WeekLoad.addAll_week, WeekLoad.used_addAll]
      have hFirst := cost_le_totalCost hPlaced
        (hSublist.subset List.mem_cons_self)
      have hl : 0 ≤ l.cost :=
        hCosts.of_subset hDraws.drawn.subset.2 l
          (List.mem_flatMap.mpr ⟨left, hLeft, by simp [hQueue]⟩)
      linarith

------------------------------------------------------------
-- Filling Weeks
------------------------------------------------------------

/- When all lanes have been offered what is left of a week, it is full. -/
theorem leftoverPass_full
    (load : WeekLoad Rat)
    {lanes : List (Lane Rat)}
    (hCosts : NonnegCosts (waiting lanes)) :
    Full (leftoverPass load lanes).1 (leftoverPass load lanes).2 := by
  induction lanes generalizing load with
  | nil => nofun
  | cons first lanes ih =>
      have hLater : NonnegCosts (waiting lanes) :=
        hCosts.of_subset (List.subset_append_right first.queue _)
      rcases leftoverPass_draws (fillWhileFits load first.queue).1
          lanes with
        ⟨more, hMore⟩
      intro lane hLane l rest hQueue
      rcases List.mem_cons.mp hLane with rfl | hBehind
      · -- the lanes behind only add to the week that the lane has left
        have hFits := fillWhileFits_stuck hQueue
        change (leftoverPass (fillWhileFits load first.queue).1
          lanes).1.fits l = false
        rw [hMore.load_eq]
        exact WeekLoad.fits_addAll hFits
          (hLater.of_subset hMore.drawn.subset.1)
      · exact ih _ hLater lane hBehind l rest hQueue

/- A week that is filled in parallel is full. -/
theorem fillParallel_full
    (load : WeekLoad Rat)
    {lanes : List (Lane Rat)}
    (hCosts : NonnegCosts (waiting lanes)) :
    Full (fillParallel load lanes).1 (fillParallel load lanes).2 := by
  rcases quotaPass_draws load lanes with ⟨first, hQuota⟩
  rcases leftoverPass_draws (quotaPass load lanes).1
      (quotaPass load lanes).2 with
    ⟨second, hLeftover⟩
  have hWaiting := hCosts.of_subset hQuota.drawn.subset.2
  have hFull := leftoverPass_full (quotaPass load lanes).1 hWaiting
  unfold fillParallel
  simp only
  split
  · rename_i hEmpty
    rcases forceFirst_draws hEmpty hFull with ⟨placed, hForce⟩
    exact hForce.full
      (hWaiting.of_subset hLeftover.drawn.subset.2) hFull
  · exact hFull

------------------------------------------------------------
-- Distributions
------------------------------------------------------------

/-
  When fronts share weeks, and no lesson takes less than no
  time, the next lesson of no front fits a week that has been
  filled: with the minutes that the week holds it would take
  more than the week has.
-/
theorem distribute_parallel_leaves_no_room
    {lessons : List (CostedLesson Rat)}
    {weeks : List (Week Rat)}
    {frontOrder : List String}
    {d : Distribution Rat}
    (hCosts : ∀ l ∈ lessons, 0 ≤ l.cost)
    (hDistribute :
      distribute lessons weeks .parallel frontOrder = .ok d) :
    (∃ surplus,
      Composed weeks d ((parallelVisits d.fronts weeks).map (·.load))
        surplus) ∧
    ∀ before v after,
      parallelVisits d.fronts weeks = before ++ v :: after →
      v.load.used = minutesOf v.load.assignments ∧
      ∀ f ∈ d.fronts, ∃ left,
        Leaves lessons (assignedBy (before ++ [v])) f.id left ∧
        ∀ id cost rest, left = (id, cost) :: rest →
          v.load.week.capacity + tolerance < v.load.used + cost := by
  rcases (distribute_parallelVisits hDistribute).2.2 with
    ⟨surplus, hComposed⟩
  refine ⟨⟨surplus, hComposed⟩, ?_⟩
  intro before v after hVisits
  have hMember : v ∈ parallelVisits d.fronts weeks := by
    rw [hVisits]
    exact List.mem_append_right before List.mem_cons_self
  have hFilled := hComposed.filled v.load (List.mem_map_of_mem hMember)
  rcases
      forall_parallelVisits hCosts hDistribute
        (P := fun v => Full v.load v.state)
        (fun w _ _ hReady =>
          fillParallel_full (WeekLoad.opened w) hReady.costs) v hMember with
    ⟨hFull, hReady⟩
  refine ⟨hFilled.accounts, ?_⟩
  intro f hf
  rcases leaves_of_parallelVisits hDistribute hVisits hReady.lined hf with
    ⟨left, hLeft, hNext⟩
  refine ⟨left, hLeft, ?_⟩
  intro id cost rest hFirst
  rcases hNext _ _ hFirst with ⟨lane, hLane, _, l, queue, hQueue, hSame⟩
  cases hSame
  rw [← WeekLoad.fits_eq_false_iff]
  exact hFull lane hLane l queue hQueue

/- Of an hour that two fronts share, ten minutes are not enough for a lesson. -/
theorem distribute_parallel_leaves_no_room_of_two_fronts :
    (∀ l ∈ sharedLessons, 0 ≤ l.cost) ∧
    ∃ d v,
      distribute sharedLessons [sharedHour] .parallel [] = .ok d ∧
      parallelVisits d.fronts [sharedHour] = [v] ∧
      v.load.assignments.map (·.lessonId) = ["a", "b"] ∧
      Leaves sharedLessons (assignedBy [v]) "y" [("e", 20)] ∧
      60 + tolerance < v.load.used + 20 := by
  have hCosts : ∀ l ∈ sharedLessons, 0 ≤ l.cost := by
    decide +kernel
  rcases sharedHour_visits with
    ⟨d, v, hDistribute, hVisits, hIds, hHour, hSecond, _, f, hf, hId, _⟩
  rcases
      ((distribute_parallel_leaves_no_room hCosts hDistribute).2
        [] v [] hVisits).2 f hf with
    ⟨left, hLeft, hRoom⟩
  rw [hId] at hLeft
  have hSame : left = [("e", 20)] :=
    List.append_cancel_left (hLeft.symm.trans hSecond)
  have hFull := hRoom _ _ _ hSame
  rw [hHour] at hFull
  exact ⟨hCosts, d, v, hDistribute, hVisits, hIds, hSecond, hFull⟩

end Timetable.Plan
