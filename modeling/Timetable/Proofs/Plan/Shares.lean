import Timetable.Proofs.Plan.FrontWeights
import Timetable.Proofs.Plan.Loads
import Timetable.Proofs.Plan.VisitedWeeks

/-
  This file shows that fronts share a week fairly.  A front
  that has lessons left when the week has been filled was
  given its share of the week, up to its next lesson and up to
  what each front may take beyond its quota.

  Key definitions include:
    * `WeekLoad.minutesFor`
    * `Lane.HasShare`
    * `Quotas`

  Main theorems include:
    * `fillQuota_spends`
    * `Quotas.hasShare`
    * `quotaPass_hasShare`
    * `Draws.hasShare`
    * `distribute_parallel_shares`
-/

namespace Timetable.Plan

open WeekLoad (unforced)

------------------------------------------------------------
-- Minutes of a Front
------------------------------------------------------------

/- The minutes of a week that a front has been given. -/
def WeekLoad.minutesFor
    {α : Type}
    [Scalar α]
    (front : String)
    (load : WeekLoad α) : α :=
  minutesOf (load.assignments.filter (fun a => a.frontId = front))

namespace WeekLoad

theorem minutesFor_add
    (front : String)
    (load : WeekLoad Rat)
    (l : CostedLesson Rat)
    (forced : Bool) :
    (load.add l forced).minutesFor front =
      load.minutesFor front + totalCost (ofFront front [l]) := by
  unfold minutesFor WeekLoad.add
  rw [List.filter_append]
  by_cases hFront : l.frontId = front
  · rw [ofFront_cons_same hFront]
    simp [hFront, minutesOf_concat, ofFront]
  · rw [ofFront_cons_other hFront]
    simp [hFront, ofFront]

theorem minutesFor_addAll
    (front : String)
    (load : WeekLoad Rat)
    (placed : List (CostedLesson Rat × Bool)) :
    (load.addAll placed).minutesFor front =
      load.minutesFor front +
        totalCost (ofFront front (placed.map (·.1))) := by
  induction placed generalizing load with
  | nil => simp [ofFront]
  | cons entry placed ih =>
      rw [addAll_cons, ih, minutesFor_add, add_assoc,
        ← totalCost_append, ← ofFront_append]
      rfl

/- More lessons do not take minutes from a front. -/
theorem minutesFor_le_addAll
    (front : String)
    (load : WeekLoad Rat)
    {placed : List (CostedLesson Rat × Bool)}
    (hCosts : NonnegCosts (placed.map (·.1))) :
    load.minutesFor front ≤ (load.addAll placed).minutesFor front := by
  have hOwn : NonnegCosts (ofFront front (placed.map (·.1))) :=
    hCosts.of_subset (List.filter_subset_self _)
  rw [minutesFor_addAll]
  have hMore := hOwn.totalCost_nonneg
  linarith

end WeekLoad

------------------------------------------------------------
-- Shares
------------------------------------------------------------

/-
  The front of a lane was given its share of a week, up to its
  next lesson and up to some slack.
-/
def Lane.HasShare
    (slack : Rat)
    (load : WeekLoad Rat)
    (lane : Lane Rat) : Prop :=
  ∀ l rest, lane.queue = l :: rest →
    load.week.capacity * lane.weight - slack <
      load.minutesFor l.frontId + l.cost

theorem Lane.HasShare.mono
    {slack more : Rat}
    (hSlack : slack ≤ more)
    {load : WeekLoad Rat}
    {lane : Lane Rat}
    (h : lane.HasShare slack load) :
    lane.HasShare more load := by
  intro l rest hQueue
  have hShare := h l rest hQueue
  linarith

theorem Lane.HasShare.addAll
    {slack : Rat}
    {load : WeekLoad Rat}
    {lane : Lane Rat}
    (h : lane.HasShare slack load)
    {placed : List (CostedLesson Rat × Bool)}
    (hCosts : NonnegCosts (placed.map (·.1))) :
    lane.HasShare slack (load.addAll placed) := by
  intro l rest hQueue
  have hShare := h l rest hQueue
  have hMore := load.minutesFor_le_addAll l.frontId hCosts
  rw [WeekLoad.addAll_week]
  linarith

/- A front keeps its share, whatever is drawn from the lanes. -/
theorem Draws.hasShare
    {slack : Rat}
    {load : WeekLoad Rat}
    {lanes : List (Lane Rat)}
    {placed : List (CostedLesson Rat × Bool)}
    {result : WeekLoad Rat × List (Lane Rat)}
    (hDraws : Draws load lanes placed result)
    {fronts : List (Front Rat)}
    (hReady : Ready fronts lanes)
    (hShares : ∀ lane ∈ lanes, lane.HasShare slack load) :
    ∀ left ∈ result.2, left.HasShare slack result.1 := by
  have hPlaced : NonnegCosts (placed.map (·.1)) :=
    hReady.costs.of_subset hDraws.drawn.subset.1
  intro left hLeft l rest hQueue
  rcases hDraws.drawn.exists_lane left hLeft with
    ⟨lane, hLane, hWeight, taken, hTaken, hSublist⟩
  rw [hDraws.load_eq, hWeight]
  cases taken with
  | nil =>
      have hShare := (hShares lane hLane).addAll hPlaced
      exact hShare l rest (hTaken.symm.trans hQueue)
  | cons first taken =>
      -- the lane's first lesson, which its share may have lacked, is now in the week
      have hShare := hShares lane hLane first _ hTaken.symm
      have hFront : first.frontId = l.frontId := by
        apply hReady.lined.same_front hLane
        · rw [← hTaken]
          exact List.mem_cons_self
        · rw [← hTaken, hQueue]
          simp
      have hOwn : NonnegCosts (ofFront l.frontId (placed.map (·.1))) :=
        hPlaced.of_subset (List.filter_subset_self _)
      have hFirst :
          first.cost ≤
            totalCost (ofFront l.frontId (placed.map (·.1))) := by
        apply cost_le_totalCost hOwn
        exact List.mem_filter.mpr
          ⟨hSublist.subset List.mem_cons_self, decide_eq_true hFront⟩
      have hNext : 0 ≤ l.cost :=
        (hReady.drawn hDraws.drawn).costs l
          (List.mem_flatMap.mpr ⟨left, hLeft, by simp [hQueue]⟩)
      rw [WeekLoad.addAll_week, WeekLoad.minutesFor_addAll]
      rw [hFront] at hShare
      linarith

------------------------------------------------------------
-- One Quota
------------------------------------------------------------

/-
  A quota is spent on the first lessons of a queue, which stay
  within it up to the tolerance.  The lesson at which it ends
  would exceed the quota, or does not fit the week.
-/
theorem fillQuota_spends
    {quota spent : Rat}
    (hSpent : spent ≤ quota + tolerance)
    (load : WeekLoad Rat)
    (queue : List (CostedLesson Rat)) :
    ∃ taken,
      (fillQuota quota spent load queue).1 =
        load.addAll (unforced taken) ∧
      taken ++ (fillQuota quota spent load queue).2 = queue ∧
      spent + totalCost taken ≤ quota + tolerance ∧
      ∀ l rest, (fillQuota quota spent load queue).2 = l :: rest →
        quota + tolerance < spent + totalCost taken + l.cost ∨
        (fillQuota quota spent load queue).1.fits l = false := by
  induction queue generalizing spent load with
  | nil => exact ⟨[], rfl, rfl, by simpa using hSpent, nofun⟩
  | cons first queue ih =>
      unfold fillQuota
      split
      · rename_i hStuck
        refine ⟨[], rfl, rfl, by simpa using hSpent, ?_⟩
        intro l rest hQueue
        cases hQueue
        simpa using hStuck
      · rename_i hWithin
        rw [not_or, not_lt] at hWithin
        rcases ih hWithin.1 (load.add first false) with
          ⟨taken, hLoad, hQueue, hQuota, hEnd⟩
        refine ⟨first :: taken, hLoad, ?_, ?_, ?_⟩
        · rw [List.cons_append, hQueue]
        · rw [totalCost_cons]
          linarith
        · intro l rest hLeft
          rw [totalCost_cons, ← add_assoc]
          exact hEnd l rest hLeft

------------------------------------------------------------
-- All Quotas
------------------------------------------------------------

/-
  Before lanes are given their quotas, the week has room for
  all of them, up to some slack.
-/
structure Quotas
    (slack : Rat)
    (load : WeekLoad Rat)
    (lanes : List (Lane Rat)) : Prop where
  held : ∀ front, 0 ≤ load.minutesFor front
  weights : ∀ lane ∈ lanes, 0 ≤ lane.weight
  capacity : 0 ≤ load.week.capacity
  room :
    load.used +
        load.week.capacity * (lanes.map (·.weight)).sum ≤
      load.week.capacity + slack

/-
  What one lane spends within its quota takes no room from the
  lanes behind it, up to the tolerance.
-/
theorem Quotas.behind
    {slack : Rat}
    {load : WeekLoad Rat}
    {lane : Lane Rat}
    {lanes : List (Lane Rat)}
    (h : Quotas slack load (lane :: lanes))
    {taken : List (CostedLesson Rat)}
    (hCosts : NonnegCosts taken)
    (hWithin :
      totalCost taken ≤ load.week.capacity * lane.weight + tolerance) :
    Quotas (slack + tolerance) (load.addAll (unforced taken)) lanes where
  held := by
    intro front
    have hPlaced : NonnegCosts ((unforced taken).map (·.1)) := by
      rw [WeekLoad.unforced_lessons]
      exact hCosts
    exact (h.held front).trans (load.minutesFor_le_addAll front hPlaced)
  weights := fun other hOther =>
    h.weights other (List.mem_cons_of_mem lane hOther)
  capacity := by
    rw [WeekLoad.addAll_week]
    exact h.capacity
  room := by
    have hRoom := h.room
    rw [List.map_cons, List.sum_cons, mul_add] at hRoom
    rw [WeekLoad.used_addAll_unforced, WeekLoad.addAll_week]
    linarith

/-
  A lane has its share when its next lesson would exceed the
  quota.  It has its share, too, when that lesson does not fit
  the week, which has room for the quotas from this lane on.
-/
theorem Quotas.hasShare
    {slack : Rat}
    (hSlack : 0 ≤ slack)
    {load : WeekLoad Rat}
    {lane : Lane Rat}
    {lanes : List (Lane Rat)}
    (h : Quotas slack load (lane :: lanes))
    {taken queue : List (CostedLesson Rat)}
    (hFront :
      ∀ l ∈ taken ++ queue, ∀ m ∈ taken ++ queue, l.frontId = m.frontId)
    (hEnd :
      ∀ l rest, queue = l :: rest →
        load.week.capacity * lane.weight + tolerance <
            totalCost taken + l.cost ∨
          (load.addAll (unforced taken)).fits l = false) :
    Lane.HasShare slack (load.addAll (unforced taken))
      { lane with queue := queue } := by
  intro l rest hQueue
  change queue = l :: rest at hQueue
  have hOwn : ofFront l.frontId taken = taken := by
    unfold ofFront
    rw [List.filter_eq_self]
    intro m hm
    exact decide_eq_true
      (hFront m (List.mem_append_left _ hm) l (by simp [hQueue]))
  have hHeld := h.held l.frontId
  have hTolerance := tolerance_pos
  have hRoom := h.room
  have hOthers :
      0 ≤ load.week.capacity * (lanes.map (·.weight)).sum := by
    apply mul_nonneg h.capacity
    apply List.sum_nonneg
    intro weight hMember
    rcases List.mem_map.mp hMember with ⟨other, hOther, rfl⟩
    exact h.weights other (List.mem_cons_of_mem lane hOther)
  rw [List.map_cons, List.sum_cons, mul_add] at hRoom
  rw [WeekLoad.minutesFor_addAll, WeekLoad.unforced_lessons, hOwn,
    WeekLoad.addAll_week]
  change load.week.capacity * lane.weight - slack < _
  rcases hEnd l rest hQueue with hOver | hFull
  · linarith
  · rw [WeekLoad.fits_eq_false_iff, WeekLoad.used_addAll_unforced,
      WeekLoad.addAll_week] at hFull
    linarith

/- Every lane that is given its quota has its share. -/
theorem quotaPass_hasShare
    {slack : Rat}
    (hSlack : 0 ≤ slack)
    {load : WeekLoad Rat}
    {lanes : List (Lane Rat)}
    (h : Quotas slack load lanes)
    (hCosts : NonnegCosts (waiting lanes))
    (hServes : ∀ lane ∈ lanes, ∃ f : Front Rat, lane.Serves f) :
    ∀ left ∈ (quotaPass load lanes).2,
      left.HasShare (slack + lanes.length * tolerance)
        (quotaPass load lanes).1 := by
  induction lanes generalizing load slack with
  | nil => nofun
  | cons lane lanes ih =>
      have hTolerance := tolerance_pos
      have hQuota :=
        mul_nonneg h.capacity (h.weights lane List.mem_cons_self)
      have hFirst : NonnegCosts lane.queue :=
        hCosts.of_subset (List.subset_append_left _ (waiting lanes))
      have hLater : NonnegCosts (waiting lanes) :=
        hCosts.of_subset (List.subset_append_right lane.queue _)
      rcases hServes lane List.mem_cons_self with ⟨f, hLane⟩
      have hStart :
          Scalar.zero ≤ load.week.capacity * lane.weight + tolerance := by
        rw [zero_eq]
        linarith
      rcases fillQuota_spends hStart load lane.queue with
        ⟨taken, hLoad, hQueue, hWithin, hEnd⟩
      unfold quotaPass
      simp only
      generalize
        fillQuota (load.week.capacity * lane.weight) Scalar.zero load
          lane.queue = result at *
      rcases result with ⟨middle, queue⟩
      simp only at hLoad hQueue hEnd
      subst hLoad
      rw [zero_eq, zero_add] at hWithin hEnd
      have hShare :=
        h.hasShare hSlack
          (by
            rw [hQueue]
            intro l hl m hm
            rw [hLane.own l hl, hLane.own m hm])
          hEnd
      have hRest :=
        h.behind
          (hFirst.of_subset (by
            rw [← hQueue]
            exact List.subset_append_left taken queue))
          hWithin
      generalize load.addAll (unforced taken) = middle at *
      rcases quotaPass_draws middle lanes with ⟨more, hDraws⟩
      have hCount :
          slack + (lane :: lanes).length * tolerance =
            slack + tolerance + lanes.length * tolerance := by
        rw [List.length_cons, Nat.cast_add_one]
        ring
      have hSlacks : (0 : Rat) ≤ lanes.length * tolerance :=
        mul_nonneg (Nat.cast_nonneg _) hTolerance.le
      intro left hLeft
      rw [hCount]
      rcases List.mem_cons.mp hLeft with rfl | hBehind
      · -- the lanes behind add to the week, and take nothing from the lane's front
        have hKept := hShare.addAll
          (hLater.of_subset hDraws.drawn.subset.1)
        rw [← hDraws.load_eq] at hKept
        exact hKept.mono (by linarith)
      · exact ih (by linarith) hRest hLater
          (fun other hOther =>
            hServes other (List.mem_cons_of_mem lane hOther))
          left hBehind

------------------------------------------------------------
-- Filling Weeks
------------------------------------------------------------

/- In a week that is filled in parallel every lane has its share. -/
theorem fillParallel_hasShare
    {w : Week Rat}
    (hUseful : w.isUseful = true)
    {fronts : List (Front Rat)}
    (hWeights : ∀ f ∈ fronts, 0 ≤ f.weight)
    (hSum : (fronts.map (·.weight)).sum = 1)
    {lanes : List (Lane Rat)}
    (hReady : Ready fronts lanes) :
    ∀ left ∈ (fillParallel (WeekLoad.opened w) lanes).2,
      left.HasShare (fronts.length * tolerance)
        (fillParallel (WeekLoad.opened w) lanes).1 := by
  have hServes := hReady.lined.serves
  have hQuotas : Quotas 0 (WeekLoad.opened w) lanes := by
    refine ⟨fun _ => le_rfl, ?_, ?_, ?_⟩
    · intro lane hLane
      rcases hServes lane hLane with ⟨f, hf, hLaneServes⟩
      rw [hLaneServes.weight]
      exact hWeights f hf
    · exact (WeekLoad.capacity_pos hUseful).le
    · rw [hReady.lined.weights, hSum, WeekLoad.used_opened]
      linarith
  have hCount : lanes.length = fronts.length := by
    have hLengths := congrArg List.length hReady.lined.weights
    rw [List.length_map, List.length_map] at hLengths
    exact hLengths
  have hShares :=
    quotaPass_hasShare le_rfl hQuotas hReady.costs (by
      intro lane hLane
      rcases hServes lane hLane with ⟨f, _, hLaneServes⟩
      exact ⟨f, hLaneServes⟩)
  rw [zero_add, hCount] at hShares
  rcases quotaPass_draws (WeekLoad.opened w) lanes with
    ⟨taken, hQuotaDraws⟩
  rcases fillParallel_draws_after_quotas (WeekLoad.opened w) lanes with
    ⟨placed, hDraws⟩
  exact hDraws.hasShare (hReady.drawn hQuotaDraws.drawn) hShares

------------------------------------------------------------
-- Distributions
------------------------------------------------------------

/- The weights of the fronts that share weeks are shares of a whole. -/
theorem distribute_parallel_weights
    {lessons : List (CostedLesson Rat)}
    {weeks : List (Week Rat)}
    {frontOrder : List String}
    {d : Distribution Rat}
    (hCosts : NonnegCosts lessons)
    (hDistribute :
      distribute lessons weeks .parallel frontOrder = .ok d) :
    (∀ f ∈ d.fronts, 0 ≤ f.weight) ∧
    (d.fronts.map (·.weight)).sum = 1 := by
  rcases distribute_parallelVisits hDistribute with
    ⟨hLessons, hFronts, _⟩
  have hGrouped := groupFronts_grouped lessons
  rw [hFronts]
  constructor
  · apply weighFronts_nonneg
    intro f hf
    have hOwn : NonnegCosts f.lessons := by
      rw [hGrouped.holds f hf]
      exact hCosts.of_subset (List.filter_subset_self _)
    rw [groupFronts_totalCost lessons f hf]
    exact hOwn.totalCost_nonneg
  · apply weighFronts_sum
    intro hNone
    rcases List.exists_mem_of_ne_nil lessons hLessons with ⟨l, hl⟩
    have hFront := hGrouped.complete l hl
    rw [hNone] at hFront
    cases hFront

/-
  When fronts share weeks, and no lesson takes less than no
  time, the weights of the fronts are shares of a whole.  In
  every week that is filled, a front with lessons left falls
  short of its share by less than its next lesson, up to one
  tolerance for each front.
-/
theorem distribute_parallel_shares
    {lessons : List (CostedLesson Rat)}
    {weeks : List (Week Rat)}
    {frontOrder : List String}
    {d : Distribution Rat}
    (hCosts : ∀ l ∈ lessons, 0 ≤ l.cost)
    (hDistribute :
      distribute lessons weeks .parallel frontOrder = .ok d) :
    Grouped lessons d.fronts ∧
    (∀ f ∈ d.fronts, 0 ≤ f.weight) ∧
    (d.fronts.map (·.weight)).sum = 1 ∧
    (∃ surplus,
      Composed weeks d ((parallelVisits d.fronts weeks).map (·.load))
        surplus) ∧
    ∀ before v after,
      parallelVisits d.fronts weeks = before ++ v :: after →
      ∀ f ∈ d.fronts, ∃ left,
        Leaves lessons (assignedBy (before ++ [v])) f.id left ∧
        ∀ id cost rest, left = (id, cost) :: rest →
          v.load.week.capacity * f.weight -
              d.fronts.length * tolerance <
            v.load.minutesFor f.id + cost := by
  rcases distribute_parallel_weights hCosts hDistribute with
    ⟨hWeights, hSum⟩
  refine ⟨distribute_parallel_grouped hDistribute, hWeights, hSum,
    (distribute_parallelVisits hDistribute).2.2, ?_⟩
  intro before v after hVisits f hf
  have hMember : v ∈ parallelVisits d.fronts weeks := by
    rw [hVisits]
    exact List.mem_append_right before List.mem_cons_self
  rcases
      forall_parallelVisits hCosts hDistribute
        (P := fun v => ∀ left ∈ v.state,
          left.HasShare (d.fronts.length * tolerance) v.load)
        (fun w _ hUseful hReady =>
          fillParallel_hasShare hUseful hWeights hSum hReady)
        v hMember with
    ⟨hShares, hReady⟩
  rcases leaves_of_parallelVisits hDistribute hVisits hReady.lined hf with
    ⟨left, hLeft, hNext⟩
  refine ⟨left, hLeft, ?_⟩
  intro id cost rest hFirst
  rcases hNext _ _ hFirst with
    ⟨lane, hLane, hServes, l, queue, hQueue, hSame⟩
  cases hSame
  have hShare := hShares lane hLane l queue hQueue
  rw [hServes.weight, hServes.own l (by simp [hQueue])] at hShare
  exact hShare

/- Of an hour that two fronts share, two fifths are the share of the second one. -/
theorem distribute_parallel_shares_of_two_fronts :
    (∀ l ∈ sharedLessons, 0 ≤ l.cost) ∧
    ∃ d v,
      distribute sharedLessons [sharedHour] .parallel [] = .ok d ∧
      parallelVisits d.fronts [sharedHour] = [v] ∧
      v.load.assignments.map (·.lessonId) = ["a", "b"] ∧
      Leaves sharedLessons (assignedBy [v]) "y" [("e", 20)] ∧
      60 * (2 / 5) - 2 * tolerance < v.load.minutesFor "y" + 20 := by
  have hCosts : ∀ l ∈ sharedLessons, 0 ≤ l.cost := by
    decide +kernel
  rcases sharedHour_visits with
    ⟨d, v, hDistribute, hVisits, hIds, hHour, hSecond, hCount, f, hf, hId,
      hWeight⟩
  rcases distribute_parallel_shares hCosts hDistribute with
    ⟨_, _, _, _, hShares⟩
  rcases hShares [] v [] hVisits f hf with ⟨left, hLeft, hNext⟩
  rw [hId] at hLeft hNext
  have hSame : left = [("e", 20)] :=
    List.append_cancel_left (hLeft.symm.trans hSecond)
  have hShare := hNext _ _ _ hSame
  rw [hHour, hWeight, hCount] at hShare
  exact ⟨hCosts, d, v, hDistribute, hVisits, hIds, hSecond, hShare⟩

end Timetable.Plan
