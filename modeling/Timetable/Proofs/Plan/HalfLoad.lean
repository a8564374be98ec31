import Timetable.Proofs.Plan.FullWeeks
import Timetable.Proofs.Plan.NextFit
import Timetable.Proofs.Plan.WeekTables

/-
  This file shows that nothing is forced as long as lessons
  ask for no more than half of the time there is.  A week is
  closed by a lesson that does not fit it, and that lesson or
  one as good opens the next week, so that two weeks in a row
  hold more than one of them can.

  Key definitions include:
    * `Strategy.Crowds`

  Main theorems include:
    * `parallelStrategy_crowds`
    * `sequentialStrategy_crowds`
    * `half_load_of_left`
    * `unforced_of_half_load`
    * `distribute_unforced_of_half_load`
-/

namespace Timetable.Plan

------------------------------------------------------------
-- Weeks that are Closed by a Lesson
------------------------------------------------------------

/-
  A way of packing crowds the weeks.  Some lesson that can
  come next opens a week, and none that can come next fits
  the week when it has been filled.
-/
structure Strategy.Crowds
    {σ : Type}
    (s : Strategy Rat σ)
    (next : σ → List (CostedLesson Rat)) : Prop where
  waits : ∀ state, next state ⊆ s.remaining state
  offers : ∀ state, s.remaining state ≠ [] → next state ≠ []
  opens : ∀ w state,
    NonnegCosts (s.remaining state) → s.remaining state ≠ [] →
      ∃ l ∈ next state, l.cost ≤ (s.visit w state).load.used
  full : ∀ w state,
    NonnegCosts (s.remaining state) →
      ∀ l ∈ next (s.visit w state).state,
        (s.visit w state).load.fits l = false

/- A lesson of a week takes no more than the week has used. -/
theorem cost_le_used
    (w : Week Rat)
    {placed : List (CostedLesson Rat × Bool)}
    (hCosts : NonnegCosts (placed.map (·.1)))
    {l : CostedLesson Rat}
    (hl : l ∈ placed.map (·.1)) :
    l.cost ≤ ((WeekLoad.opened w).addAll placed).used := by
  rw [WeekLoad.used_addAll, WeekLoad.used_opened, zero_add]
  exact cost_le_totalCost hCosts hl

theorem mem_take_one
    {α : Type}
    {x : α}
    {xs : List α} :
    x ∈ xs.take 1 ↔ ∃ rest, xs = x :: rest := by
  cases xs with
  | nil => simp
  | cons y ys => simp [eq_comm]

------------------------------------------------------------
-- All Fronts at Once
------------------------------------------------------------

/- The lessons that lanes offer next. -/
def offered (lanes : List (Lane Rat)) : List (CostedLesson Rat) :=
  lanes.flatMap (·.queue.take 1)

theorem mem_offered
    {lanes : List (Lane Rat)}
    {l : CostedLesson Rat} :
    l ∈ offered lanes ↔
      ∃ lane ∈ lanes, ∃ queue, lane.queue = l :: queue := by
  unfold offered
  rw [List.mem_flatMap]
  simp only [mem_take_one]

theorem parallelStrategy_crowds :
    (parallelStrategy : Strategy Rat _).Crowds offered where
  waits := by
    intro lanes l hl
    rcases mem_offered.mp hl with ⟨lane, hLane, queue, hQueue⟩
    exact List.mem_flatMap.mpr ⟨lane, hLane, by simp [hQueue]⟩
  offers := by
    intro lanes hWaiting
    rcases List.exists_mem_of_ne_nil _ hWaiting with ⟨l, hl⟩
    rcases List.mem_flatMap.mp hl with ⟨lane, hLane, hQueued⟩
    cases hQueue : lane.queue with
    | nil =>
        rw [hQueue] at hQueued
        cases hQueued
    | cons first queue =>
        exact List.ne_nil_of_mem
          (mem_offered.mpr ⟨lane, hLane, queue, hQueue⟩)
  opens := by
    intro w lanes hCosts hWaiting
    rcases fillParallel_draws (WeekLoad.opened w) lanes with
      ⟨placed, hDraws⟩
    have hPlaced : NonnegCosts (placed.map (·.1)) :=
      NonnegCosts.of_subset hCosts hDraws.drawn.subset.1
    have hSome := fillParallel_isEmpty (WeekLoad.opened w) hWaiting
    have hLoad := hDraws.load_eq
    have hDrawn := hDraws.drawn
    cases placed with
    | nil =>
        rw [hLoad] at hSome
        cases hSome
    | cons entry placed =>
        have hUsed := cost_le_used w hPlaced List.mem_cons_self
        rw [← hLoad] at hUsed
        -- the first lesson that was drawn stood first in its lane
        cases hDrawn with
        | lesson hQueue _ =>
            exact ⟨entry.1, mem_offered.mpr
              ⟨_, List.mem_append_right _ List.mem_cons_self, _, hQueue⟩,
              hUsed⟩
  full := by
    intro w lanes hCosts l hl
    rcases mem_offered.mp hl with ⟨lane, hLane, queue, hQueue⟩
    exact fillParallel_full (WeekLoad.opened w) hCosts lane hLane l
      queue hQueue

------------------------------------------------------------
-- One Front after the Other
------------------------------------------------------------

/- The lesson at which next-fit packing closes a week does not fit it. -/
theorem nextFitWeek_full
    (load : WeekLoad Rat)
    {lessons : List (CostedLesson Rat)}
    (hCosts : NonnegCosts lessons)
    {l : CostedLesson Rat}
    {rest : List (CostedLesson Rat)}
    (hLeft : (nextFitWeek load lessons).2 = l :: rest) :
    (nextFitWeek load lessons).1.fits l = false := by
  induction lessons generalizing load with
  | nil => cases hLeft
  | cons first lessons ih =>
      unfold nextFitWeek at hLeft ⊢
      split at hLeft
      · rename_i hFits
        rw [if_pos hFits]
        exact ih _ (hCosts.of_subset (List.subset_cons_self _ _)) hLeft
      · rename_i hFits
        rw [Bool.not_eq_true] at hFits
        rw [if_neg (by simp [hFits])]
        split at hLeft
        · rename_i hEmpty
          rw [if_pos hEmpty]
          change lessons = l :: rest at hLeft
          -- not even the lesson that was forced did fit
          have hl : 0 ≤ l.cost := hCosts l (by simp [hLeft])
          rw [WeekLoad.fits_eq_false_iff] at hFits ⊢
          rw [WeekLoad.week_add, WeekLoad.used_add]
          linarith
        · rename_i hSome
          rw [if_neg hSome]
          cases hLeft
          exact hFits

theorem sequentialStrategy_crowds :
    (sequentialStrategy : Strategy Rat _).Crowds
      (fun fronts => fronts.flatten.take 1) where
  waits := fun _ => List.take_subset 1 _
  offers := by
    intro fronts hWaiting hNone
    rcases List.take_eq_nil_iff.mp hNone with hZero | hFlat
    · cases hZero
    · exact hWaiting hFlat
  opens := by
    intro w fronts hCosts hWaiting
    rcases fillSequential_admits (WeekLoad.opened w) fronts with
      ⟨placed, hLoad, _, hFlat⟩
    have hSome := fillSequential_isEmpty (WeekLoad.opened w) hWaiting
    have hPlaced : NonnegCosts (placed.map (·.1)) := by
      apply NonnegCosts.of_subset hCosts
      change _ ⊆ fronts.flatten
      rw [← hFlat]
      exact List.subset_append_left _ _
    cases placed with
    | nil =>
        rw [hLoad] at hSome
        cases hSome
    | cons entry placed =>
        have hUsed := cost_le_used w hPlaced List.mem_cons_self
        rw [← hLoad] at hUsed
        exact ⟨entry.1, mem_take_one.mpr ⟨_, hFlat.symm⟩, hUsed⟩
  full := by
    intro w fronts hCosts l hl
    rcases mem_take_one.mp hl with ⟨rest, hLeft⟩
    change NonnegCosts fronts.flatten at hCosts
    have hPacked := fillSequential_nextFit (WeekLoad.opened w) fronts
    have hRest :
        (nextFitWeek (WeekLoad.opened w) fronts.flatten).2 = l :: rest := by
      rw [hPacked]
      exact hLeft
    have hFull := nextFitWeek_full (WeekLoad.opened w) hCosts hRest
    rw [hPacked] at hFull
    exact hFull

------------------------------------------------------------
-- Two Weeks in a Row
------------------------------------------------------------

section Visits

variable
  {σ : Type}
  {s : Strategy Rat σ}
  {next : σ → List (CostedLesson Rat)}

/- What a visit puts into its week is taken from what remained. -/
theorem Strategy.Places.visit
    (hPlaces : s.Places)
    (w : Week Rat)
    (state : σ) :
    (s.visit w state).load.week = w ∧
    s.remaining (s.visit w state).state ⊆ s.remaining state ∧
    totalCost (s.remaining state) =
      (s.visit w state).load.used +
        totalCost (s.remaining (s.visit w state).state) := by
  rcases hPlaces (WeekLoad.opened w) state with ⟨placed, hLoad, hPerm⟩
  have hUsed :
      (s.visit w state).load.used = totalCost (placed.map (·.1)) := by
    unfold Strategy.visit
    rw [hLoad, WeekLoad.used_addAll, WeekLoad.used_opened, zero_add]
  refine ⟨?_, ?_, ?_⟩
  · unfold Strategy.visit
    rw [hLoad, WeekLoad.addAll_week]
    rfl
  · intro l hl
    exact hPerm.subset (List.mem_append_right _ hl)
  · rw [hUsed, ← totalCost_perm hPerm, totalCost_append]
    rfl

/-
  If lessons are left when all weeks have been visited, then
  the lessons ask for more than half of the weeks.  Each week
  and the lesson that opens the next one exceed a week, and
  each lesson is counted at most twice: in its own week, and
  against the week before.
-/
theorem half_load_of_left
    (hPlaces : s.Places)
    (hCrowds : s.Crowds next)
    {capacity : Rat}
    {weeks : List (Week Rat)}
    (hCapacity :
      ∀ w ∈ weeks, w.isUseful = true → w.capacity = capacity)
    (p : Progress Rat σ)
    (hCosts : NonnegCosts (s.remaining p.state))
    (hLeft : s.remaining (visitWeeks s weeks p).state ≠ []) :
    ∃ l ∈ next p.state,
      (weeks.filter (·.isUseful)).length * (capacity + tolerance) +
          l.cost ≤
        2 * totalCost (s.remaining p.state) := by
  induction weeks generalizing p with
  | nil =>
      rcases List.exists_mem_of_ne_nil _ (hCrowds.offers _ hLeft) with
        ⟨l, hl⟩
      have hWaits := hCrowds.waits p.state hl
      have hNonneg := hCosts l hWaits
      have hCost := cost_le_totalCost hCosts hWaits
      refine ⟨l, hl, ?_⟩
      rw [List.filter_nil, List.length_nil, Nat.cast_zero, zero_mul,
        zero_add]
      linarith
  | cons w ws ih =>
      have hLater :
          ∀ v ∈ ws, v.isUseful = true → v.capacity = capacity :=
        fun v hv => hCapacity v (List.mem_cons_of_mem w hv)
      unfold visitWeeks at hLeft
      by_cases hUseful : w.isUseful = true
      · rw [if_pos hUseful] at hLeft
        split at hLeft
        · rename_i hDone
          exact absurd (List.isEmpty_iff.mp hDone) hLeft
        · rename_i hSome
          have hStart : s.remaining p.state ≠ [] := by
            simpa using hSome
          rcases hPlaces.visit w p.state with
            ⟨hWeek, hSubset, hTotal⟩
          rcases ih hLater
              ⟨p.assignments ++ (s.visit w p.state).load.assignments,
                some w.number, (s.visit w p.state).state⟩
              (hCosts.of_subset hSubset) hLeft with
            ⟨opener, hOpener, hRest⟩
          rcases hCrowds.opens w p.state hCosts hStart with
            ⟨l, hl, hOpens⟩
          have hFull := hCrowds.full w p.state hCosts opener hOpener
          rw [WeekLoad.fits_eq_false_iff, hWeek,
            hCapacity w List.mem_cons_self hUseful] at hFull
          refine ⟨l, hl, ?_⟩
          rw [List.filter_cons_of_pos hUseful, List.length_cons,
            Nat.cast_add_one, hTotal]
          dsimp only at hRest
          linarith
      · rw [if_neg hUseful] at hLeft
        rw [List.filter_cons_of_neg hUseful]
        exact ih hLater p hCosts hLeft

/- Lessons that ask for no more than half of the weeks are placed. -/
theorem remaining_eq_nil_of_half_load
    (hPlaces : s.Places)
    (hCrowds : s.Crowds next)
    {capacity : Rat}
    {weeks : List (Week Rat)}
    (hCapacity :
      ∀ w ∈ weeks, w.isUseful = true → w.capacity = capacity)
    (hUseful : ∃ w ∈ weeks, w.isUseful = true)
    (p : Progress Rat σ)
    (hCosts : NonnegCosts (s.remaining p.state))
    (hHalf :
      2 * totalCost (s.remaining p.state) ≤
        (weeks.filter (·.isUseful)).length * capacity) :
    s.remaining (visitWeeks s weeks p).state = [] := by
  by_contra hLeft
  rcases half_load_of_left hPlaces hCrowds hCapacity p hCosts hLeft with
    ⟨l, hl, hLoad⟩
  have hCost := hCosts l (hCrowds.waits _ hl)
  have hSome : 0 < (weeks.filter (·.isUseful)).length := by
    rcases hUseful with ⟨w, hw, hIsUseful⟩
    exact List.length_pos_of_mem (List.mem_filter.mpr ⟨hw, hIsUseful⟩)
  have hSlack :
      0 < ((weeks.filter (·.isUseful)).length : Rat) * tolerance :=
    mul_pos (by exact_mod_cast hSome) tolerance_pos
  rw [mul_add] at hLoad
  linarith

------------------------------------------------------------
-- Weeks without Force
------------------------------------------------------------

/- A week of lessons none of which is too long for it is not forced. -/
theorem WeekLoad.unforced_of_holds
    {capacity : Rat}
    {assignments : List (Assignment Rat)}
    (h : Holds capacity assignments)
    (hCosts : ∀ a ∈ assignments, a.cost ≤ capacity) :
    ∀ a ∈ assignments, a.forced = false := by
  rcases h with hFits | ⟨alone, rfl, _, hLong⟩
  · intro a ha
    rcases List.append_of_mem ha with ⟨before, after, hSplit⟩
    exact (hFits before a after hSplit).1
  · have hCost := hCosts alone List.mem_cons_self
    have hTolerance := tolerance_pos
    rw [zero_eq] at hLong
    exact absurd (by linarith) hLong

/- What weeks are filled with costs what one of the lessons costs. -/
theorem exists_lesson_of_visitWeeks
    (hPlaces : s.Places)
    (weeks : List (Week Rat))
    (state : σ) :
    ∀ a ∈ (visitWeeks s weeks ⟨[], none, state⟩).assignments,
      ∃ l ∈ s.remaining state, l.cost = a.cost := by
  intro a ha
  have hPerm := visitWeeks_perm hPlaces weeks ⟨[], none, state⟩
  have hOrigin :
      a.origin ∈ Progress.origins s (⟨[], none, state⟩ : Progress Rat σ) :=
    hPerm.subset (List.mem_append_left _ (List.mem_map_of_mem ha))
  rcases List.mem_append.mp hOrigin with hNone | hRemaining
  · cases hNone
  · rcases List.mem_map.mp hRemaining with ⟨l, hl, hSame⟩
    exact ⟨l, hl, congrArg (·.2.2) hSame⟩

/- Weeks that are long enough for every lesson are filled without force. -/
theorem visitWeeks_unforced
    (hPacks : s.Packs)
    (hPlaces : s.Places)
    {capacity : Rat}
    {weeks : List (Week Rat)}
    (hCapacity :
      ∀ w ∈ weeks, w.isUseful = true → w.capacity = capacity)
    {state : σ}
    (hCosts : ∀ l ∈ s.remaining state, l.cost ≤ capacity) :
    ∀ a ∈ (visitWeeks s weeks ⟨[], none, state⟩).assignments,
      a.forced = false := by
  have hOrigin := exists_lesson_of_visitWeeks hPlaces weeks state
  have hLoads := visitWeeks_visited hPacks weeks ⟨[], none, state⟩
  rw [hLoads.assignments, List.nil_append] at hOrigin ⊢
  intro a ha
  rcases List.mem_flatMap.mp ha with ⟨load, hLoad, hHeld⟩
  rcases List.mem_filter.mp
      (hLoads.inOrder.subset (List.mem_map_of_mem hLoad)) with
    ⟨hWeek, hUseful⟩
  have hHolds := (hLoads.filled load hLoad).holds
  rw [hCapacity load.week hWeek hUseful] at hHolds
  apply WeekLoad.unforced_of_holds hHolds _ a hHeld
  intro b hb
  rcases hOrigin b (List.mem_flatMap.mpr ⟨load, hLoad, hb⟩) with
    ⟨l, hl, hSame⟩
  rw [← hSame]
  exact hCosts l hl

/- Where nothing is left, nothing is appended. -/
theorem finish_of_done
    (fronts : List (Front Rat))
    {p : Progress Rat σ}
    (hDone : s.remaining p.state = []) :
    (finish s fronts p).overflow = 0 ∧
    (finish s fronts p).assignments = p.assignments := by
  rcases finish_overflow s fronts p with
    ⟨surplus, hAssignments, hOverflow, hSurplus⟩
  have hNothing : surplus = [] := by
    rw [List.eq_nil_iff_forall_not_mem]
    intro a ha
    exact (hSurplus a ha).2.2 hDone
  rw [hNothing] at hAssignments hOverflow
  rw [List.append_nil] at hAssignments
  exact ⟨hOverflow.symm, hAssignments⟩

/- Below half load every lesson is placed, and none is forced. -/
theorem finish_unforced_of_half_load
    (hPacks : s.Packs)
    (hPlaces : s.Places)
    (hCrowds : s.Crowds next)
    (fronts : List (Front Rat))
    {capacity : Rat}
    {weeks : List (Week Rat)}
    (hCapacity :
      ∀ w ∈ weeks, w.isUseful = true → w.capacity = capacity)
    {state : σ}
    (hCosts :
      ∀ l ∈ s.remaining state, 0 ≤ l.cost ∧ l.cost ≤ capacity)
    (hHalf :
      2 * totalCost (s.remaining state) ≤
        (weeks.filter (·.isUseful)).length * capacity) :
    (finish s fronts
      (visitWeeks s weeks ⟨[], none, state⟩)).overflow = 0 ∧
    ∀ a ∈ (finish s fronts
        (visitWeeks s weeks ⟨[], none, state⟩)).assignments,
      a.forced = false := by
  by_cases hUseful : ∃ w ∈ weeks, w.isUseful = true
  · have hDone :=
      remaining_eq_nil_of_half_load hPlaces hCrowds hCapacity hUseful
        ⟨[], none, state⟩ (fun l hl => (hCosts l hl).1) hHalf
    rcases finish_of_done fronts hDone with ⟨hOverflow, hAssignments⟩
    rw [hAssignments]
    exact ⟨hOverflow, visitWeeks_unforced hPacks hPlaces hCapacity
      (fun l hl => (hCosts l hl).2)⟩
  · have hNone : ∀ w ∈ weeks, w.isUseful = false := by
      intro w hw
      rw [← Bool.not_eq_true]
      exact fun hIsUseful => hUseful ⟨w, hw, hIsUseful⟩
    rw [visitWeeks_of_no_useful weeks hNone]
    exact ⟨rfl, nofun⟩

end Visits

------------------------------------------------------------
-- Distributions
------------------------------------------------------------

/-
  When all weeks of use have the same minutes, no lesson takes
  more than a week or less than no time, and all lessons take
  no more than half of these weeks, then both modes end
  without force.
-/
theorem unforced_of_half_load
    {lessons : List (CostedLesson Rat)}
    {weeks : List (Week Rat)}
    {capacity : Rat}
    {mode : Mode}
    {frontOrder : List String}
    {d : Distribution Rat}
    (hCapacity :
      ∀ w ∈ weeks, w.isUseful = true → w.capacity = capacity)
    (hCosts : ∀ l ∈ lessons, 0 ≤ l.cost ∧ l.cost ≤ capacity)
    (hHalf :
      2 * totalCost lessons ≤
        (weeks.filter (·.isUseful)).length * capacity)
    (hLessons : lessons ≠ [])
    (hDistribute : distribute lessons weeks mode frontOrder = .ok d) :
    d.overflow = 0 ∧ ∀ a ∈ d.assignments, a.forced = false := by
  unfold distribute at hDistribute
  rw [if_neg (by simpa using hLessons)] at hDistribute
  cases mode with
  | parallel =>
      cases hDistribute
      have hPerm := waiting_lanes_perm lessons
      apply finish_unforced_of_half_load parallelStrategy_packs
        parallelStrategy_places parallelStrategy_crowds _ hCapacity
      · intro l hl
        exact hCosts l (hPerm.subset hl)
      · change 2 * totalCost (waiting _) ≤ _
        rw [totalCost_perm hPerm]
        exact hHalf
  | sequential =>
      cases hDistribute
      have hPerm := flatten_orderFronts_perm frontOrder lessons
      apply finish_unforced_of_half_load sequentialStrategy_packs
        sequentialStrategy_places sequentialStrategy_crowds _ hCapacity
      · intro l hl
        exact hCosts l (hPerm.subset hl)
      · change 2 * totalCost (List.flatten _) ≤ _
        rw [totalCost_perm hPerm]
        exact hHalf

/-
  Below half load nothing is forced, whatever the mode and the
  order of the fronts.  If there is a week of use at all, all
  lessons are placed so, each of them once.
-/
theorem distribute_unforced_of_half_load
    {lessons : List (CostedLesson Rat)}
    {weeks : List (Week Rat)}
    {capacity : Rat}
    (hCapacity :
      ∀ w ∈ weeks, w.isUseful = true → w.capacity = capacity)
    (hCosts : ∀ l ∈ lessons, 0 ≤ l.cost ∧ l.cost ≤ capacity)
    (hHalf :
      2 * totalCost lessons ≤
        (weeks.filter (·.isUseful)).length * capacity)
    (mode : Mode)
    (frontOrder : List String) :
    (lessons = [] →
      distribute lessons weeks mode frontOrder = .error .noContent) ∧
    (lessons ≠ [] →
      ∃ d,
        distribute lessons weeks mode frontOrder = .ok d ∧
        d.overflow = 0 ∧
        (∀ a ∈ d.assignments, a.forced = false) ∧
        ((∀ w ∈ weeks, 0 ≤ w.number) →
          (∃ w ∈ weeks, w.isUseful = true) →
          (d.assignments.map (·.lessonId)).Perm
            (lessons.map (·.id)))) := by
  constructor
  · rintro rfl
    rfl
  · intro hLessons
    rcases distribute_isOk hLessons weeks mode frontOrder with
      ⟨d, hDistribute⟩
    rcases unforced_of_half_load hCapacity hCosts hHalf hLessons
        hDistribute with
      ⟨hOverflow, hUnforced⟩
    refine ⟨d, hDistribute, hOverflow, hUnforced, ?_⟩
    intro hNumbers hUseful
    exact distribute_lessonIds_perm hNumbers hUseful hDistribute

/- The weeks of use of a table all have the same minutes. -/
theorem capacity_of_useful
    {start finish : Date}
    {vacations : List Vacation}
    {hoursPerDay : Rat}
    {studyDays : Int}
    {w : Week Rat}
    (hw : w ∈ buildWeeks start finish vacations hoursPerDay studyDays)
    (hUseful : w.isUseful = true) :
    w.capacity = weeklyMinutes hoursPerDay studyDays := by
  have hStudy := ((w.isUseful_iff).mp hUseful).1
  rw [capacity_of_mem_buildWeeks hw, hStudy, if_neg Bool.false_ne_true]

/- Lessons of two fronts, together an hour and a half. -/
def lightLessons : List (CostedLesson Rat) :=
  [("a", "x", 40), ("b", "y", 30), ("c", "x", 20)].map
    CostedLesson.ofOrigin

/- Four weeks, one of which is vacation, and the others have an hour each. -/
def lightWeeks : List (Week Rat) :=
  buildWeeks ⟨0⟩ ⟨27⟩ [⟨⟨8⟩, ⟨8⟩⟩] (1 / 2) 2

/- Lessons that ask for half of three hours are all placed beside a vacation. -/
theorem distribute_unforced_of_half_load_beside_vacation :
    (∀ w ∈ lightWeeks, w.isUseful = true → w.capacity = 60) ∧
    (∀ l ∈ lightLessons, 0 ≤ l.cost ∧ l.cost ≤ 60) ∧
    2 * totalCost lightLessons ≤
      (lightWeeks.filter (·.isUseful)).length * 60 ∧
    ∃ d,
      distribute lightLessons lightWeeks .sequential ["y"] = .ok d ∧
      d.overflow = 0 ∧
      (∀ a ∈ d.assignments, a.forced = false) ∧
      (d.assignments.map (·.lessonId)).Perm ["a", "b", "c"] := by
  have hCapacity :
      ∀ w ∈ lightWeeks, w.isUseful = true → w.capacity = 60 := by
    intro w hw hUseful
    rw [capacity_of_useful hw hUseful]
    decide +kernel
  have hCosts : ∀ l ∈ lightLessons, 0 ≤ l.cost ∧ l.cost ≤ 60 := by
    decide +kernel
  have hCount : (lightWeeks.filter (·.isUseful)).length = 3 := by
    unfold lightWeeks buildWeeks
    rw [weeksFrom_eq_map]
    decide +kernel
  have hHalf :
      2 * totalCost lightLessons ≤
        (lightWeeks.filter (·.isUseful)).length * 60 := by
    rw [hCount]
    decide +kernel
  have hUseful : ∃ w ∈ lightWeeks, w.isUseful = true := by
    have hSome : 0 < (lightWeeks.filter (·.isUseful)).length := by
      rw [hCount]
      decide
    rcases List.exists_mem_of_length_pos hSome with ⟨w, hw⟩
    exact ⟨w, List.mem_filter.mp hw⟩
  rcases
      (distribute_unforced_of_half_load hCapacity hCosts hHalf
        .sequential ["y"]).2 (by simp [lightLessons]) with
    ⟨d, hOk, hOverflow, hUnforced, hPlaced⟩
  refine ⟨hCapacity, hCosts, hHalf, d, hOk, hOverflow, hUnforced, ?_⟩
  apply hPlaced _ hUseful
  intro w hw
  have hPos := buildWeeks_number_pos hw
  omega

end Timetable.Plan
