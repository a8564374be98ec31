import Timetable.Proofs.Plan.ExactCosts
import Timetable.Proofs.Plan.FrontOrder
import Timetable.Proofs.Plan.Lanes
import Timetable.Proofs.Plan.Visits

/-
  This file looks at the weeks of a distribution one by one,
  each at the moment at which it has been filled: what the
  weeks hold by then, and what is left of the fronts.

  Key definitions include:
    * `assignedBy`
    * `parallelVisits`
    * `Leaves`
    * `Ready`

  Main theorems include:
    * `Strategy.forall_visits`
    * `Strategy.visits_shareOf`
    * `distribute_parallelVisits`
    * `leaves_of_parallelVisits`
    * `forall_parallelVisits`
-/

namespace Timetable.Plan

variable {α σ : Type} [Scalar α]

------------------------------------------------------------
-- Visits in Order
------------------------------------------------------------

omit [Scalar α] in
/- What some visits have assigned, in order. -/
def assignedBy (visits : List (Visit α σ)) : List (Assignment α) :=
  visits.flatMap (·.load.assignments)

namespace Strategy

variable
  {s : Strategy α σ}
  {Kind : σ → Prop}

/-
  What holds of each visit to a week of use, from states of a
  kind in which lessons are left, holds of all visits.
-/
theorem forall_visits
    {P : Visit α σ → Prop}
    (hVisit :
      ∀ (w : Week α) (state : σ),
        w.isUseful = true → s.remaining state ≠ [] → Kind state →
          P (s.visit w state) ∧ Kind (s.visit w state).state)
    (weeks : List (Week α))
    (state : σ)
    (hKind : Kind state) :
    ∀ v ∈ s.visits weeks state, P v := by
  induction weeks generalizing state with
  | nil =>
      intro v hv
      cases hv
  | cons w ws ih =>
      unfold visits
      split
      · rename_i hUseful
        split
        · intro v hv
          cases hv
        · rename_i hLeft
          rcases hVisit w state hUseful (by simpa using hLeft) hKind with
            ⟨hHolds, hNext⟩
          intro v hv
          rcases List.mem_cons.mp hv with rfl | hLater
          · exact hHolds
          · exact ih _ hNext v hLater
      · exact ih state hKind

/-
  After some visits a front has what they have assigned of it,
  and then what is left.
-/
theorem visits_shareOf
    (hKeeps : s.KeepsOrder Kind)
    (front : String)
    {weeks : List (Week α)}
    {state : σ}
    (hKind : Kind state)
    {before after : List (Visit α σ)}
    {v : Visit α σ}
    (hVisits : s.visits weeks state = before ++ v :: after) :
    shareOf front
        ((assignedBy (before ++ [v])).map (·.origin) ++
          (s.remaining v.state).map (·.origin)) =
      shareOf front ((s.remaining state).map (·.origin)) := by
  induction weeks generalizing state before with
  | nil => simp [visits] at hVisits
  | cons w ws ih =>
      unfold visits at hVisits
      split at hVisits
      · split at hVisits
        · simp at hVisits
        · have hVisit := fill_shareOf hKeeps front w hKind
          have hNext := (hKeeps (WeekLoad.opened w) state hKind).1
          rcases List.cons_eq_append_iff.mp hVisits with
            ⟨rfl, hFirst⟩ | ⟨others, rfl, hLater⟩
          · cases hFirst
            simpa [assignedBy, visit] using hVisit
          · have hRest := ih hNext hLater
            rw [List.cons_append, assignedBy, List.flatMap_cons,
              List.map_append, List.append_assoc, shareOf_append]
            exact
              (congrArg _ hRest).trans
                ((shareOf_append front _ _).symm.trans hVisit)
      · exact ih hKind hVisits

end Strategy

------------------------------------------------------------
-- Visits of a Distribution
------------------------------------------------------------

omit [Scalar α] in
/- A finished distribution has the fronts it was given. -/
@[simp] theorem finish_fronts
    (s : Strategy α σ)
    (fronts : List (Front α))
    (p : Progress α σ) :
    (finish s fronts p).fronts = fronts := by
  unfold finish
  split
  · rfl
  · split <;> rfl

/- The visits of weeks that fronts share. -/
def parallelVisits
    (fronts : List (Front α))
    (weeks : List (Week α)) : List (Visit α (List (Lane α))) :=
  parallelStrategy.visits weeks (fronts.map (·.lane))

/-
  When fronts share weeks, the weeks of the distribution are
  those that the visits have filled.
-/
theorem distribute_parallelVisits
    {lessons : List (CostedLesson α)}
    {weeks : List (Week α)}
    {frontOrder : List String}
    {d : Distribution α}
    (hDistribute :
      distribute lessons weeks .parallel frontOrder = .ok d) :
    lessons ≠ [] ∧
    d.fronts = weighFronts (groupFronts lessons) ∧
    ∃ surplus,
      Composed weeks d ((parallelVisits d.fronts weeks).map (·.load))
        surplus := by
  unfold distribute at hDistribute
  split at hDistribute
  · cases hDistribute
  · rename_i hLessons
    cases hDistribute
    have hFronts :
        (distributeParallel lessons weeks).fronts =
          weighFronts (groupFronts lessons) :=
      finish_fronts _ _ _
    refine ⟨by simpa using hLessons, hFronts, ?_⟩
    rw [hFronts]
    exact finish_visitWeeks_composed parallelStrategy_packs _ _ _

/- The fronts that share weeks hold the lessons of the distribution. -/
theorem distribute_parallel_grouped
    {lessons : List (CostedLesson α)}
    {weeks : List (Week α)}
    {frontOrder : List String}
    {d : Distribution α}
    (hDistribute :
      distribute lessons weeks .parallel frontOrder = .ok d) :
    Grouped lessons d.fronts := by
  rw [(distribute_parallelVisits hDistribute).2.1]
  exact (groupFronts_grouped lessons).weighed

------------------------------------------------------------
-- What is Left of a Front
------------------------------------------------------------

omit [Scalar α] in
/-
  Of the lessons of a front, each told by its id and its cost,
  some are left: they follow, in order, those that are placed.
-/
def Leaves
    (lessons : List (CostedLesson α))
    (placed : List (Assignment α))
    (front : String)
    (left : List (String × α)) : Prop :=
  shareOf front (lessons.map (·.origin)) =
    shareOf front (placed.map (·.origin)) ++ left

/- What is left of a front after a visit waits in the front's lane. -/
theorem leaves_of_parallelVisits
    {lessons : List (CostedLesson α)}
    {weeks : List (Week α)}
    {frontOrder : List String}
    {d : Distribution α}
    (hDistribute :
      distribute lessons weeks .parallel frontOrder = .ok d)
    {before after : List (Visit α (List (Lane α)))}
    {v : Visit α (List (Lane α))}
    (hVisits : parallelVisits d.fronts weeks = before ++ v :: after)
    (hLined : Lined d.fronts v.state)
    {f : Front α}
    (hf : f ∈ d.fronts) :
    ∃ left,
      Leaves lessons (assignedBy (before ++ [v])) f.id left ∧
      ∀ next rest, left = next :: rest →
        ∃ lane ∈ v.state, lane.Serves f ∧
          ∃ l queue, lane.queue = l :: queue ∧ (l.id, l.cost) = next := by
  have hGrouped := distribute_parallel_grouped hDistribute
  have hApart : Apart (d.fronts.map (·.lane)) :=
    List.pairwise_map.mpr hGrouped.apart
  have hStart :
      parallelStrategy.remaining (d.fronts.map (·.lane)) =
        d.fronts.flatMap (·.lessons) := by
    simp [parallelStrategy, List.flatMap_map, Front.lane]
  have hAll :
      shareOf f.id ((d.fronts.flatMap (·.lessons)).map (·.origin)) =
        shareOf f.id (lessons.map (·.origin)) := by
    rw [shareOf_lessons, shareOf_lessons,
      hGrouped.ofFront_frontLessons]
  have hShare :=
    parallelStrategy.visits_shareOf parallelStrategy_keepsOrder f.id
      hApart hVisits
  rw [hStart, hAll, shareOf_append] at hShare
  refine ⟨_, hShare.symm, ?_⟩
  intro next rest hNext
  change shareOf f.id ((waiting v.state).map (·.origin)) = _ at hNext
  rw [shareOf_lessons] at hNext
  rcases List.map_eq_cons_iff.mp hNext with ⟨l, others, hLeft, hSame, _⟩
  rcases hLined.exists_lane hGrouped.distinct hf hLeft with
    ⟨lane, hLane, hServes, queue, hQueue⟩
  exact ⟨lane, hLane, hServes, l, queue, hQueue, hSame⟩

------------------------------------------------------------
-- Lessons that Take Time
------------------------------------------------------------

/- Lanes of fronts, in which no lesson takes less than no time. -/
structure Ready
    (fronts : List (Front Rat))
    (lanes : List (Lane Rat)) : Prop where
  lined : Lined fronts lanes
  costs : NonnegCosts (waiting lanes)

theorem Ready.drawn
    {fronts : List (Front Rat)}
    {lanes rest : List (Lane Rat)}
    {lessons : List (CostedLesson Rat)}
    (h : Ready fronts lanes)
    (hDrawn : Drawn lanes lessons rest) :
    Ready fronts rest :=
  ⟨h.lined.drawn hDrawn, h.costs.of_subset hDrawn.subset.2⟩

/-
  What holds of each visit to a week of use holds of all of a
  distribution, and the lanes stay those of its fronts.
-/
theorem forall_parallelVisits
    {lessons : List (CostedLesson Rat)}
    (hCosts : NonnegCosts lessons)
    {weeks : List (Week Rat)}
    {frontOrder : List String}
    {d : Distribution Rat}
    (hDistribute :
      distribute lessons weeks .parallel frontOrder = .ok d)
    {P : Visit Rat (List (Lane Rat)) → Prop}
    (hVisit :
      ∀ (w : Week Rat) (lanes : List (Lane Rat)),
        w.isUseful = true → Ready d.fronts lanes →
          P (parallelStrategy.visit w lanes)) :
    ∀ v ∈ parallelVisits d.fronts weeks,
      P v ∧ Ready d.fronts v.state := by
  have hGrouped := distribute_parallel_grouped hDistribute
  have hStart : Ready d.fronts (d.fronts.map (·.lane)) := by
    refine ⟨hGrouped.lined, hCosts.of_subset ?_⟩
    intro l hl
    rcases List.mem_flatMap.mp hl with ⟨lane, hLane, hQueued⟩
    rcases List.mem_map.mp hLane with ⟨f, hf, rfl⟩
    change l ∈ f.lessons at hQueued
    rw [hGrouped.holds f hf] at hQueued
    exact (List.mem_filter.mp hQueued).1
  refine Strategy.forall_visits ?_ weeks _ hStart
  intro w lanes hUseful _ hReady
  rcases fillParallel_draws (WeekLoad.opened w) lanes with
    ⟨placed, hDraws⟩
  have hNext := hReady.drawn hDraws.drawn
  exact ⟨⟨hVisit w lanes hUseful hReady, hNext⟩, hNext⟩

/- Lessons of two fronts, together more than an hour. -/
def sharedLessons : List (CostedLesson Rat) :=
  [("a", "x", 30), ("b", "y", 20), ("c", "x", 30), ("e", "y", 20)].map
    CostedLesson.ofOrigin

/- A week of an hour. -/
def sharedHour : Week Rat :=
  ⟨1, .unset, .unset, false, 60⟩

/- An hour takes one lesson of each front; the second of `y` is left. -/
theorem sharedHour_visits :
    ∃ d v,
      distribute sharedLessons [sharedHour] .parallel [] = .ok d ∧
      parallelVisits d.fronts [sharedHour] = [v] ∧
      v.load.assignments.map (·.lessonId) = ["a", "b"] ∧
      v.load.week.capacity = 60 ∧
      Leaves sharedLessons (assignedBy [v]) "y" [("e", 20)] ∧
      d.fronts.length = 2 ∧
      ∃ f ∈ d.fronts, f.id = "y" ∧ f.weight = 2 / 5 := by
  generalize hd : distributeParallel sharedLessons [sharedHour] = d
  generalize hv :
    parallelStrategy.visit sharedHour (d.fronts.map (·.lane)) = v
  refine ⟨d, v, ?_, ?_, ?_⟩
  · rw [← hd]
    rfl
  · subst hv hd
    unfold parallelVisits Strategy.visits
    rw [if_pos (by decide +kernel), if_neg (by decide +kernel)]
    rfl
  · subst hv hd
    unfold Leaves
    decide +kernel

end Timetable.Plan
