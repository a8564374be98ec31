import Timetable.Proofs.Plan.FrontWeights
import Timetable.Proofs.Plan.NextFit

/-
  This file shows that the modes agree when there is only one
  front.  Its quota of a week is the whole week, so that a
  front that shares weeks with no other is packed as a front
  in turn is: each lesson is put into the week at hand while
  it fits, and the first that does not fit closes the week.

  Key definitions include:
    * `Strategy.Matches`
    * `Progress.Alike`
    * `OnlyLane`

  Main theorems include:
    * `visitWeeks_alike`
    * `finish_alike`
    * `fillParallel_onlyLane`
    * `strategies_match`
    * `distribute_of_one_front`
-/

namespace Timetable.Plan

------------------------------------------------------------
-- Ways of Packing that Match
------------------------------------------------------------

section Matching

variable {α σ τ : Type} [Scalar α]

/-
  Two ways of packing match on states that are paired: they
  have the same lessons left, they fill an empty week alike,
  and the states that this leaves are paired again.
-/
structure Strategy.Matches
    (s : Strategy α σ)
    (t : Strategy α τ)
    (Paired : σ → τ → Prop) : Prop where
  remaining :
    ∀ a b, Paired a b → s.remaining a = t.remaining b
  load :
    ∀ a b, Paired a b → ∀ w : Week α,
      (s.fill (WeekLoad.opened w) a).1 = (t.fill (WeekLoad.opened w) b).1
  state :
    ∀ a b, Paired a b → ∀ w : Week α,
      Paired (s.fill (WeekLoad.opened w) a).2
        (t.fill (WeekLoad.opened w) b).2

/- The same weeks were visited and filled alike, and the states are paired. -/
structure Progress.Alike
    (Paired : σ → τ → Prop)
    (p : Progress α σ)
    (q : Progress α τ) : Prop where
  assignments : p.assignments = q.assignments
  lastWeek : p.lastWeek = q.lastWeek
  state : Paired p.state q.state

variable
  {s : Strategy α σ}
  {t : Strategy α τ}
  {Paired : σ → τ → Prop}

/- Ways of packing that match make the same progress through all weeks. -/
theorem visitWeeks_alike
    (hMatches : s.Matches t Paired)
    (weeks : List (Week α))
    {p : Progress α σ}
    {q : Progress α τ}
    (hAlike : p.Alike Paired q) :
    (visitWeeks s weeks p).Alike Paired (visitWeeks t weeks q) := by
  induction weeks generalizing p q with
  | nil => exact hAlike
  | cons w ws ih =>
      have hRemaining := hMatches.remaining _ _ hAlike.state
      unfold visitWeeks
      by_cases hUseful : w.isUseful = true
      · rw [if_pos hUseful, if_pos hUseful, hRemaining]
        by_cases hDone : (t.remaining q.state).isEmpty = true
        · rw [if_pos hDone, if_pos hDone]
          exact hAlike
        · rw [if_neg hDone, if_neg hDone]
          apply ih
          constructor
          · change
              p.assignments ++
                  (s.fill (WeekLoad.opened w) p.state).1.assignments =
                q.assignments ++
                  (t.fill (WeekLoad.opened w) q.state).1.assignments
            rw [hAlike.assignments, hMatches.load _ _ hAlike.state]
          · rfl
          · exact hMatches.state _ _ hAlike.state w
      · rw [if_neg hUseful, if_neg hUseful]
        exact ih hAlike

/- After the same progress the same lessons are appended to the same week. -/
theorem finish_alike
    (hMatches : s.Matches t Paired)
    {p : Progress α σ}
    {q : Progress α τ}
    (hAlike : p.Alike Paired q)
    (fronts others : List (Front α)) :
    (finish s fronts p).assignments = (finish t others q).assignments ∧
      (finish s fronts p).overflow = (finish t others q).overflow := by
  unfold finish
  rw [hAlike.assignments, hAlike.lastWeek,
    hMatches.remaining _ _ hAlike.state]
  cases q.lastWeek with
  | none => exact ⟨rfl, rfl⟩
  | some week =>
      by_cases hNegative : week < 0
      · simp only [if_pos hNegative, and_self]
      · simp only [if_neg hNegative, and_self]

end Matching

------------------------------------------------------------
-- A Week for One Lane
------------------------------------------------------------

section OneLane

variable {α : Type} [Scalar α]

/- What was placed while it fitted leaves nothing more that fits. -/
theorem fillWhileFits_again
    (load : WeekLoad α)
    (queue : List (CostedLesson α)) :
    fillWhileFits (fillWhileFits load queue).1
        (fillWhileFits load queue).2 =
      fillWhileFits load queue := by
  cases hLeft : (fillWhileFits load queue).2 with
  | nil =>
      rw [fillWhileFits, ← hLeft]
  | cons l rest =>
      have hFits := fillWhileFits_stuck hLeft
      rw [fillWhileFits, hFits, if_neg Bool.false_ne_true, ← hLeft]

/-
  Next-fit places lessons while they fit.  If this places
  none, the next lesson is forced into the empty week.
-/
theorem nextFitWeek_eq_fillWhileFits
    (load : WeekLoad α)
    (queue : List (CostedLesson α)) :
    nextFitWeek load queue =
      match fillWhileFits load queue with
      | (load, []) => (load, [])
      | (load, l :: rest) =>
          if load.isEmpty then (load.add l true, rest)
          else (load, l :: rest) := by
  induction queue generalizing load with
  | nil => rfl
  | cons l rest ih =>
      unfold nextFitWeek fillWhileFits
      by_cases hFits : load.fits l = true
      · rw [if_pos hFits, if_pos hFits]
        exact ih _
      · rw [if_neg hFits, if_neg hFits]

/- One lane that takes what fits, or else is forced, is packed by next-fit. -/
theorem forceFirst_onlyLane
    (load : WeekLoad α)
    (weight : α)
    (queue : List (CostedLesson α)) :
    (if (fillWhileFits load queue).1.isEmpty then
        forceFirst (fillWhileFits load queue).1
          [⟨weight, (fillWhileFits load queue).2⟩]
      else
        ((fillWhileFits load queue).1,
          [⟨weight, (fillWhileFits load queue).2⟩])) =
      ((nextFitWeek load queue).1,
        [⟨weight, (nextFitWeek load queue).2⟩]) := by
  rw [nextFitWeek_eq_fillWhileFits]
  generalize fillWhileFits load queue = filled
  rcases filled with ⟨load, left⟩
  cases left with
  | nil =>
      simp only [forceFirst, ite_self]
  | cons l rest =>
      by_cases hEmpty : load.isEmpty = true
      · simp only [if_pos hEmpty, forceFirst]
      · simp only [if_neg hEmpty]

end OneLane

/- A quota of all that a week has does not stop a lesson that fits the week. -/
theorem fillQuota_whole_week
    (load : WeekLoad Rat)
    (queue : List (CostedLesson Rat)) :
    fillQuota load.week.capacity load.used load queue =
      fillWhileFits load queue := by
  induction queue generalizing load with
  | nil => rfl
  | cons l rest ih =>
      unfold fillQuota fillWhileFits
      by_cases hFits : load.fits l = true
      · have hWithin :
            ¬ (load.week.capacity + tolerance < load.used + l.cost ∨
                load.fits l = false) := by
          rw [← WeekLoad.fits_eq_false_iff, or_self, Bool.not_eq_false]
          exact hFits
        rw [if_neg hWithin, if_pos hFits]
        exact ih (load.add l false)
      · rw [if_pos (Or.inr (Bool.eq_false_iff.mpr hFits)), if_neg hFits]

/- The one lane of fronts in turn, with the whole of each week. -/
def OnlyLane
    (lanes : List (Lane Rat))
    (fronts : List (List (CostedLesson Rat))) : Prop :=
  lanes = [⟨1, fronts.flatten⟩]

/- In an empty week, the quota of a lane that has all of it is what fits. -/
theorem quotaPass_onlyLane
    (w : Week Rat)
    (queue : List (CostedLesson Rat)) :
    quotaPass (WeekLoad.opened w) [⟨1, queue⟩] =
      ((fillWhileFits (WeekLoad.opened w) queue).1,
        [⟨1, (fillWhileFits (WeekLoad.opened w) queue).2⟩]) := by
  have hQuota :
      fillQuota (w.capacity * 1) Scalar.zero (WeekLoad.opened w) queue =
        fillWhileFits (WeekLoad.opened w) queue := by
    rw [mul_one]
    exact fillQuota_whole_week (WeekLoad.opened w) queue
  rw [← hQuota]
  rfl

/- Alone in an empty week, a lane that has all of it is packed by next-fit. -/
theorem fillParallel_onlyLane
    (w : Week Rat)
    (queue : List (CostedLesson Rat)) :
    fillParallel (WeekLoad.opened w) [⟨1, queue⟩] =
      ((nextFitWeek (WeekLoad.opened w) queue).1,
        [⟨1, (nextFitWeek (WeekLoad.opened w) queue).2⟩]) := by
  unfold fillParallel
  simp only [quotaPass_onlyLane, leftoverPass, fillWhileFits_again]
  exact forceFirst_onlyLane (WeekLoad.opened w) 1 queue

/- With one lane, sharing weeks is to go through the fronts in turn. -/
theorem strategies_match :
    (parallelStrategy : Strategy Rat _).Matches sequentialStrategy
      OnlyLane where
  remaining := by
    rintro _ fronts rfl
    exact List.append_nil _
  load := by
    rintro _ fronts rfl w
    change
      (fillParallel (WeekLoad.opened w) _).1 =
        (fillSequential (WeekLoad.opened w) fronts).1
    rw [fillParallel_onlyLane, fillSequential_nextFit]
  state := by
    rintro _ fronts rfl w
    change
      (fillParallel (WeekLoad.opened w) _).2 =
        [⟨1, (fillSequential (WeekLoad.opened w) fronts).2.flatten⟩]
    rw [fillParallel_onlyLane, fillSequential_nextFit]

------------------------------------------------------------
-- Lessons of One Front
------------------------------------------------------------

/- Lessons of one front are grouped into one front, which holds them all. -/
theorem groupFronts_of_one_front
    {α : Type}
    [Scalar α]
    {lessons : List (CostedLesson α)}
    {front : String}
    (hLessons : lessons ≠ [])
    (hFront : ∀ l ∈ lessons, l.frontId = front) :
    ∃ f, groupFronts lessons = [f] ∧ f.lessons = lessons := by
  have hGrouped := groupFronts_grouped lessons
  have hSame : ∀ id ∈ (groupFronts lessons).map (·.id), id = front := by
    intro id hId
    rw [(groupFronts_appeared lessons).ids] at hId
    rcases mem_frontIds.mp hId with ⟨l, hl, rfl⟩
    exact hFront l hl
  -- ids that are all the same and differ from each other are one
  have hIds := List.eq_replicate_of_mem hSame
  have hAtMost : ((groupFronts lessons).map (·.id)).length ≤ 1 := by
    rw [← List.nodup_replicate (a := front), ← hIds]
    exact hGrouped.distinct
  rcases List.exists_mem_of_ne_nil lessons hLessons with ⟨l, hl⟩
  have hAtLeast := List.length_pos_of_mem (hGrouped.complete l hl)
  rw [List.length_map] at hAtMost hAtLeast
  rcases List.length_eq_one_iff.mp (Nat.le_antisymm hAtMost hAtLeast) with
    ⟨f, hOne⟩
  have hf : f ∈ groupFronts lessons := by simp [hOne]
  refine ⟨f, hOne, ?_⟩
  rw [hGrouped.holds f hf, hSame f.id (List.mem_map_of_mem hf)]
  apply List.filter_eq_self.mpr
  intro m hm
  simpa using hFront m hm

/- A front that is alone has the whole of every week. -/
theorem weighFronts_of_one_front
    (f : Front Rat) :
    ∃ g, weighFronts [f] = [g] ∧ g.lane = ⟨1, f.lessons⟩ := by
  have hWhole := weighFronts_sum (List.cons_ne_nil f [])
  refine ⟨_, rfl, ?_⟩
  simp only [weighFronts, List.map_cons, List.map_nil, List.sum_cons,
    List.sum_nil, add_zero] at hWhole
  exact congrArg (fun weight => (⟨weight, f.lessons⟩ : Lane Rat)) hWhole

------------------------------------------------------------
-- Distributions
------------------------------------------------------------

/-
  Lessons of one front are distributed alike by both modes,
  whatever they cost, whatever the weeks have, and whatever
  fronts are preferred: the same lessons are put into the same
  weeks at the same positions, the same ones are forced, and
  as many are left over.
-/
theorem distribute_of_one_front
    {lessons : List (CostedLesson Rat)}
    {front : String}
    (hLessons : lessons ≠ [])
    (hFront : ∀ l ∈ lessons, l.frontId = front)
    (weeks : List (Week Rat))
    (frontOrder : List String) :
    ∃ shared inTurn,
      distribute lessons weeks .parallel frontOrder = .ok shared ∧
      distribute lessons weeks .sequential frontOrder = .ok inTurn ∧
      shared.assignments = inTurn.assignments ∧
      shared.overflow = inTurn.overflow := by
  rcases groupFronts_of_one_front hLessons hFront with ⟨f, hOne, hHolds⟩
  rcases weighFronts_of_one_front f with ⟨g, hWeighed, hLane⟩
  have hSome : ¬ lessons.isEmpty = true := by simpa using hLessons
  have hStart :
      OnlyLane ([g].map (·.lane))
        ((orderFronts frontOrder [f]).map (·.lessons)) := by
    unfold OnlyLane orderFronts
    rw [List.mergeSort_singleton]
    simp [hLane]
  have hVisits :=
    visitWeeks_alike strategies_match weeks
      (p := ⟨[], none, _⟩) (q := ⟨[], none, _⟩) ⟨rfl, rfl, hStart⟩
  refine ⟨distributeParallel lessons weeks,
    distributeSequential lessons weeks frontOrder, ?_, ?_, ?_⟩
  · rw [distribute, if_neg hSome]
  · rw [distribute, if_neg hSome]
  · unfold distributeParallel distributeSequential
    rw [hOne, hWeighed]
    exact finish_alike strategies_match hVisits _ _

/- Lessons of one front, one of which takes more than an hour. -/
def longLessons : List (CostedLesson Rat) :=
  [("a", "x", 50), ("b", "x", 70), ("c", "x", 20)].map
    CostedLesson.ofOrigin

/- Two weeks of an hour each, and one between them without any time. -/
def exactHours : List (Week Rat) :=
  [⟨1, .unset, .unset, false, 60⟩, ⟨2, .unset, .unset, true, 0⟩,
    ⟨3, .unset, .unset, false, 60⟩]

/-
  When the weeks are shared, too, the lesson that is too large
  waits for an empty week, and the last one is left over.
-/
theorem distribute_of_one_front_with_large_lesson :
    ∃ shared,
      distribute longLessons exactHours .parallel ["y"] = .ok shared ∧
      shared.assignments.map
          (fun a => (a.lessonId, a.week, a.position, a.forced)) =
        [("a", 1, 1, false), ("b", 3, 1, true), ("c", 3, 2, true)] ∧
      shared.overflow = 1 := by
  have hLessons : longLessons ≠ [] := by
    simp [longLessons]
  have hFront : ∀ l ∈ longLessons, l.frontId = "x" := by
    simp [longLessons, CostedLesson.ofOrigin]
  rcases distribute_of_one_front hLessons hFront exactHours ["y"] with
    ⟨shared, inTurn, hShared, hInTurn, hAssignments, hOverflow⟩
  have hTurn :
      inTurn = distributeSequential longLessons exactHours ["y"] :=
    (Except.ok.inj hInTurn).symm
  refine ⟨shared, hShared, ?_, ?_⟩
  · rw [hAssignments, hTurn]
    decide +kernel
  · rw [hOverflow, hTurn]
    decide +kernel

end Timetable.Plan
