import Timetable.Proofs.Plan.Numbering

/-
  This file takes a distribution apart: it is what the visited
  weeks were filled with, one week after the other, and then
  what was left over.  Every visited week was given a lesson,
  and lessons are left over only when every week that lessons
  can be put into was visited.

  Key definitions include:
    * `WeekLoad.Filled`
    * `Strategy.Packs`
    * `Strategy.visits`
    * `Visited`
    * `Composed`

  Main theorems include:
    * `parallelStrategy_packs`
    * `sequentialStrategy_packs`
    * `visitWeeks_visited`
    * `distribute_composed`
-/

namespace Timetable.Plan

variable {α : Type} [Scalar α]

open WeekLoad (unforced)

------------------------------------------------------------
-- Every Visited Week is Given a Lesson
------------------------------------------------------------

@[simp] theorem WeekLoad.isEmpty_add
    (load : WeekLoad α)
    (l : CostedLesson α)
    (forced : Bool) :
    (load.add l forced).isEmpty = false := by
  simp [WeekLoad.isEmpty, WeekLoad.add]

/- A week that holds lessons keeps them. -/
theorem WeekLoad.isEmpty_addAll
    {load : WeekLoad α}
    (hSome : load.isEmpty = false)
    (placed : List (CostedLesson α × Bool)) :
    (load.addAll placed).isEmpty = false := by
  induction placed generalizing load with
  | nil => exact hSome
  | cons entry placed ih => exact ih (load.isEmpty_add entry.1 entry.2)

/- One of the lessons that wait is forced. -/
theorem forceFirst_isEmpty
    (load : WeekLoad α)
    {lanes : List (Lane α)}
    (hWaiting : waiting lanes ≠ []) :
    (forceFirst load lanes).1.isEmpty = false := by
  induction lanes with
  | nil => exact absurd rfl hWaiting
  | cons lane lanes ih =>
      unfold forceFirst
      split
      · exact load.isEmpty_add _ _
      · rename_i hQueue
        apply ih
        intro hNone
        apply hWaiting
        change lane.queue ++ waiting lanes = []
        rw [hQueue, hNone, List.append_nil]

theorem fillParallel_isEmpty
    (load : WeekLoad α)
    {lanes : List (Lane α)}
    (hWaiting : waiting lanes ≠ []) :
    (fillParallel load lanes).1.isEmpty = false := by
  rcases quotaPass_draws load lanes with ⟨first, hQuota⟩
  rcases leftoverPass_draws (quotaPass load lanes).1
      (quotaPass load lanes).2 with
    ⟨second, hLeftover⟩
  have hPasses := hQuota.append hLeftover
  unfold fillParallel
  simp only
  split
  · -- the passes placed nothing, so that all lessons still wait
    rename_i hEmpty
    have hNone := hPasses.load_eq ▸ hEmpty
    have hDrawn := hPasses.drawn
    rw [WeekLoad.eq_nil_of_addAll_isEmpty hNone] at hDrawn
    apply forceFirst_isEmpty
    rw [hDrawn.eq_of_nil]
    exact hWaiting
  · rename_i hSome
    exact Bool.eq_false_iff.mpr hSome

/- A front that has a lesson gives it to a week that is empty. -/
theorem fillFront_isEmpty
    (load : WeekLoad α)
    (l : CostedLesson α)
    (rest : List (CostedLesson α)) :
    (fillFront load (l :: rest)).1.isEmpty = false := by
  unfold fillFront
  split
  · rcases fillFront_admits (load.add l false) rest with
      ⟨placed, hLoad, _⟩
    rw [hLoad]
    exact WeekLoad.isEmpty_addAll (load.isEmpty_add l false) placed
  · split
    · exact load.isEmpty_add l true
    · rename_i hSome
      exact Bool.eq_false_iff.mpr hSome

theorem fillSequential_isEmpty
    (load : WeekLoad α)
    {fronts : List (List (CostedLesson α))}
    (hWaiting : fronts.flatten ≠ []) :
    (fillSequential load fronts).1.isEmpty = false := by
  induction fronts generalizing load with
  | nil => exact absurd rfl hWaiting
  | cons front fronts ih =>
      cases front with
      | nil => exact ih load hWaiting
      | cons l rest =>
          have hFront := fillFront_isEmpty load l rest
          unfold fillSequential
          generalize fillFront load (l :: rest) = filled at *
          rcases filled with ⟨middle, left, isOpen⟩
          cases isOpen with
          | true =>
              rcases fillSequential_admits middle fronts with
                ⟨placed, hLoad, _⟩
              change (fillSequential middle fronts).1.isEmpty = false
              rw [hLoad]
              exact WeekLoad.isEmpty_addAll hFront placed
          | false => exact hFront

------------------------------------------------------------
-- Filled Weeks
------------------------------------------------------------

/- A week that was given lessons, each of which it admitted. -/
def WeekLoad.Filled (load : WeekLoad α) : Prop :=
  ∃ placed,
    placed ≠ [] ∧
    load = (opened load.week).addAll placed ∧
    (opened load.week).Admits placed

theorem WeekLoad.Filled.weeks
    {load : WeekLoad α}
    (h : load.Filled) :
    ∀ a ∈ load.assignments, a.week = load.week.number := by
  rcases h with ⟨placed, _, hLoad, _⟩
  have hWeeks := addAll_weeks (opened load.week) placed nofun
  rw [← hLoad] at hWeeks
  exact hWeeks

theorem WeekLoad.Filled.exists_assignment
    {load : WeekLoad α}
    (h : load.Filled) :
    ∃ a ∈ load.assignments, a.week = load.week.number := by
  have hWeeks := h.weeks
  rcases h with ⟨placed, hPlaced, hLoad, _⟩
  have hLength := addAll_length (opened load.week) placed
  rw [← hLoad] at hLength
  have hSome : load.assignments ≠ [] := by
    intro hNone
    rw [hNone, List.length_nil] at hLength
    exact hPlaced (List.eq_nil_of_length_eq_zero (by omega))
  rcases List.exists_mem_of_ne_nil _ hSome with ⟨a, ha⟩
  exact ⟨a, ha, hWeeks a ha⟩

/- A way of packing that has lessons left fills every week with some. -/
def Strategy.Packs
    {σ : Type}
    (s : Strategy α σ) : Prop :=
  ∀ (w : Week α) (state : σ), s.remaining state ≠ [] →
    (s.fill (WeekLoad.opened w) state).1.week = w ∧
    (s.fill (WeekLoad.opened w) state).1.Filled

/- What an empty week admits fills it, if it is anything. -/
private theorem filled_of_addAll
    {w : Week α}
    {load : WeekLoad α}
    {placed : List (CostedLesson α × Bool)}
    (hLoad : load = (WeekLoad.opened w).addAll placed)
    (hAdmits : (WeekLoad.opened w).Admits placed)
    (hSome : load.isEmpty = false) :
    load.week = w ∧ load.Filled := by
  have hWeek : load.week = w := by
    rw [hLoad, WeekLoad.addAll_week]
    rfl
  refine ⟨hWeek, placed, ?_, ?_, ?_⟩
  · rintro rfl
    rw [hLoad] at hSome
    cases hSome
  · rw [hWeek]
    exact hLoad
  · rw [hWeek]
    exact hAdmits

theorem parallelStrategy_packs :
    (parallelStrategy : Strategy α _).Packs := by
  intro w lanes hWaiting
  rcases fillParallel_draws (WeekLoad.opened w) lanes with
    ⟨placed, hDraws⟩
  exact filled_of_addAll hDraws.load_eq hDraws.admits
    (fillParallel_isEmpty _ hWaiting)

theorem sequentialStrategy_packs :
    (sequentialStrategy : Strategy α _).Packs := by
  intro w fronts hWaiting
  rcases fillSequential_admits (WeekLoad.opened w) fronts with
    ⟨placed, hLoad, hAdmits, _⟩
  exact filled_of_addAll hLoad hAdmits
    (fillSequential_isEmpty _ hWaiting)

------------------------------------------------------------
-- Visits
------------------------------------------------------------

/- A week as it was filled, and the state that was left. -/
structure Visit (α σ : Type) where
  load : WeekLoad α
  state : σ

section Visits

variable {σ : Type}

namespace Strategy

/- Visit a week: open it and fill it. -/
def visit
    (s : Strategy α σ)
    (w : Week α)
    (state : σ) : Visit α σ :=
  ⟨(s.fill (WeekLoad.opened w) state).1,
    (s.fill (WeekLoad.opened w) state).2⟩

/- The visits of weeks, in order, until nothing is left to place. -/
def visits
    (s : Strategy α σ) :
    List (Week α) → σ → List (Visit α σ)
| [], _ => []
| w :: ws, state =>
    if w.isUseful then
      if (s.remaining state).isEmpty then []
      else s.visit w state :: s.visits ws (s.visit w state).state
    else
      s.visits ws state

end Strategy

------------------------------------------------------------
-- Visiting Weeks
------------------------------------------------------------

/-
  From one state weeks were visited up to another one, and
  filled in order.  If lessons remain, no week that lessons
  can be put into was left out.
-/
structure Visited
    (s : Strategy α σ)
    (weeks : List (Week α))
    (p : Progress α σ)
    (loads : List (WeekLoad α))
    (q : Progress α σ) : Prop where
  assignments :
    q.assignments = p.assignments ++ loads.flatMap (·.assignments)
  lastWeek :
    q.lastWeek =
      (loads.getLast?.map (·.week.number)).or p.lastWeek
  filled : ∀ load ∈ loads, load.Filled
  inOrder :
    (loads.map (·.week)).Sublist (weeks.filter (·.isUseful))
  complete :
    s.remaining q.state ≠ [] →
      loads.map (·.week) = weeks.filter (·.isUseful)

theorem visitWeeks_visited
    {s : Strategy α σ}
    (hPacks : s.Packs)
    (weeks : List (Week α))
    (p : Progress α σ) :
    Visited s weeks p ((s.visits weeks p.state).map (·.load))
      (visitWeeks s weeks p) := by
  induction weeks generalizing p with
  | nil =>
      refine ⟨?_, rfl, ?_, List.Sublist.refl _, fun _ => rfl⟩
      · exact (List.append_nil _).symm
      · intro load hLoad
        cases hLoad
  | cons w ws ih =>
      unfold visitWeeks Strategy.visits
      by_cases hUseful : w.isUseful = true
      · rw [if_pos hUseful, if_pos hUseful]
        split
        · rename_i hDone
          refine ⟨?_, rfl, ?_, List.nil_sublist _, ?_⟩
          · exact (List.append_nil _).symm
          · intro load hLoad
            cases hLoad
          · intro hLeft
            exact absurd (List.isEmpty_iff.mp hDone) hLeft
        · rename_i hLeft
          rcases hPacks w p.state (by simpa using hLeft) with
            ⟨hWeek, hFilled⟩
          unfold Strategy.visit
          generalize s.fill (WeekLoad.opened w) p.state = filled at *
          rcases filled with ⟨load, state⟩
          simp only at hWeek hFilled ⊢
          subst hWeek
          have hLoads :=
            ih ⟨p.assignments ++ load.assignments,
              some load.week.number, state⟩
          rw [List.map_cons]
          simp only at hLoads ⊢
          generalize (s.visits ws state).map (·.load) = loads at *
          refine ⟨?_, ?_, ?_, ?_, ?_⟩
          · rw [hLoads.assignments, List.append_assoc,
              List.flatMap_cons]
          · rw [hLoads.lastWeek, List.getLast?_cons]
            cases loads.getLast? <;> rfl
          · intro other hOther
            rcases List.mem_cons.mp hOther with rfl | hLater
            · exact hFilled
            · exact hLoads.filled other hLater
          · rw [List.filter_cons_of_pos hUseful, List.map_cons]
            exact hLoads.inOrder.cons_cons _
          · intro hRemaining
            rw [List.filter_cons_of_pos hUseful, List.map_cons,
              hLoads.complete hRemaining]
      · rw [if_neg hUseful, if_neg hUseful]
        have hLoads := ih p
        refine ⟨hLoads.assignments, hLoads.lastWeek,
          hLoads.filled, ?_, ?_⟩
        · rw [List.filter_cons_of_neg hUseful]
          exact hLoads.inOrder
        · rw [List.filter_cons_of_neg hUseful]
          exact hLoads.complete

end Visits

------------------------------------------------------------
-- Overflow
------------------------------------------------------------

omit [Scalar α] in
theorem overflowFrom_forced
    (week position : Int)
    (rest : List (CostedLesson α)) :
    ∀ a ∈ overflowFrom week position rest, a.forced = true := by
  induction rest generalizing position with
  | nil => nofun
  | cons l rest ih =>
      intro a ha
      rcases List.mem_cons.mp ha with rfl | hLater
      · rfl
      · exact ih (position + 1) a hLater

omit [Scalar α] in
theorem length_overflowFrom
    (week position : Int)
    (rest : List (CostedLesson α)) :
    (overflowFrom week position rest).length = rest.length := by
  induction rest generalizing position with
  | nil => rfl
  | cons l rest ih => exact congrArg (· + 1) (ih (position + 1))

omit [Scalar α] in
/- What is left over is forced into the last visited week, and counted. -/
theorem finish_overflow
    {σ : Type}
    (s : Strategy α σ)
    (fronts : List (Front α))
    (p : Progress α σ) :
    ∃ surplus,
      (finish s fronts p).assignments = p.assignments ++ surplus ∧
      surplus.length = (finish s fronts p).overflow ∧
      ∀ a ∈ surplus,
        a.forced = true ∧ p.lastWeek = some a.week ∧
        s.remaining p.state ≠ [] := by
  unfold finish
  split
  · exact ⟨[], (List.append_nil _).symm, rfl, nofun⟩
  · rename_i week hLast
    split
    · exact ⟨[], (List.append_nil _).symm, rfl, nofun⟩
    · refine ⟨_, rfl, length_overflowFrom _ _ _, ?_⟩
      intro a ha
      have hWeek := overflowFrom_weeks _ _ _ a ha
      refine ⟨overflowFrom_forced _ _ _ a ha, hWeek ▸ hLast, ?_⟩
      intro hNone
      rw [hNone] at ha
      cases ha

------------------------------------------------------------
-- Distributions
------------------------------------------------------------

/-
  A distribution is made of filled weeks in the order of the
  table, and of what is forced into the last of them once
  every week was visited.
-/
structure Composed
    (weeks : List (Week α))
    (d : Distribution α)
    (loads : List (WeekLoad α))
    (surplus : List (Assignment α)) : Prop where
  assignments :
    d.assignments = loads.flatMap (·.assignments) ++ surplus
  overflow : surplus.length = d.overflow
  filled : ∀ load ∈ loads, load.Filled
  inOrder :
    (loads.map (·.week)).Sublist (weeks.filter (·.isUseful))
  complete :
    surplus ≠ [] → loads.map (·.week) = weeks.filter (·.isUseful)
  forced : ∀ a ∈ surplus, a.forced = true
  lastWeek :
    ∀ a ∈ surplus, ∃ load, loads.getLast? = some load ∧
      a.week = load.week.number

theorem finish_visitWeeks_composed
    {σ : Type}
    {s : Strategy α σ}
    (hPacks : s.Packs)
    (fronts : List (Front α))
    (weeks : List (Week α))
    (state : σ) :
    ∃ surplus,
      Composed weeks
        (finish s fronts (visitWeeks s weeks ⟨[], none, state⟩))
        ((s.visits weeks state).map (·.load)) surplus := by
  have hLoads := visitWeeks_visited hPacks weeks ⟨[], none, state⟩
  rcases finish_overflow s fronts
      (visitWeeks s weeks ⟨[], none, state⟩) with
    ⟨surplus, hSurplus, hCount, hForced⟩
  refine ⟨surplus, ?_, hCount, hLoads.filled, hLoads.inOrder,
    ?_, fun a ha => (hForced a ha).1, ?_⟩
  · rw [hSurplus, hLoads.assignments, List.nil_append]
  · intro hSome
    rcases List.exists_mem_of_ne_nil surplus hSome with ⟨a, ha⟩
    exact hLoads.complete (hForced a ha).2.2
  · intro a ha
    have hLast := (hForced a ha).2.1
    rw [hLoads.lastWeek, Option.or_none, Option.map_eq_some_iff] at hLast
    rcases hLast with ⟨load, hLoad, hNumber⟩
    exact ⟨load, hLoad, hNumber.symm⟩

theorem distribute_composed
    {lessons : List (CostedLesson α)}
    {weeks : List (Week α)}
    {mode : Mode}
    {frontOrder : List String}
    {d : Distribution α}
    (hDistribute : distribute lessons weeks mode frontOrder = .ok d) :
    ∃ loads surplus, Composed weeks d loads surplus := by
  unfold distribute at hDistribute
  split at hDistribute
  · cases hDistribute
  · cases mode with
    | parallel =>
        cases hDistribute
        exact ⟨_, finish_visitWeeks_composed parallelStrategy_packs _ _ _⟩
    | sequential =>
        cases hDistribute
        exact ⟨_, finish_visitWeeks_composed sequentialStrategy_packs _ _ _⟩

end Timetable.Plan
