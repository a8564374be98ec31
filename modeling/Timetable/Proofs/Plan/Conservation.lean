import Timetable.Proofs.Plan.Packing

/-
  This file shows that distributing lessons over weeks loses
  no lesson, invents none and doubles none, as long as there
  is a week to put lessons into.

  Key definitions include:
    * `Strategy.Places`

  Conservation is proven by:
    * `groupFronts_lessons_perm`
    * `visitWeeks_perm`
    * `distribute_origins_perm`
    * `distribute_lessonIds_perm`
    * `distribute_of_no_useful`
-/

namespace Timetable.Plan

variable {α : Type} [Scalar α]

------------------------------------------------------------
-- Fronts
------------------------------------------------------------

/- The lessons of fronts. -/
def frontLessons (fronts : List (Front α)) : List (CostedLesson α) :=
  fronts.flatMap (·.lessons)

/- A lesson that is put into its front is added to the others. -/
theorem addToFronts_lessons_perm
    (l : CostedLesson α)
    (fronts : List (Front α)) :
    (frontLessons (addToFronts l fronts)).Perm
      (frontLessons fronts ++ [l]) := by
  induction fronts with
  | nil => exact List.Perm.refl _
  | cons f fs ih =>
      unfold addToFronts
      split
      · have hSwap :
            ([l] ++ frontLessons fs).Perm
              (frontLessons fs ++ [l]) :=
          List.perm_append_comm
        simpa [frontLessons, Front.push] using
          hSwap.append_left f.lessons
      · simpa [frontLessons] using ih.append_left f.lessons

/- Grouping keeps every lesson. -/
theorem groupFronts_lessons_perm
    (lessons : List (CostedLesson α)) :
    (frontLessons (groupFronts lessons)).Perm lessons := by
  have hFold :
      ∀ (rest : List (CostedLesson α)) (fronts : List (Front α)),
        (frontLessons
          (rest.foldl (fun fs l => addToFronts l fs) fronts)).Perm
            (frontLessons fronts ++ rest) := by
    intro rest
    induction rest with
    | nil =>
        intro fronts
        simp
    | cons l rest ih =>
        intro fronts
        have hStep :=
          (addToFronts_lessons_perm l fronts).append_right rest
        have hRest := (ih (addToFronts l fronts)).trans hStep
        simpa using hRest
  have hGroups := hFold lessons []
  simpa [frontLessons, groupFronts] using hGroups

/- Weighing fronts leaves their lessons alone. -/
@[simp] theorem frontLessons_weighFronts
    (fronts : List (Front α)) :
    frontLessons (weighFronts fronts) = frontLessons fronts := by
  simp [frontLessons, weighFronts, List.flatMap_map]

omit [Scalar α] in
/- Ordering fronts keeps every lesson. -/
theorem orderFronts_lessons_perm
    (preference : List String)
    (fronts : List (Front α)) :
    (frontLessons (orderFronts preference fronts)).Perm
      (frontLessons fronts) :=
  (List.mergeSort_perm fronts _).flatMap_right _

------------------------------------------------------------
-- Visiting Weeks
------------------------------------------------------------

/-
  A way of packing takes what it puts into a week from what
  remains to be placed.
-/
def Strategy.Places
    {σ : Type}
    (s : Strategy α σ) : Prop :=
  ∀ (load : WeekLoad α) (state : σ),
    ∃ placed,
      (s.fill load state).1 = load.addAll placed ∧
      (placed.map (·.1) ++
        s.remaining (s.fill load state).2).Perm
          (s.remaining state)

theorem parallelStrategy_places :
    (parallelStrategy : Strategy α _).Places := by
  intro load lanes
  rcases fillParallel_draws load lanes with ⟨placed, hDraws⟩
  exact ⟨placed, hDraws.load_eq, hDraws.drawn.perm⟩

theorem sequentialStrategy_places :
    (sequentialStrategy : Strategy α _).Places := by
  intro load fronts
  rcases fillSequential_admits load fronts with
    ⟨placed, hLoad, _, hFlat⟩
  exact ⟨placed, hLoad, List.Perm.of_eq hFlat⟩

section Visits

variable {σ : Type} {s : Strategy α σ}

/- All lessons of a state, placed and not placed. -/
def Progress.origins
    (s : Strategy α σ)
    (p : Progress α σ) : List (String × String × α) :=
  p.assignments.map (·.origin) ++
    (s.remaining p.state).map (·.origin)

/- One week moves lessons, but loses none. -/
theorem fill_origins_perm
    (hPlaces : s.Places)
    (w : Week α)
    (lastWeek : Option Int)
    (p : Progress α σ) :
    (Progress.origins s
      ⟨p.assignments ++
          (s.fill (WeekLoad.opened w) p.state).1.assignments,
        lastWeek,
        (s.fill (WeekLoad.opened w) p.state).2⟩).Perm
      (Progress.origins s p) := by
  rcases hPlaces (WeekLoad.opened w) p.state with
    ⟨placed, hLoad, hPerm⟩
  have hOrigins := hPerm.map (·.origin)
  rw [List.map_append, List.map_map] at hOrigins
  have hPlaced := WeekLoad.addAll_origins (WeekLoad.opened w) placed
  rw [← hLoad] at hPlaced
  unfold Progress.origins
  rw [List.map_append, List.append_assoc, hPlaced]
  exact hOrigins.append_left _

/- Visiting weeks loses no lesson. -/
theorem visitWeeks_perm
    (hPlaces : s.Places)
    (weeks : List (Week α))
    (p : Progress α σ) :
    (Progress.origins s (visitWeeks s weeks p)).Perm
      (Progress.origins s p) := by
  induction weeks generalizing p with
  | nil => exact List.Perm.refl _
  | cons w ws ih =>
      unfold visitWeeks
      split
      · split
        · exact List.Perm.refl _
        · exact (ih _).trans
            (fill_origins_perm hPlaces w (some w.number) p)
      · exact ih p

/- Without a week to put lessons into, nothing happens. -/
theorem visitWeeks_of_no_useful
    (weeks : List (Week α))
    (hNone : ∀ w ∈ weeks, w.isUseful = false)
    (p : Progress α σ) :
    visitWeeks s weeks p = p := by
  induction weeks with
  | nil => rfl
  | cons w ws ih =>
      have hHead : w.isUseful = false :=
        hNone w (by simp)
      have hTail : ∀ v ∈ ws, v.isUseful = false := by
        intro v hv
        exact hNone v (by simp [hv])
      rw [visitWeeks, hHead, if_neg Bool.false_ne_true, ih hTail]

/- The last visited week is one of the weeks, or was visited before. -/
theorem visitWeeks_lastWeek
    (weeks : List (Week α))
    (p : Progress α σ) :
    (visitWeeks s weeks p).lastWeek = p.lastWeek ∨
      ∃ w ∈ weeks,
        (visitWeeks s weeks p).lastWeek = some w.number := by
  induction weeks generalizing p with
  | nil => exact Or.inl rfl
  | cons w ws ih =>
      have hLater :
          ∀ q : Progress α σ,
            (∃ v ∈ ws,
              (visitWeeks s ws q).lastWeek = some v.number) →
            ∃ v ∈ w :: ws,
              (visitWeeks s ws q).lastWeek = some v.number := by
        rintro q ⟨v, hv, hLast⟩
        exact ⟨v, List.mem_cons_of_mem w hv, hLast⟩
      unfold visitWeeks
      split
      · split
        · exact Or.inl rfl
        · rcases ih ⟨p.assignments ++ _, some w.number, _⟩ with
            hSame | hIn
          · exact Or.inr ⟨w, List.mem_cons_self, hSame⟩
          · exact Or.inr (hLater _ hIn)
      · rcases ih p with hSame | hIn
        · exact Or.inl hSame
        · exact Or.inr (hLater p hIn)

/-
  If lessons remain and there is a week to put them into,
  some week of the table is visited.
-/
theorem visitWeeks_visits
    (weeks : List (Week α))
    (hUseful : ∃ w ∈ weeks, w.isUseful = true)
    (p : Progress α σ)
    (hRemaining : (s.remaining p.state).isEmpty = false) :
    ∃ w ∈ weeks,
      (visitWeeks s weeks p).lastWeek = some w.number := by
  induction weeks with
  | nil =>
      rcases hUseful with ⟨w, hw, _⟩
      cases hw
  | cons w ws ih =>
      unfold visitWeeks
      by_cases hHead : w.isUseful = true
      · rw [if_pos hHead, if_neg (by simp [hRemaining])]
        rcases
            visitWeeks_lastWeek ws
              ⟨p.assignments ++ _, some w.number, _⟩ with
          hSame | ⟨v, hv, hLast⟩
        · exact ⟨w, List.mem_cons_self, hSame⟩
        · exact ⟨v, List.mem_cons_of_mem w hv, hLast⟩
      · rw [if_neg hHead]
        have hTail : ∃ v ∈ ws, v.isUseful = true := by
          rcases hUseful with ⟨v, hv, hvUseful⟩
          rcases List.mem_cons.mp hv with rfl | hv
          · exact absurd hvUseful hHead
          · exact ⟨v, hv, hvUseful⟩
        rcases ih hTail with ⟨v, hv, hLast⟩
        exact ⟨v, List.mem_cons_of_mem w hv, hLast⟩

end Visits

------------------------------------------------------------
-- Overflow
------------------------------------------------------------

omit [Scalar α] in
theorem overflowFrom_origins
    (week position : Int)
    (rest : List (CostedLesson α)) :
    (overflowFrom week position rest).map (·.origin) =
      rest.map (·.origin) := by
  induction rest generalizing position with
  | nil => rfl
  | cons l rest ih =>
      simp only [overflowFrom, List.map_cons, ih]
      rfl

omit [Scalar α] in
/- What is left over goes to the last visited week. -/
theorem finish_origins
    {σ : Type}
    (s : Strategy α σ)
    (fronts : List (Front α))
    (p : Progress α σ)
    {week : Int}
    (hLast : p.lastWeek = some week)
    (hWeek : 0 ≤ week) :
    (finish s fronts p).assignments.map (·.origin) =
      p.assignments.map (·.origin) ++
        (s.remaining p.state).map (·.origin) := by
  have hNot : ¬ week < 0 := by
    omega
  simp [finish, hLast, hNot, overflowFrom_origins]

------------------------------------------------------------
-- Distributions
------------------------------------------------------------

/-
  A strategy that starts with lessons in hand places all of
  them when there is a week to put lessons into: first what
  the weeks had room for, then what remained.
-/
theorem finish_visitWeeks_origins
    {σ : Type}
    {s : Strategy α σ}
    (fronts : List (Front α))
    {weeks : List (Week α)}
    (hNumbers : ∀ w ∈ weeks, 0 ≤ w.number)
    (hUseful : ∃ w ∈ weeks, w.isUseful = true)
    {state : σ}
    (hRemaining : s.remaining state ≠ []) :
    (finish s fronts
      (visitWeeks s weeks ⟨[], none, state⟩)).assignments.map
        (·.origin) =
      Progress.origins s (visitWeeks s weeks ⟨[], none, state⟩) := by
  rcases visitWeeks_visits weeks hUseful ⟨[], none, state⟩
      (List.isEmpty_eq_false_iff.mpr hRemaining) with
    ⟨w, hw, hLast⟩
  exact finish_origins s fronts _ hLast (hNumbers w hw)

/- Nothing is lost on the way. -/
theorem finish_visitWeeks_perm
    {σ : Type}
    {s : Strategy α σ}
    (hPlaces : s.Places)
    (fronts : List (Front α))
    {weeks : List (Week α)}
    (hNumbers : ∀ w ∈ weeks, 0 ≤ w.number)
    (hUseful : ∃ w ∈ weeks, w.isUseful = true)
    (state : σ)
    {lessons : List (CostedLesson α)}
    (hState : (s.remaining state).Perm lessons)
    (hLessons : lessons ≠ []) :
    ((finish s fronts
      (visitWeeks s weeks ⟨[], none, state⟩)).assignments.map
        (·.origin)).Perm (lessons.map (·.origin)) := by
  have hRemaining : s.remaining state ≠ [] := by
    intro hEmpty
    rw [hEmpty] at hState
    exact hLessons hState.symm.eq_nil
  rw [finish_visitWeeks_origins fronts hNumbers hUseful hRemaining]
  have hVisit := visitWeeks_perm hPlaces weeks ⟨[], none, state⟩
  have hStart :
      Progress.origins s ⟨[], none, state⟩ =
        (s.remaining state).map (·.origin) :=
    rfl
  rw [hStart] at hVisit
  exact hVisit.trans (hState.map (·.origin))

/- Before the first week all lessons wait in the lanes of their fronts. -/
theorem waiting_lanes_perm
    (lessons : List (CostedLesson α)) :
    (waiting
      ((weighFronts (groupFronts lessons)).map (·.lane))).Perm
        lessons := by
  have hLanes :
      waiting ((weighFronts (groupFronts lessons)).map (·.lane)) =
        frontLessons (weighFronts (groupFronts lessons)) := by
    simp [waiting, frontLessons, List.flatMap_map, Front.lane]
  rw [hLanes, frontLessons_weighFronts]
  exact groupFronts_lessons_perm lessons

/- In whatever order fronts are packed, they hold all lessons. -/
theorem flatten_orderFronts_perm
    (preference : List String)
    (lessons : List (CostedLesson α)) :
    (((orderFronts preference (groupFronts lessons)).map
      (·.lessons)).flatten).Perm lessons := by
  rw [← List.flatMap_def]
  exact (orderFronts_lessons_perm preference _).trans
    (groupFronts_lessons_perm lessons)

/-
  A distribution holds exactly the lessons that were to be
  distributed, with their fronts and costs.
-/
theorem distribute_origins_perm
    {lessons : List (CostedLesson α)}
    {weeks : List (Week α)}
    {mode : Mode}
    {frontOrder : List String}
    {d : Distribution α}
    (hNumbers : ∀ w ∈ weeks, 0 ≤ w.number)
    (hUseful : ∃ w ∈ weeks, w.isUseful = true)
    (hDistribute : distribute lessons weeks mode frontOrder = .ok d) :
    (d.assignments.map (·.origin)).Perm (lessons.map (·.origin)) := by
  unfold distribute at hDistribute
  split at hDistribute
  · cases hDistribute
  · next hLessons =>
      have hNonempty : lessons ≠ [] := by
        simpa using hLessons
      cases mode with
      | parallel =>
          cases hDistribute
          exact finish_visitWeeks_perm parallelStrategy_places _
            hNumbers hUseful _ (waiting_lanes_perm lessons) hNonempty
      | sequential =>
          cases hDistribute
          exact finish_visitWeeks_perm sequentialStrategy_places _
            hNumbers hUseful _ (flatten_orderFronts_perm _ lessons)
            hNonempty

theorem distribute_lessonIds_perm
    {lessons : List (CostedLesson α)}
    {weeks : List (Week α)}
    {mode : Mode}
    {frontOrder : List String}
    {d : Distribution α}
    (hNumbers : ∀ w ∈ weeks, 0 ≤ w.number)
    (hUseful : ∃ w ∈ weeks, w.isUseful = true)
    (hDistribute : distribute lessons weeks mode frontOrder = .ok d) :
    (d.assignments.map (·.lessonId)).Perm (lessons.map (·.id)) := by
  have hOrigins :=
    (distribute_origins_perm hNumbers hUseful hDistribute).map (·.1)
  rw [List.map_map, List.map_map] at hOrigins
  exact hOrigins

/- Without a week to put lessons into, nothing is assigned. -/
theorem distribute_of_no_useful
    {lessons : List (CostedLesson α)}
    {weeks : List (Week α)}
    {mode : Mode}
    {frontOrder : List String}
    {d : Distribution α}
    (hNone : ∀ w ∈ weeks, w.isUseful = false)
    (hDistribute : distribute lessons weeks mode frontOrder = .ok d) :
    d.assignments = [] ∧ d.overflow = 0 := by
  unfold distribute at hDistribute
  split at hDistribute
  · cases hDistribute
  · cases mode with
    | parallel =>
        cases hDistribute
        simp [distributeParallel, visitWeeks_of_no_useful _ hNone, finish]
    | sequential =>
        cases hDistribute
        simp [distributeSequential, visitWeeks_of_no_useful _ hNone, finish]

/- Only without lessons is there nothing to distribute. -/
theorem distribute_isOk
    {lessons : List (CostedLesson α)}
    (hLessons : lessons ≠ [])
    (weeks : List (Week α))
    (mode : Mode)
    (frontOrder : List String) :
    ∃ d, distribute lessons weeks mode frontOrder = .ok d := by
  unfold distribute
  rw [if_neg (by simpa using hLessons)]
  exact ⟨_, rfl⟩

------------------------------------------------------------
-- Week Tables
------------------------------------------------------------

/- The weeks of a table are numbered in ascending order. -/
theorem weeksFrom_numbers
    (finish : Date)
    (vacations : List Vacation)
    (minutes : α)
    (cursor : Date)
    (number : Int) :
    (∀ w ∈ weeksFrom finish vacations minutes cursor number,
      number ≤ w.number) ∧
    (weeksFrom finish vacations minutes cursor number).Pairwise
      (fun v w => v.number < w.number) := by
  fun_induction weeksFrom finish vacations minutes cursor number with
  | case1 => simp
  | case2 cursor number _ ih =>
      rcases ih with ⟨hLater, hOrder⟩
      constructor
      · intro w hw
        rcases List.mem_cons.mp hw with rfl | hw
        · exact Int.le_refl _
        · have hStep := hLater w hw
          omega
      · apply List.Pairwise.cons _ hOrder
        intro w hw
        have hStep := hLater w hw
        change number < w.number
        omega

/- No week of a table has a number below one. -/
theorem buildWeeks_number_pos
    {start finish : Date}
    {vacations : List Vacation}
    {hoursPerDay : α}
    {studyDays : Int}
    {w : Week α}
    (hw : w ∈ buildWeeks start finish vacations hoursPerDay studyDays) :
    1 ≤ w.number :=
  (weeksFrom_numbers finish vacations _ start 1).1 w hw

end Timetable.Plan
