import Timetable.Proofs.Plan.Fronts
import Timetable.Proofs.Plan.Weeks

/-
  This file shows that a distribution keeps the order of each
  front: however the fronts share the weeks, the lessons of
  one front are placed in the order in which they were given.

  Key definitions include:
    * `shareOf`
    * `Apart`
    * `Strategy.KeepsOrder`

  Main theorems include:
    * `Drawn.ofFront_eq`
    * `parallelStrategy_keepsOrder`
    * `sequentialStrategy_keepsOrder`
    * `visitWeeks_shareOf`
    * `distribute_keeps_front_order`
-/

namespace Timetable.Plan

variable {α : Type}

------------------------------------------------------------
-- Shares of a Front
------------------------------------------------------------

/- The ids and costs of what belongs to a front, in order. -/
def shareOf
    (front : String)
    (origins : List (String × String × α)) : List (String × α) :=
  (origins.filter (fun o => o.2.1 = front)).map (fun o => (o.1, o.2.2))

@[simp] theorem shareOf_append
    (front : String)
    (first second : List (String × String × α)) :
    shareOf front (first ++ second) =
      shareOf front first ++ shareOf front second := by
  simp [shareOf]

theorem shareOf_lessons
    (front : String)
    (lessons : List (CostedLesson α)) :
    shareOf front (lessons.map (·.origin)) =
      (ofFront front lessons).map (fun l => (l.id, l.cost)) := by
  simp only [shareOf, ofFront, List.filter_map, List.map_map]
  rfl

theorem shareOf_assignments
    (front : String)
    (assignments : List (Assignment α)) :
    shareOf front (assignments.map (·.origin)) =
      (assignments.filter (fun a => a.frontId = front)).map
        (fun a => (a.lessonId, a.cost)) := by
  simp only [shareOf, List.filter_map, List.map_map]
  rfl

------------------------------------------------------------
-- Drawing in Order
------------------------------------------------------------

/- No front has lessons in two lanes. -/
def Apart (lanes : List (Lane α)) : Prop :=
  lanes.Pairwise
    (fun a b => ∀ l ∈ a.queue, ∀ m ∈ b.queue, l.frontId ≠ m.frontId)

/- A lane that loses its first lesson stays apart from the others. -/
theorem Apart.draw
    {before behind : List (Lane α)}
    {lane : Lane α}
    {l : CostedLesson α}
    {queue : List (CostedLesson α)}
    (hQueue : lane.queue = l :: queue)
    (h : Apart (before ++ lane :: behind)) :
    Apart (before ++ { lane with queue := queue } :: behind) := by
  rcases List.pairwise_append.mp h with ⟨hBefore, hRest, hCross⟩
  rcases List.pairwise_cons.mp hRest with ⟨hLane, hBehind⟩
  have hFewer : ∀ m ∈ queue, m ∈ lane.queue := by
    intro m hm
    rw [hQueue]
    exact List.mem_cons_of_mem l hm
  refine List.pairwise_append.mpr
    ⟨hBefore, List.pairwise_cons.mpr ⟨?_, hBehind⟩, ?_⟩
  · intro other hOther m hm
    exact hLane other hOther m (hFewer m hm)
  · intro first hFirst second hSecond k hk m hm
    rcases List.mem_cons.mp hSecond with rfl | hLater
    · exact hCross first hFirst lane List.mem_cons_self k hk m
        (hFewer m hm)
    · exact hCross first hFirst second
        (List.mem_cons_of_mem lane hLater) k hk m hm

theorem Drawn.apart
    {lanes rest : List (Lane α)}
    {lessons : List (CostedLesson α)}
    (hDrawn : Drawn lanes lessons rest)
    (h : Apart lanes) :
    Apart rest := by
  induction hDrawn with
  | nothing => exact h
  | lesson hQueue _ ih => exact ih (h.draw hQueue)

/-
  From lanes that keep the fronts apart every front is drawn
  in order: what is drawn of it, and then what waits.
-/
theorem Drawn.ofFront_eq
    {lanes rest : List (Lane α)}
    {lessons : List (CostedLesson α)}
    (hDrawn : Drawn lanes lessons rest)
    (h : Apart lanes)
    (front : String) :
    ofFront front (lessons ++ waiting rest) =
      ofFront front (waiting lanes) := by
  induction hDrawn with
  | nothing => rfl
  | @lesson before behind rest lane l queue lessons hQueue _ ih =>
      have hLanes :
          waiting (before ++ lane :: behind) =
            waiting before ++ l :: (queue ++ waiting behind) := by
        simp [waiting, hQueue]
      have hLeft :
          waiting (before ++ { lane with queue := queue } :: behind) =
            waiting before ++ (queue ++ waiting behind) := by
        simp [waiting]
      have hRest := ih (h.draw hQueue)
      rw [hLeft, ofFront_append front (waiting before)] at hRest
      rw [hLanes, List.cons_append, ofFront_append front (waiting before)]
      by_cases hFront : l.frontId = front
      · -- a lane before this one holds nothing of the lesson's front
        have hNone : ofFront front (waiting before) = [] := by
          apply ofFront_eq_nil
          intro m hm hSame
          rcases List.mem_flatMap.mp hm with ⟨other, hOther, hQueued⟩
          have hApart :=
            (List.pairwise_append.mp h).2.2 other hOther lane
              List.mem_cons_self m hQueued l (by simp [hQueue])
          exact hApart (hSame.trans hFront.symm)
        rw [hNone, List.nil_append] at hRest ⊢
        rw [ofFront_cons_same hFront, ofFront_cons_same hFront, hRest]
      · rw [ofFront_cons_other hFront, ofFront_cons_other hFront, hRest]

------------------------------------------------------------
-- Packing in Order
------------------------------------------------------------

variable [Scalar α]

/-
  A way of packing keeps the order of each front in states of
  a kind: what it puts into a week and what it leaves are, in
  a row, what it had.
-/
def Strategy.KeepsOrder
    {σ : Type}
    (s : Strategy α σ)
    (Kind : σ → Prop) : Prop :=
  ∀ (load : WeekLoad α) (state : σ), Kind state →
    Kind (s.fill load state).2 ∧
    ∃ placed,
      (s.fill load state).1 = load.addAll placed ∧
      ∀ front,
        ofFront front
            (placed.map (·.1) ++ s.remaining (s.fill load state).2) =
          ofFront front (s.remaining state)

theorem parallelStrategy_keepsOrder :
    (parallelStrategy : Strategy α _).KeepsOrder Apart := by
  intro load lanes hApart
  rcases fillParallel_draws load lanes with ⟨placed, hDraws⟩
  exact ⟨hDraws.drawn.apart hApart, placed, hDraws.load_eq,
    hDraws.drawn.ofFront_eq hApart⟩

theorem sequentialStrategy_keepsOrder :
    (sequentialStrategy : Strategy α _).KeepsOrder
      (fun _ => True) := by
  intro load fronts _
  rcases fillSequential_admits load fronts with
    ⟨placed, hLoad, _, hFlat⟩
  exact ⟨trivial, placed, hLoad, fun front =>
    congrArg (ofFront front) hFlat⟩

section Visits

variable
  {σ : Type}
  {s : Strategy α σ}
  {Kind : σ → Prop}

/- What a week is filled with and what is left of a front are what it had. -/
theorem fill_shareOf
    (hKeeps : s.KeepsOrder Kind)
    (front : String)
    (w : Week α)
    {state : σ}
    (hKind : Kind state) :
    shareOf front
        ((s.fill (WeekLoad.opened w) state).1.assignments.map
            (·.origin) ++
          (s.remaining (s.fill (WeekLoad.opened w) state).2).map
            (·.origin)) =
      shareOf front ((s.remaining state).map (·.origin)) := by
  rcases hKeeps (WeekLoad.opened w) state hKind with
    ⟨_, placed, hLoad, hOrder⟩
  have hPlaced :
      (s.fill (WeekLoad.opened w) state).1.assignments.map (·.origin) =
        (placed.map (·.1)).map (·.origin) := by
    rw [hLoad, WeekLoad.addAll_origins, List.map_map]
    rfl
  have hShare :=
    congrArg (List.map fun l => (l.id, l.cost)) (hOrder front)
  rw [← shareOf_lessons, ← shareOf_lessons] at hShare
  rw [hPlaced, ← List.map_append]
  exact hShare

/- Visiting weeks keeps the order of every front. -/
theorem visitWeeks_shareOf
    (hKeeps : s.KeepsOrder Kind)
    (front : String)
    (weeks : List (Week α))
    (p : Progress α σ)
    (hKind : Kind p.state) :
    shareOf front (Progress.origins s (visitWeeks s weeks p)) =
      shareOf front (Progress.origins s p) := by
  induction weeks generalizing p with
  | nil => rfl
  | cons w ws ih =>
      unfold visitWeeks
      split
      · split
        · rfl
        · have hFill := fill_shareOf hKeeps front w hKind
          rw [ih _ (hKeeps (WeekLoad.opened w) p.state hKind).1]
          unfold Progress.origins
          rw [List.map_append, List.append_assoc, shareOf_append,
            hFill, ← shareOf_append]
      · exact ih p hKind

end Visits

------------------------------------------------------------
-- Distributions
------------------------------------------------------------

omit [Scalar α] in
/- Fronts with different ids have lessons of different fronts. -/
theorem Grouped.apart
    {lessons : List (CostedLesson α)}
    {fronts : List (Front α)}
    (h : Grouped lessons fronts) :
    fronts.Pairwise
      (fun f g =>
        ∀ l ∈ f.lessons, ∀ m ∈ g.lessons, l.frontId ≠ m.frontId) := by
  have hOwn :
      ∀ f ∈ fronts, ∀ l ∈ f.lessons, l.frontId = f.id := by
    intro f hf l hl
    rw [h.holds f hf] at hl
    exact of_decide_eq_true (List.mem_filter.mp hl).2
  have hIds : fronts.Pairwise (fun f g => f.id ≠ g.id) :=
    List.pairwise_map.mp h.distinct
  apply hIds.imp_of_mem
  intro f g hf hg hOther l hl m hm hSame
  apply hOther
  rw [← hOwn f hf l hl, ← hOwn g hg m hm, hSame]

/- A strategy that keeps the order places every front in order. -/
theorem finish_visitWeeks_shareOf
    {σ : Type}
    {s : Strategy α σ}
    {Kind : σ → Prop}
    (hKeeps : s.KeepsOrder Kind)
    (fronts : List (Front α))
    {weeks : List (Week α)}
    (hNumbers : ∀ w ∈ weeks, 0 ≤ w.number)
    (hUseful : ∃ w ∈ weeks, w.isUseful = true)
    {state : σ}
    (hKind : Kind state)
    {grouped : List (Front α)}
    (hState : s.remaining state = frontLessons grouped)
    {lessons : List (CostedLesson α)}
    (hGrouped : Grouped lessons grouped)
    (hLessons : lessons ≠ [])
    (front : String) :
    shareOf front
        ((finish s fronts
          (visitWeeks s weeks ⟨[], none, state⟩)).assignments.map
            (·.origin)) =
      shareOf front (lessons.map (·.origin)) := by
  have hShares :
      ∀ other,
        ofFront other (s.remaining state) = ofFront other lessons := by
    intro other
    rw [hState]
    exact hGrouped.ofFront_frontLessons other
  have hRemaining : s.remaining state ≠ [] := by
    intro hEmpty
    rcases List.exists_mem_of_ne_nil lessons hLessons with ⟨l, hl⟩
    have hOwn : l ∈ ofFront l.frontId lessons :=
      List.mem_filter.mpr ⟨hl, by simp⟩
    rw [← hShares, hEmpty] at hOwn
    cases hOwn
  rw [finish_visitWeeks_origins fronts hNumbers hUseful hRemaining,
    visitWeeks_shareOf hKeeps front weeks _ hKind]
  have hStart :
      Progress.origins s ⟨[], none, state⟩ =
        (s.remaining state).map (·.origin) :=
    rfl
  rw [hStart, shareOf_lessons, shareOf_lessons, hShares]

/- A distribution places every front in order. -/
theorem distribute_shareOf
    {lessons : List (CostedLesson α)}
    {weeks : List (Week α)}
    {mode : Mode}
    {frontOrder : List String}
    {d : Distribution α}
    (hNumbers : ∀ w ∈ weeks, 0 ≤ w.number)
    (hUseful : ∃ w ∈ weeks, w.isUseful = true)
    (hDistribute : distribute lessons weeks mode frontOrder = .ok d)
    (front : String) :
    shareOf front (d.assignments.map (·.origin)) =
      shareOf front (lessons.map (·.origin)) := by
  unfold distribute at hDistribute
  split at hDistribute
  · cases hDistribute
  · rename_i hEmpty
    have hLessons : lessons ≠ [] := by
      simpa using hEmpty
    have hGrouped := groupFronts_grouped lessons
    cases mode with
    | parallel =>
        cases hDistribute
        apply finish_visitWeeks_shareOf parallelStrategy_keepsOrder _
          hNumbers hUseful _ _ hGrouped hLessons
        · apply List.pairwise_map.mpr
          apply List.pairwise_map.mpr
          exact hGrouped.apart
        · rw [← frontLessons_weighFronts]
          simp [parallelStrategy, frontLessons, List.flatMap_map,
            Front.lane]
    | sequential =>
        cases hDistribute
        have hOrdered :
            Grouped lessons
              (orderFronts frontOrder (groupFronts lessons)) :=
          hGrouped.perm (List.mergeSort_perm _ _)
        apply finish_visitWeeks_shareOf sequentialStrategy_keepsOrder _
          hNumbers hUseful trivial _ hOrdered hLessons
        exact List.flatMap_def.symm

/-
  Lessons are distributed whatever the mode and the order of
  the fronts.  With a week that is no vacation and has minutes
  above zero, every front's lessons are placed in the order in
  which they were given, and each lesson once; without a week
  to put lessons into, nothing is assigned.
-/
theorem distribute_keeps_front_order
    (lessons : List (CostedLesson Float))
    (weeks : List (Week Float))
    (mode : String)
    (frontOrder : List String)
    (hLessons : lessons ≠ [])
    (hNumbers : ∀ w ∈ weeks, 0 ≤ w.number) :
    ∃ d,
      distribute lessons weeks (Mode.ofName mode) frontOrder = .ok d ∧
      ((∃ w ∈ weeks, w.isVacation = false ∧ 0 < w.capacity) →
        (∀ front,
          (d.assignments.filter (fun a => a.frontId = front)).map
              (fun a => (a.lessonId, a.cost)) =
            (lessons.filter (fun l => l.frontId = front)).map
              (fun l => (l.id, l.cost))) ∧
        (d.assignments.map (·.origin)).Perm
          (lessons.map (·.origin))) ∧
      ((∀ w ∈ weeks, w.isVacation = true ∨ w.capacity ≤ 0) →
        d.assignments = [] ∧ d.overflow = 0) := by
  rcases distribute_isOk hLessons weeks (Mode.ofName mode) frontOrder with
    ⟨d, hDistribute⟩
  refine ⟨d, hDistribute, ?_, ?_⟩
  · rintro ⟨w, hw, hVacation, hCapacity⟩
    have hUseful : ∃ w ∈ weeks, w.isUseful = true :=
      ⟨w, hw, Week.isUseful_of_pos hVacation hCapacity⟩
    constructor
    · intro front
      have hShare :=
        distribute_shareOf hNumbers hUseful hDistribute front
      rw [shareOf_assignments, shareOf_lessons] at hShare
      exact hShare
    · exact distribute_origins_perm hNumbers hUseful hDistribute
  · intro hNone
    apply distribute_of_no_useful _ hDistribute
    intro w hw
    rw [← Bool.not_eq_true, w.isUseful_iff]
    rintro ⟨hVacation, hTime⟩
    rcases hNone w hw with hHoliday | hFull
    · rw [hVacation] at hHoliday
      cases hHoliday
    · exact hTime hFull

/- Two fronts that take turns share a week that holds two lessons. -/
theorem distribute_keeps_front_order_of_two_fronts :
    ∃ d,
      distribute
          ([("a", "x", 30), ("b", "y", 30), ("c", "x", 30)].map
            CostedLesson.ofOrigin)
          [⟨1, .unset, .unset, true, 0⟩, ⟨2, .unset, .unset, false, 60⟩]
          (Mode.ofName "sequential") ["y"] = .ok d ∧
      (d.assignments.filter (fun a => a.frontId = "x")).map
          (fun a => (a.lessonId, a.cost)) =
        [("a", (30 : Float)), ("c", 30)] := by
  rcases
      distribute_keeps_front_order
        ([("a", "x", 30), ("b", "y", 30), ("c", "x", 30)].map
          CostedLesson.ofOrigin)
        [⟨1, .unset, .unset, true, 0⟩, ⟨2, .unset, .unset, false, 60⟩]
        "sequential" ["y"] (by simp) (by simp) with
    ⟨d, hDistribute, hPlaced, _⟩
  refine ⟨d, hDistribute, ?_⟩
  have hOrder :=
    (hPlaced ⟨_, List.mem_cons_of_mem _ List.mem_cons_self, rfl,
      by decide +kernel⟩).1 "x"
  simpa [CostedLesson.ofOrigin] using hOrder

end Timetable.Plan
