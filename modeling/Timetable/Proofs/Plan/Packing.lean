import Timetable.Plan.Distribution

/-
  This file says what packing does to a week.  Every way of
  filling a week draws lessons from the front of its queues,
  one after the other, and puts each of them into the week:
  because it fits what the week holds by then, or by force
  because it does not even fit the empty week.

  Key definitions include:
    * `Assignment.origin`
    * `WeekLoad.addAll`
    * `WeekLoad.Admits`
    * `Drawn`
    * `Draws`

  The ways of filling a week are described by:
    * `fillQuota_fills`
    * `fillWhileFits_fills`
    * `fillParallel_draws`
    * `fillSequential_admits`
-/

namespace Timetable.Plan

variable {α : Type} [Scalar α]

------------------------------------------------------------
-- Putting Lessons into a Week
------------------------------------------------------------

omit [Scalar α] in
/- What a lesson hands on to its assignment: its id, its front and its cost. -/
def CostedLesson.origin (l : CostedLesson α) : String × String × α :=
  (l.id, l.frontId, l.cost)

omit [Scalar α] in
/- A lesson of which only this is known. -/
def CostedLesson.ofOrigin (origin : String × String × α) : CostedLesson α :=
  { Lesson.blank α with
    id := origin.1
    frontId := origin.2.1
    cost := origin.2.2 }

omit [Scalar α] in
/- What an assignment has from its lesson. -/
def Assignment.origin (a : Assignment α) : String × String × α :=
  (a.lessonId, a.frontId, a.cost)

namespace WeekLoad

/- Put lessons into a week, each forced or not. -/
def addAll :
    WeekLoad α → List (CostedLesson α × Bool) → WeekLoad α
| load, [] => load
| load, (l, forced) :: rest => (load.add l forced).addAll rest

@[simp] theorem addAll_nil
    (load : WeekLoad α) :
    load.addAll [] = load :=
  rfl

@[simp] theorem addAll_cons
    (load : WeekLoad α)
    (l : CostedLesson α)
    (forced : Bool)
    (rest : List (CostedLesson α × Bool)) :
    load.addAll ((l, forced) :: rest) =
      (load.add l forced).addAll rest :=
  rfl

theorem addAll_append
    (load : WeekLoad α)
    (first second : List (CostedLesson α × Bool)) :
    load.addAll (first ++ second) =
      (load.addAll first).addAll second := by
  induction first generalizing load with
  | nil => rfl
  | cons entry first ih =>
      exact ih (load.add entry.1 entry.2)

/- The lessons of a week are those that were put into it. -/
theorem addAll_origins
    (load : WeekLoad α)
    (placed : List (CostedLesson α × Bool)) :
    (load.addAll placed).assignments.map (·.origin) =
      load.assignments.map (·.origin) ++
        placed.map (·.1.origin) := by
  induction placed generalizing load with
  | nil => simp
  | cons entry placed ih =>
      rcases entry with ⟨l, forced⟩
      have hAdd :
          (load.add l forced).assignments.map (·.origin) =
            load.assignments.map (·.origin) ++ [l.origin] :=
        List.map_append
      simp [ih, hAdd]

/- Everything that is put into a week stands in that week. -/
theorem addAll_weeks
    (load : WeekLoad α)
    (placed : List (CostedLesson α × Bool))
    (hWeeks :
      ∀ a ∈ load.assignments, a.week = load.week.number) :
    ∀ a ∈ (load.addAll placed).assignments,
      a.week = load.week.number := by
  induction placed generalizing load with
  | nil => exact hWeeks
  | cons entry placed ih =>
      apply ih (load.add entry.1 entry.2)
      intro a ha
      rcases List.mem_append.mp ha with hOld | hNew
      · exact hWeeks a hOld
      · rw [List.mem_singleton.mp hNew]
        rfl

/- A week with more lessons is the same week. -/
@[simp] theorem addAll_week
    (load : WeekLoad α)
    (placed : List (CostedLesson α × Bool)) :
    (load.addAll placed).week = load.week := by
  induction placed generalizing load with
  | nil => rfl
  | cons entry placed ih => exact ih (load.add entry.1 entry.2)

theorem addAll_length
    (load : WeekLoad α)
    (placed : List (CostedLesson α × Bool)) :
    (load.addAll placed).assignments.length =
      load.assignments.length + placed.length := by
  induction placed generalizing load with
  | nil => rfl
  | cons entry placed ih =>
      have hAdd :
          (load.add entry.1 entry.2).assignments.length =
            load.assignments.length + 1 :=
        List.length_append
      rw [addAll_cons, ih, hAdd, List.length_cons]
      omega

/- A week that is empty after lessons were put into it got none. -/
theorem eq_nil_of_addAll_isEmpty
    {load : WeekLoad α}
    {placed : List (CostedLesson α × Bool)}
    (hEmpty : (load.addAll placed).isEmpty = true) :
    placed = [] := by
  have hLength := addAll_length load placed
  have hNone : (load.addAll placed).assignments = [] :=
    List.isEmpty_iff.mp hEmpty
  rw [hNone, List.length_nil] at hLength
  exact List.eq_nil_of_length_eq_zero (by omega)

------------------------------------------------------------
-- Lessons that a Week Admits
------------------------------------------------------------

/-
  A week admits lessons one after the other: one that is not
  forced fits what the week holds by then, and one that is
  forced does not fit although the week is empty, and is the
  last.
-/
def Admits :
    WeekLoad α → List (CostedLesson α × Bool) → Prop
| _, [] => True
| load, (l, false) :: rest =>
    load.fits l = true ∧ (load.add l false).Admits rest
| load, (l, true) :: rest =>
    load.isEmpty = true ∧ load.fits l = false ∧ rest = []

/- Lessons that are put into a week without force. -/
def unforced
    (lessons : List (CostedLesson α)) :
    List (CostedLesson α × Bool) :=
  lessons.map (fun l => (l, false))

omit [Scalar α] in
@[simp] theorem unforced_lessons
    (lessons : List (CostedLesson α)) :
    (unforced lessons).map (·.1) = lessons := by
  unfold unforced
  rw [List.map_map]
  exact List.map_id lessons

/- After lessons that are not forced a week admits what it admits then. -/
theorem Admits.append
    {load : WeekLoad α}
    {taken : List (CostedLesson α)}
    {placed : List (CostedLesson α × Bool)}
    (hTaken : load.Admits (unforced taken))
    (hPlaced : (load.addAll (unforced taken)).Admits placed) :
    load.Admits (unforced taken ++ placed) := by
  induction taken generalizing load with
  | nil => exact hPlaced
  | cons l taken ih => exact ⟨hTaken.1, ih hTaken.2 hPlaced⟩

end WeekLoad

open WeekLoad (unforced)

------------------------------------------------------------
-- One Queue
------------------------------------------------------------

/- A queue was placed from its first lesson on, each lesson because it fits. -/
def Fills
    (load : WeekLoad α)
    (queue : List (CostedLesson α))
    (result : WeekLoad α × List (CostedLesson α)) : Prop :=
  ∃ taken,
    result.1 = load.addAll (unforced taken) ∧
    taken ++ result.2 = queue ∧
    load.Admits (unforced taken)

private theorem fills_nothing
    (load : WeekLoad α)
    (queue : List (CostedLesson α)) :
    Fills load queue (load, queue) :=
  ⟨[], rfl, rfl, trivial⟩

/- A lesson that fits is placed before the rest of its queue. -/
private theorem fills_cons
    {load : WeekLoad α}
    {l : CostedLesson α}
    {rest : List (CostedLesson α)}
    {result : WeekLoad α × List (CostedLesson α)}
    (hFits : load.fits l = true)
    (hRest : Fills (load.add l false) rest result) :
    Fills load (l :: rest) result := by
  rcases hRest with ⟨taken, hLoad, hQueue, hAdmits⟩
  refine ⟨l :: taken, hLoad, ?_, hFits, hAdmits⟩
  rw [List.cons_append, hQueue]

/- A quota is filled from the front of the queue. -/
theorem fillQuota_fills
    (quota spent : α)
    (load : WeekLoad α)
    (queue : List (CostedLesson α)) :
    Fills load queue (fillQuota quota spent load queue) := by
  induction queue generalizing spent load with
  | nil => exact fills_nothing load []
  | cons l rest ih =>
      unfold fillQuota
      split
      · exact fills_nothing load (l :: rest)
      · rename_i hWithin
        have hFits : load.fits l = true := by
          cases hFits : load.fits l with
          | true => rfl
          | false => exact absurd (Or.inr hFits) hWithin
        exact fills_cons hFits (ih _ _)

/- What is left of a week is filled from the front of the queue. -/
theorem fillWhileFits_fills
    (load : WeekLoad α)
    (queue : List (CostedLesson α)) :
    Fills load queue (fillWhileFits load queue) := by
  induction queue generalizing load with
  | nil => exact fills_nothing load []
  | cons l rest ih =>
      unfold fillWhileFits
      split
      · rename_i hFits
        exact fills_cons hFits (ih _)
      · exact fills_nothing load (l :: rest)

/- A lesson that is left over does not fit any more. -/
theorem fillWhileFits_stuck
    {load : WeekLoad α}
    {queue rest : List (CostedLesson α)}
    {l : CostedLesson α}
    (hLeft : (fillWhileFits load queue).2 = l :: rest) :
    (fillWhileFits load queue).1.fits l = false := by
  induction queue generalizing load with
  | nil => cases hLeft
  | cons first queue ih =>
      unfold fillWhileFits at hLeft ⊢
      split
      · rename_i hFits
        rw [if_pos hFits] at hLeft
        exact ih hLeft
      · rename_i hFits
        rw [if_neg hFits] at hLeft
        cases hLeft
        simpa using hFits

------------------------------------------------------------
-- Drawing from Lanes
------------------------------------------------------------

omit [Scalar α] in
/- The lessons that wait in lanes. -/
def waiting (lanes : List (Lane α)) : List (CostedLesson α) :=
  lanes.flatMap (·.queue)

omit [Scalar α] in
/- Lessons are drawn from lanes, each from the front of a queue. -/
inductive Drawn :
    List (Lane α) → List (CostedLesson α) → List (Lane α) → Prop where
| nothing (lanes : List (Lane α)) : Drawn lanes [] lanes
| lesson
    {before behind rest : List (Lane α)}
    {lane : Lane α}
    {l : CostedLesson α}
    {queue lessons : List (CostedLesson α)}
    (hQueue : lane.queue = l :: queue)
    (hRest :
      Drawn (before ++ { lane with queue := queue } :: behind)
        lessons rest) :
    Drawn (before ++ lane :: behind) (l :: lessons) rest

omit [Scalar α] in
theorem Drawn.append
    {lanes middle rest : List (Lane α)}
    {first second : List (CostedLesson α)}
    (hFirst : Drawn lanes first middle)
    (hSecond : Drawn middle second rest) :
    Drawn lanes (first ++ second) rest := by
  induction hFirst with
  | nothing => exact hSecond
  | lesson hQueue _ ih => exact .lesson hQueue (ih hSecond)

omit [Scalar α] in
/- Where nothing was drawn the lanes are as before. -/
theorem Drawn.eq_of_nil
    {lanes rest : List (Lane α)}
    (h : Drawn lanes [] rest) :
    rest = lanes := by
  cases h
  rfl

omit [Scalar α] in
/- What is drawn from lanes is drawn from them behind another lane, too. -/
theorem Drawn.cons
    (lane : Lane α)
    {lanes rest : List (Lane α)}
    {lessons : List (CostedLesson α)}
    (h : Drawn lanes lessons rest) :
    Drawn (lane :: lanes) lessons (lane :: rest) := by
  induction h with
  | nothing lanes => exact .nothing (lane :: lanes)
  | @lesson before _ _ _ _ _ _ hQueue _ ih =>
      rw [← List.cons_append]
      exact .lesson hQueue ih

omit [Scalar α] in
/- A queue is drawn from its first lesson on. -/
theorem drawn_of_queue
    {lane : Lane α}
    {taken queue : List (CostedLesson α)}
    (hQueue : taken ++ queue = lane.queue)
    (lanes : List (Lane α)) :
    Drawn (lane :: lanes) taken ({ lane with queue := queue } :: lanes) := by
  induction taken generalizing lane with
  | nil =>
      rw [show queue = lane.queue from hQueue]
      exact .nothing (lane :: lanes)
  | cons l taken ih =>
      have hRest :
          Drawn ({ lane with queue := taken ++ queue } :: lanes) taken
            ({ lane with queue := queue } :: lanes) :=
        ih rfl
      rw [← List.nil_append (lane :: lanes)]
      exact .lesson hQueue.symm hRest

omit [Scalar α] in
/- Drawing loses no lesson. -/
theorem Drawn.perm
    {lanes rest : List (Lane α)}
    {lessons : List (CostedLesson α)}
    (h : Drawn lanes lessons rest) :
    (lessons ++ waiting rest).Perm (waiting lanes) := by
  induction h with
  | nothing => exact List.Perm.refl _
  | @lesson before behind _ lane l queue _ hQueue _ ih =>
      have hLanes :
          waiting (before ++ lane :: behind) =
            waiting before ++ l :: (queue ++ waiting behind) := by
        simp [waiting, hQueue]
      have hLeft :
          waiting (before ++ { lane with queue := queue } :: behind) =
            waiting before ++ (queue ++ waiting behind) := by
        simp [waiting]
      rw [hLeft] at ih
      rw [hLanes, List.cons_append]
      exact (ih.cons l).trans List.perm_middle.symm

------------------------------------------------------------
-- All Fronts at Once
------------------------------------------------------------

/-
  A week was filled from lanes: it admitted lessons that were
  drawn from them.
-/
structure Draws
    (load : WeekLoad α)
    (lanes : List (Lane α))
    (placed : List (CostedLesson α × Bool))
    (result : WeekLoad α × List (Lane α)) : Prop where
  load_eq : result.1 = load.addAll placed
  admits : load.Admits placed
  drawn : Drawn lanes (placed.map (·.1)) result.2

theorem draws_nothing
    (load : WeekLoad α)
    (lanes : List (Lane α)) :
    Draws load lanes (unforced []) (load, lanes) :=
  ⟨rfl, trivial, .nothing lanes⟩

/- What is drawn after lessons that are not forced. -/
theorem Draws.append
    {load : WeekLoad α}
    {lanes : List (Lane α)}
    {taken : List (CostedLesson α)}
    {placed : List (CostedLesson α × Bool)}
    {middle result : WeekLoad α × List (Lane α)}
    (hFirst : Draws load lanes (unforced taken) middle)
    (hSecond : Draws middle.1 middle.2 placed result) :
    Draws load lanes (unforced taken ++ placed) result := by
  have hLoad := hSecond.load_eq
  have hAdmits := hSecond.admits
  rw [hFirst.load_eq] at hLoad hAdmits
  refine ⟨?_, hFirst.admits.append hAdmits, ?_⟩
  · rw [hLoad, WeekLoad.addAll_append]
  · rw [List.map_append]
    exact hFirst.drawn.append hSecond.drawn

/- One lane is served, and then the lanes behind it. -/
private theorem draws_cons
    {load middle : WeekLoad α}
    {lane : Lane α}
    {lanes : List (Lane α)}
    {queue : List (CostedLesson α)}
    {result : WeekLoad α × List (Lane α)}
    (hLane : Fills load lane.queue (middle, queue))
    (hRest : ∃ taken, Draws middle lanes (unforced taken) result) :
    ∃ taken,
      Draws load (lane :: lanes) (unforced taken)
        (result.1, { lane with queue := queue } :: result.2) := by
  rcases hLane with ⟨first, hLoad, hQueue, hAdmits⟩
  rcases hRest with ⟨second, hDraws⟩
  have hFirst :
      Draws load (lane :: lanes) (unforced first)
        (middle, { lane with queue := queue } :: lanes) := by
    refine ⟨hLoad, hAdmits, ?_⟩
    rw [WeekLoad.unforced_lessons]
    exact drawn_of_queue hQueue lanes
  have hSecond :
      Draws middle ({ lane with queue := queue } :: lanes)
        (unforced second)
        (result.1, { lane with queue := queue } :: result.2) :=
    ⟨hDraws.load_eq, hDraws.admits, hDraws.drawn.cons _⟩
  refine ⟨first ++ second, ?_⟩
  rw [show unforced (first ++ second) =
    unforced first ++ unforced second from List.map_append]
  exact hFirst.append hSecond

theorem quotaPass_draws
    (load : WeekLoad α)
    (lanes : List (Lane α)) :
    ∃ taken,
      Draws load lanes (unforced taken) (quotaPass load lanes) := by
  induction lanes generalizing load with
  | nil => exact ⟨[], draws_nothing load []⟩
  | cons lane lanes ih =>
      exact draws_cons (fillQuota_fills _ _ load lane.queue) (ih _)

theorem leftoverPass_draws
    (load : WeekLoad α)
    (lanes : List (Lane α)) :
    ∃ taken,
      Draws load lanes (unforced taken) (leftoverPass load lanes) := by
  induction lanes generalizing load with
  | nil => exact ⟨[], draws_nothing load []⟩
  | cons lane lanes ih =>
      exact draws_cons (fillWhileFits_fills load lane.queue) (ih _)

/-
  If a week is still empty when all lanes have been offered
  what is left of it, it fits none of the lessons that come
  next.
-/
theorem leftoverPass_stuck
    {load : WeekLoad α}
    {lanes : List (Lane α)}
    (hEmpty : (leftoverPass load lanes).1.isEmpty = true) :
    ∀ lane ∈ (leftoverPass load lanes).2, ∀ l rest,
      lane.queue = l :: rest →
        (leftoverPass load lanes).1.fits l = false := by
  induction lanes generalizing load with
  | nil =>
      intro lane hLane
      cases hLane
  | cons first lanes ih =>
      rcases leftoverPass_draws (fillWhileFits load first.queue).1
          lanes with
        ⟨more, hMore⟩
      have hResult :
          (leftoverPass load (first :: lanes)).1 =
            (leftoverPass (fillWhileFits load first.queue).1
              lanes).1 :=
        rfl
      rw [hResult] at hEmpty ⊢
      intro lane hLane l rest hQueue
      rcases List.mem_cons.mp hLane with rfl | hLater
      · -- the lanes behind placed nothing, so that the week is the one the lane left
        have hNone := hEmpty
        rw [hMore.load_eq] at hNone ⊢
        rw [WeekLoad.eq_nil_of_addAll_isEmpty hNone]
        exact fillWhileFits_stuck hQueue
      · exact ih hEmpty lane hLater l rest hQueue

/- A lesson that fits no lane's week is forced into the empty week. -/
theorem forceFirst_draws
    {load : WeekLoad α}
    (hEmpty : load.isEmpty = true)
    {lanes : List (Lane α)}
    (hStuck :
      ∀ lane ∈ lanes, ∀ l rest,
        lane.queue = l :: rest → load.fits l = false) :
    ∃ placed, Draws load lanes placed (forceFirst load lanes) := by
  induction lanes with
  | nil => exact ⟨[], draws_nothing load []⟩
  | cons lane lanes ih =>
      unfold forceFirst
      split
      · rename_i l rest hQueue
        have hFits := hStuck lane (by simp) l rest hQueue
        exact ⟨[(l, true)], rfl, ⟨hEmpty, hFits, rfl⟩,
          drawn_of_queue hQueue.symm lanes⟩
      · rcases ih (fun other hOther =>
            hStuck other (List.mem_cons_of_mem lane hOther)) with
          ⟨placed, hDraws⟩
        exact ⟨placed, hDraws.load_eq, hDraws.admits,
          hDraws.drawn.cons lane⟩

/- After the quotas a week admits lessons from what the lanes have left. -/
theorem fillParallel_draws_after_quotas
    (load : WeekLoad α)
    (lanes : List (Lane α)) :
    ∃ placed,
      Draws (quotaPass load lanes).1 (quotaPass load lanes).2 placed
        (fillParallel load lanes) := by
  rcases leftoverPass_draws (quotaPass load lanes).1
      (quotaPass load lanes).2 with
    ⟨taken, hLeftover⟩
  unfold fillParallel
  simp only
  split
  · rename_i hEmpty
    rcases forceFirst_draws hEmpty (leftoverPass_stuck hEmpty) with
      ⟨placed, hForce⟩
    exact ⟨_, hLeftover.append hForce⟩
  · exact ⟨_, hLeftover⟩

/- A week that is filled in parallel admits lessons from the lanes. -/
theorem fillParallel_draws
    (load : WeekLoad α)
    (lanes : List (Lane α)) :
    ∃ placed, Draws load lanes placed (fillParallel load lanes) := by
  rcases quotaPass_draws load lanes with ⟨taken, hQuotas⟩
  rcases fillParallel_draws_after_quotas load lanes with
    ⟨placed, hRest⟩
  exact ⟨_, hQuotas.append hRest⟩

------------------------------------------------------------
-- One Front after the Other
------------------------------------------------------------

/-
  A front is placed from its first lesson on.  A front that
  leaves the week open was placed as a whole and without
  force.
-/
theorem fillFront_admits
    (load : WeekLoad α)
    (front : List (CostedLesson α)) :
    ∃ placed,
      (fillFront load front).1 = load.addAll placed ∧
      placed.map (·.1) ++ (fillFront load front).2.1 = front ∧
      load.Admits placed ∧
      ((fillFront load front).2.2 = true →
        (fillFront load front).2.1 = [] ∧ placed = unforced front) := by
  induction front generalizing load with
  | nil => exact ⟨[], rfl, rfl, trivial, fun _ => ⟨rfl, rfl⟩⟩
  | cons l rest ih =>
      unfold fillFront
      split
      · rename_i hFits
        rcases ih (load.add l false) with
          ⟨placed, hLoad, hFront, hAdmits, hOpen⟩
        refine ⟨(l, false) :: placed, hLoad, ?_, ⟨hFits, hAdmits⟩, ?_⟩
        · rw [List.map_cons, List.cons_append, hFront]
        · intro hFlag
          rcases hOpen hFlag with ⟨hRest, hPlaced⟩
          exact ⟨hRest, congrArg ((l, false) :: ·) hPlaced⟩
      · rename_i hFits
        split
        · rename_i hEmpty
          exact ⟨[(l, true)], rfl, rfl,
            ⟨hEmpty, by simpa using hFits, rfl⟩, nofun⟩
        · exact ⟨[], rfl, rfl, trivial, nofun⟩

/- A week that is filled front by front admits lessons in order. -/
theorem fillSequential_admits
    (load : WeekLoad α)
    (fronts : List (List (CostedLesson α))) :
    ∃ placed,
      (fillSequential load fronts).1 = load.addAll placed ∧
      load.Admits placed ∧
      placed.map (·.1) ++ (fillSequential load fronts).2.flatten =
        fronts.flatten := by
  induction fronts generalizing load with
  | nil => exact ⟨[], rfl, trivial, rfl⟩
  | cons front fronts ih =>
      rcases fillFront_admits load front with
        ⟨first, hLoad, hFront, hAdmits, hOpen⟩
      unfold fillSequential
      generalize fillFront load front = filled at *
      rcases filled with ⟨middle, rest, isOpen⟩
      simp only at hLoad hFront hOpen
      subst hLoad
      cases isOpen with
      | true =>
          rcases hOpen rfl with ⟨_, rfl⟩
          rcases ih (load.addAll (unforced front)) with
            ⟨second, hSecond, hMore, hFlat⟩
          refine ⟨unforced front ++ second, ?_, hAdmits.append hMore, ?_⟩
          · rw [WeekLoad.addAll_append]
            exact hSecond
          · rw [List.map_append, WeekLoad.unforced_lessons,
              List.append_assoc, List.flatten_cons]
            exact congrArg (front ++ ·) hFlat
      | false =>
          refine ⟨first, rfl, hAdmits, ?_⟩
          rw [List.flatten_cons, List.flatten_cons,
            ← List.append_assoc, hFront]

end Timetable.Plan
