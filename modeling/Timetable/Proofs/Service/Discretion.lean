import Timetable.Proofs.Records.Discretion
import Timetable.Proofs.Service.Changes
import Timetable.Proofs.Service.Generation

/-
  This file shows that the service keeps the rows of an owner
  secret from everybody else: whoever is not the owner can ask
  it for anything without these rows being changed or seen.

  Main theorems include:
    * `discreet_generate`
    * `discreet_ownedPlan`
    * `discreet_current`
    * `discreet_recalculateDates`
    * `discreet_handleDateJob`
-/

namespace Timetable.Service

open Plan Store Act

variable {S : Secret}

------------------------------------------------------------
-- Content
------------------------------------------------------------

theorem discreet_loadLessons
    (f : LessonFilter) :
    (loadLessons f).Discreet S (fun _ => True) := by
  apply ((Records.discreet_listLessons f).attempt.timed).bind
  rintro ⟨o, nanos⟩ _
  apply Discreet.aside_bind (Aside.measure _)
  intro _
  apply Discreet.aside_bind (Aside.resume _)
  intro lessons
  apply Discreet.aside_bind Aside.settings
  intro settings
  apply Discreet.aside_bind (Cache.rememberValue_aside _ _ _).attempt
  intro _
  exact Discreet.pure trivial

theorem discreet_lessons
    (f : LessonFilter) :
    (lessons f).Discreet S (fun _ => True) := by
  apply Discreet.aside_bind (cachedLessons_aside f)
  intro found
  cases found with
  | some found => exact Discreet.pure trivial
  | none =>
      apply Discreet.aside_bind Aside.settings
      intro settings
      apply ((discreet_loadLessons f).under _).attempt.bind
      intro o _
      apply Discreet.aside_bind Aside.checkContext
      intro _
      exact Discreet.resume (fun _ _ => trivial)

theorem discreet_completedBefore
    (owner : String)
    (r : GenerateRequest) :
    (completedBefore owner r).Discreet S (fun _ => True) := by
  unfold completedBefore
  split
  · exact (Records.discreet_completedLessons _ _).restating _
  · exact Discreet.pure trivial

theorem discreet_loadContent
    (owner : String)
    (r : GenerateRequest)
    (speed : Float) :
    (loadContent owner r speed).Discreet S (fun _ => True) := by
  apply ((discreet_lessons _).restating _).attempt.bind
  intro found _
  apply (discreet_completedBefore owner r).attempt.bind
  intro completed _
  apply Discreet.aside_bind (Aside.resume _)
  intro found
  apply Discreet.aside_bind (Aside.resume _)
  intro completed
  apply Discreet.aside_bind Aside.settings
  intro settings
  exact Discreet.pure trivial

------------------------------------------------------------
-- Storing a Plan
------------------------------------------------------------

theorem discreet_createReducedPlan
    {plan : StudyPlan}
    (h : S.Foreign plan) :
    (createReducedPlan plan).Discreet S S.Foreign := by
  apply ((Records.discreet_createCorePlan .transaction h).restating
    _).bind
  rintro ⟨reduced, outcome⟩ hReduced
  apply Discreet.aside_bind ((Aside.resume _).restating _)
  intro _
  apply (Records.discreet_patchPlan .transaction hReduced).attempt.bind
  intro o hPatched
  rcases o with f | ⟨patched, f | _⟩
  · apply Discreet.aside_bind (Aside.note _ _)
    intro _
    exact Discreet.pure hReduced
  · apply Discreet.aside_bind (Aside.note _ _)
    intro _
    exact Discreet.pure (hPatched _ rfl)
  · exact Discreet.pure (hPatched _ rfl)

theorem discreet_createPlan
    {plan : StudyPlan}
    (h : S.Foreign plan) :
    (createPlan plan).Discreet S S.Foreign := by
  apply ((Records.discreet_createPlan .transaction h).restating _).bind
  rintro ⟨stored, outcome⟩ hStored
  cases outcome with
  | ok _ => exact Discreet.pure hStored
  | error f =>
      have hRetry :
          (do
            note .warn
              "study plan insert rejected, retrying with core columns"
            createReducedPlan stored : Act StudyPlan).Discreet S
            S.Foreign := by
        apply Discreet.aside_bind (Aside.note _ _)
        intro _
        exact discreet_createReducedPlan hStored
      simp only
      split
      · exact hRetry
      · exact Discreet.throw_bind _ _

/- A plan of somebody else takes the place of those of its owner. -/
theorem discreet_writePlan
    {plan : StudyPlan}
    {items : List ScheduleItem}
    (weekdays : List Int)
    (h : S.Foreign plan)
    (hItems : ∀ i ∈ items, i.id ∉ S.itemIds) :
    (writePlan plan items weekdays).Discreet S
      (fun p => S.Foreign p.1 ∧ ∀ i ∈ p.2, i.id ∉ S.itemIds) := by
  apply (((Records.discreet_deletePlansOfOwner h.owner).restating
    _).discard).bind
  intro _ _
  apply (discreet_createPlan h).bind
  intro stored hStored
  have hMoved :
      ∀ i ∈ items.map (fun i => { i with planId := stored.id }),
        S.ForeignItem i := by
    intro i hi
    rcases List.mem_map.mp hi with ⟨j, hj, rfl⟩
    exact ⟨hStored.id, hItems j hj⟩
  apply ((Records.discreet_insertItems hMoved).restating _).bind
  intro done hDone
  have hSave :
      (Records.saveWeekdays
        (some ⟨stored.id, some weekdays, .unset⟩)).Discreet S
        (fun _ => True) :=
    Records.discreet_saveWeekdays hStored.id
  apply (hSave.restating _).bind
  intro _ _
  exact Discreet.pure ⟨hStored, fun i hi => (hDone i hi).id⟩

theorem discreet_persist
    {plan : StudyPlan}
    {items : List ScheduleItem}
    (weekdays : List Int)
    (h : S.Foreign plan)
    (hItems : ∀ i ∈ items, i.id ∉ S.itemIds) :
    (persist plan items weekdays).Discreet S
      (fun p => S.Foreign p.1 ∧ ∀ i ∈ p.2, i.id ∉ S.itemIds) := by
  have hReplace :
      (replacePlan plan items weekdays).Discreet S
        (fun p => S.Foreign p.1 ∧ ∀ i ∈ p.2, i.id ∉ S.itemIds) := by
    apply (discreet_writePlan weekdays h hItems).bind
    intro stored hStored
    apply (Records.discreet_commit.restating _).bind
    intro _ _
    exact Discreet.pure hStored
  have hTransact :
      (transact plan items weekdays).Discreet S
        (fun p => S.Foreign p.1 ∧ ∀ i ∈ p.2, i.id ∉ S.itemIds) := by
    apply (Records.discreet_start.restating _).bind
    intro _ _
    exact Records.discreet_inTransaction hReplace
  unfold persist
  apply Discreet.aside_bind Aside.settings
  intro settings
  simp only
  split
  · apply hTransact.attempt.timed.bind
    rintro ⟨outcome, nanos⟩ hOutcome
    have hEnd :
        (do
          measure (·.observeQuery "persist_study_plan" nanos)
          resume outcome :
            Act (StudyPlan × List ScheduleItem)).Discreet S
          (fun p => S.Foreign p.1 ∧ ∀ i ∈ p.2, i.id ∉ S.itemIds) := by
      apply Discreet.aside_bind (Aside.measure _)
      intro _
      exact Discreet.resume hOutcome
    simp only
    split
    · exact Discreet.aside_bind (Aside.note _ _) (fun _ => hEnd)
    · exact hEnd
  · exact Discreet.throw_bind _ _

------------------------------------------------------------
-- Dates
------------------------------------------------------------

/- Dates are written to items of others only. -/
theorem discreet_writeDates
    {dated : List DatedSlot}
    (run : DateRun)
    (h : ∀ d ∈ dated, d.slot.id ∉ S.itemIds) :
    (writeDates dated run).Discreet S (fun _ => True) := by
  induction dated generalizing run with
  | nil => exact Discreet.pure trivial
  | cons d rest ih =>
      have hRest := fun run => ih run (fun e he => h e (by simp [he]))
      unfold writeDates
      apply Discreet.get_bind
      · intro w
        rfl
      · intro w
        split
        · exact Discreet.pure trivial
        · split
          · exact hRest run
          · have hSet :=
              Records.discreet_setItemDate (Timestamp.ofDate d.date)
                (h d (by simp))
            apply hSet.attempt.bind
            intro o _
            cases o with
            | ok _ => exact hRest _
            | error f =>
                apply Discreet.aside_bind (Aside.note _ _)
                intro _
                exact hRest _

theorem discreet_applyDates
    (plan : StudyPlan)
    {items : List ScheduleItem}
    (weekdays : List Int)
    (h : ∀ i ∈ items, i.id ∉ S.itemIds) :
    (applyDates plan items weekdays).Discreet S (fun _ => True) := by
  unfold applyDates
  split
  · exact Discreet.pure trivial
  · rename_i dated hDated
    have hSlots : ∀ d ∈ dated, d.slot.id ∉ S.itemIds := by
      intro d hd
      have hSlot : d.slot ∈ items.map slotOf :=
        (assignDates_slots hDated).subset (List.mem_map_of_mem hd)
      rcases List.mem_map.mp hSlot with ⟨i, hi, hSame⟩
      rw [← hSame]
      exact h i hi
    apply (discreet_writeDates _ hSlots).bind
    intro run _
    apply Discreet.aside_bind (Aside.measure _)
    intro _
    exact Discreet.pure trivial

theorem discreet_effectiveWeekdays
    {plan : StudyPlan}
    (h : S.shown = true ∨ plan.id ∉ S.planIds) :
    (effectiveWeekdays plan).Discreet S (fun _ => True) := by
  apply (Records.discreet_findWeekdays h).attempt.bind
  intro o _
  cases o with
  | error f =>
      simp only
      split
      · exact Discreet.pure trivial
      · exact Discreet.throw _
  | ok choice =>
      simp only
      split
      · exact Discreet.pure trivial
      · apply Discreet.aside_bind (Aside.note _ _)
        intro _
        exact Discreet.pure trivial

------------------------------------------------------------
-- Generating
------------------------------------------------------------

/- New items are items of somebody else. -/
theorem discreet_buildItems
    (planId : String)
    (assignments : List (Assignment Float)) :
    (buildItems planId assignments).Discreet S
      (fun items => ∀ i ∈ items, i.id ∉ S.itemIds) := by
  induction assignments with
  | nil => exact Discreet.pure (by simp)
  | cons a rest ih =>
      apply Discreet.newId.bind
      intro id hId
      apply ih.bind
      intro items hItems
      refine Discreet.pure ?_
      intro i hi
      rcases List.mem_cons.mp hi with rfl | hi
      · exact hId.2
      · exact hItems i hi

/- An offer is seen by the queue only. -/
theorem discreet_offer
    (job : JobOffer) :
    (offer job).Discreet S (fun _ => True) := by
  intro v hGuarded r v' hRun
  rcases (runs_modify_iff _ _ _ _).mp hRun with ⟨rfl, rfl⟩
  exact ⟨⟨hGuarded.store, hGuarded.fresh, hGuarded.jobs⟩, rfl,
    fun _ _ => trivial⟩

/- A job is recorded for the owner of the plan. -/
theorem discreet_enqueueDateJob
    {plan : StudyPlan}
    (h : S.Foreign plan) :
    (enqueueDateJob plan).Discreet S (fun _ => True) := by
  unfold enqueueDateJob
  apply Discreet.get_bind
  · intro w
    rfl
  · intro w
    split
    · exact Discreet.pure trivial
    · apply (discreet_offer _).bind
      intro _ _ v hGuarded r v' hRun
      rcases (runs_modify_iff _ _ _ _).mp hRun with ⟨rfl, rfl⟩
      refine ⟨⟨hGuarded.store, hGuarded.fresh, ?_⟩, rfl,
        fun _ _ => trivial⟩
      rcases hGuarded.jobs with ⟨created, hJobs, hOthers⟩
      refine ⟨created ++ [(dateOffer plan).payload], ?_, ?_⟩
      · simp [hJobs]
      · intro job hJob
        rcases List.mem_append.mp hJob with hJob | hJob
        · exact hOthers job hJob
        · rw [List.mem_singleton.mp hJob]
          exact h.owner
    · exact (discreet_offer _).bind
        (fun _ _ => Discreet.of_aside (Aside.note _ _))
    · exact (discreet_offer _).bind
        (fun _ _ => Discreet.of_aside (Aside.note _ _))

/- A plan is stored for somebody else. -/
theorem discreet_storePlan
    {owner : String}
    (r : GenerateRequest)
    (input : GenerationInput)
    (d : Distribution Float)
    (h : owner ≠ S.owner) :
    (storePlan owner r input d).Discreet S (fun _ => True) := by
  unfold storePlan
  apply Discreet.aside_bind Aside.checkContext
  intro _
  apply Discreet.newId.bind
  intro planId hPlanId
  apply (discreet_buildItems planId d.assignments).bind
  intro items hItems
  have hPlan : S.Foreign (buildPlan planId owner r input) :=
    ⟨h, hPlanId.1⟩
  apply (discreet_persist _ hPlan hItems).bind
  rintro ⟨plan, items⟩ ⟨hStored, hDone⟩
  apply (discreet_applyDates plan _ hDone).bind
  intro run _
  have hEnd :
      ∀ view : PlanView,
        (do
          note .info "study plan generated"
          return view : Act PlanView).Discreet S (fun _ => True) := by
    intro view
    apply Discreet.aside_bind (Aside.note _ _)
    intro _
    exact Discreet.pure trivial
  simp only
  split
  · exact hEnd _
  · apply Discreet.aside_bind (Aside.note _ _)
    intro _
    apply (discreet_enqueueDateJob hStored).bind
    intro _ _
    exact hEnd _

theorem discreet_composePlan
    {owner : String}
    (r : GenerateRequest)
    (input : GenerationInput)
    (content : List (CostedLesson Float))
    (h : owner ≠ S.owner) :
    (composePlan owner r input content).Discreet S
      (fun _ => True) := by
  unfold composePlan
  simp only
  split
  · exact Discreet.throw_bind _ _
  · split
    · apply Discreet.aside_bind (Aside.note _ _)
      intro _
      exact Discreet.throw _
    · apply Discreet.aside_bind (Aside.resume _)
      intro d
      have hStore := discreet_storePlan r input d h
      split
      · exact Discreet.aside_bind (Aside.note _ _) (fun _ => hStore)
      · exact hStore

/- A plan is generated for the requester, and for nobody else. -/
theorem discreet_generatePlan
    {requester : String}
    (r : GenerateRequest)
    (h : requester ≠ S.owner) :
    (generatePlan requester r).Discreet S (fun _ => True) := by
  apply Discreet.aside_bind (Aside.resume _)
  intro input
  have hOwner :
      (resume (resolveOwner requester r.ownerId)).Discreet S
        (fun owner => owner ≠ S.owner) := by
    apply Discreet.resume
    intro owner hResolved
    rw [(resolveOwner_ok hResolved).1]
    exact h
  apply hOwner.bind
  intro owner hOther
  apply Discreet.aside_bind (Aside.note _ _)
  intro _
  apply (discreet_loadContent owner r input.speed).bind
  intro content _
  exact discreet_composePlan r input content hOther

theorem discreet_generate
    {requester : String}
    (r : GenerateRequest)
    (h : requester ≠ S.owner) :
    (generate requester r).Discreet S (fun _ => True) := by
  have hPlan := (discreet_generatePlan r h).limited
  apply ((hPlan.restating deadlineFailure).attempt.timed).bind
  rintro ⟨outcome, nanos⟩ _
  apply Discreet.aside_bind (Aside.measure _)
  intro _
  exact Discreet.resume (fun _ _ => trivial)

------------------------------------------------------------
-- Owned Plans
------------------------------------------------------------

/-
  A plan that the request names is told from one that is not
  there, but only to somebody who owns it is it answered.
-/
theorem discreet_ownedPlan
    {planId owner : String}
    (hNamed : S.shown = true ∨ planId = S.named)
    (h : owner ≠ S.owner) :
    (ownedPlan planId owner).Discreet S S.Foreign := by
  unfold ownedPlan
  split
  · exact Discreet.throw_bind _ _
  apply Records.discreet_findPlan_bind hNamed
  · intro o
    cases o with
    | error f => rfl
    | ok plan =>
        by_cases hOwner : plan.ownerId = owner
        · have hOther : plan.ownerId ≠ S.owner := hOwner ▸ h
          rw [Except.map, Secret.mask_of_ne hOther]
        · simp only [Except.map, Secret.mask_ownerId, bne_iff_ne,
            ne_eq, hOwner, not_false_eq_true, if_true]
          rfl
  · intro o hApart
    cases o with
    | error f =>
        simp only
        split
        · exact Discreet.throw_bind _ _
        · exact Discreet.throw _
    | ok plan =>
        simp only
        split
        · exact Discreet.throw_bind _ _
        · rename_i hOwner
          have hOther : plan.ownerId ≠ S.owner := by
            rw [show plan.ownerId = owner by simpa using hOwner]
            exact h
          exact Discreet.pure ⟨hOther, hApart plan rfl hOther⟩

theorem discreet_itemsOf
    {planId : String}
    (h : S.shown = true ∨ planId ∉ S.planIds) :
    (itemsOf planId).Discreet S
      (fun items => planId ∉ S.planIds → ∀ i ∈ items, i.id ∉ S.itemIds) :=
  (Records.discreet_listItems h).restating _

theorem discreet_storedStatistics
    (plan : StudyPlan)
    (items : List ScheduleItem) :
    (storedStatistics plan items).Discreet S (fun _ => True) := by
  apply Discreet.aside_bind (Aside.resume _)
  intro vacations
  apply (Records.discreet_lessonsById _).bind
  intro lessons _
  exact Discreet.pure trivial

/- The active plan of somebody else, or of an owner who may be shown. -/
theorem discreet_current
    {owner : String}
    (h : S.shown = true ∨ owner ≠ S.owner) :
    (current owner).Discreet S (fun _ => True) := by
  unfold current
  split
  · exact Discreet.throw_bind _ _
  apply (Records.discreet_findPlanOfOwner h).attempt.bind
  intro o hFound
  cases o with
  | error f =>
      simp only
      split
      · exact Discreet.throw_bind _ _
      · exact Discreet.throw _
  | ok plan =>
      have hPlan := hFound plan rfl
      apply (discreet_itemsOf hPlan).bind
      intro items _
      apply (discreet_effectiveWeekdays hPlan).bind
      rintro ⟨weekdays, isDefault⟩ _
      apply (discreet_storedStatistics plan items).attempt.bind
      intro statistics _
      simp only
      split
      · exact Discreet.pure trivial
      · apply Discreet.aside_bind (Aside.note _ _)
        intro _
        exact Discreet.pure trivial

section Owned

variable {planId owner : String}
variable (hNamed : S.shown = true ∨ planId = S.named)
variable (h : owner ≠ S.owner)

include hNamed h

theorem discreet_items :
    (items planId owner).Discreet S (fun _ => True) := by
  apply (discreet_ownedPlan hNamed h).bind
  intro plan hPlan
  exact (discreet_itemsOf (Or.inr hPlan.id)).mono (fun _ _ => trivial)

theorem discreet_getWeekdays :
    (getWeekdays planId owner).Discreet S (fun _ => True) := by
  apply (discreet_ownedPlan hNamed h).bind
  intro plan hPlan
  apply (discreet_effectiveWeekdays (Or.inr hPlan.id)).bind
  rintro ⟨weekdays, isDefault⟩ _
  exact Discreet.pure trivial

theorem discreet_setWeekdays
    (weekdays : List Int) :
    (setWeekdays planId owner weekdays).Discreet S
      (fun _ => True) := by
  apply Discreet.limited
  split
  · exact Discreet.throw _
  rename_i days _
  apply (discreet_ownedPlan hNamed h).bind
  intro plan hPlan
  have hSave :
      (Records.saveWeekdays
        (some ⟨plan.id, some days, .unset⟩)).Discreet S
        (fun _ => True) :=
    Records.discreet_saveWeekdays hPlan.id
  apply (hSave.restating _).bind
  intro _ _
  apply (discreet_itemsOf (Or.inr hPlan.id)).bind
  intro items hItems
  apply (discreet_applyDates plan days (hItems hPlan.id)).bind
  intro run _
  have hEnd :
      (do
        note .info "weekday distribution updated"
        return { planId := plan.id, weekdays := days,
                 itemsUpdated := run.updated } :
          Act WeekdaysView).Discreet S (fun _ => True) := by
    apply Discreet.aside_bind (Aside.note _ _)
    intro _
    exact Discreet.pure trivial
  simp only
  split
  · exact Discreet.aside_bind (Aside.note _ _) (fun _ => hEnd)
  · exact hEnd

theorem discreet_recalculateDates :
    (recalculateDates planId owner).Discreet S (fun _ => True) := by
  apply Discreet.limited
  apply (discreet_ownedPlan hNamed h).bind
  intro plan hPlan
  apply (discreet_effectiveWeekdays (Or.inr hPlan.id)).bind
  rintro ⟨weekdays, isDefault⟩ _
  apply (discreet_itemsOf (Or.inr hPlan.id)).bind
  intro items hItems
  apply (discreet_applyDates plan weekdays (hItems hPlan.id)).bind
  intro run _
  split
  · exact Discreet.throw _
  · exact Discreet.pure trivial

theorem discreet_completeItem
    (itemId : String)
    (completed : Bool) :
    (completeItem planId owner itemId completed).Discreet S
      (fun _ => True) := by
  apply (discreet_ownedPlan hNamed h).bind
  intro plan hPlan
  apply Discreet.aside_bind (completionMoment_aside completed)
  intro moment
  apply (Records.discreet_setItemCompleted itemId completed moment
    hPlan.id).attempt.bind
  intro o _
  cases o with
  | ok item => exact Discreet.pure trivial
  | error f =>
      simp only
      split
      · exact Discreet.throw_bind _ _
      · exact Discreet.throw _

theorem discreet_deletePlan :
    (deletePlan planId owner).Discreet S (fun _ => True) := by
  apply (discreet_ownedPlan hNamed h).bind
  intro plan hPlan
  apply (Records.discreet_deletePlan plan.id h).attempt.bind
  intro o _
  cases o with
  | ok _ => exact Discreet.of_aside (Aside.note _ _)
  | error f =>
      simp only
      split
      · exact Discreet.throw_bind _ _
      · exact Discreet.throw _

theorem discreet_exportPlan
    (format : String) :
    (exportPlan planId owner format).Discreet S (fun _ => True) := by
  apply (discreet_ownedPlan hNamed h).bind
  intro plan hPlan
  apply (discreet_itemsOf (Or.inr hPlan.id)).bind
  intro items _
  have hEnd :
      ∀ lessons : List (Lesson Float),
        (do
          let file ← resume
            (Export.renderPlan (some plan) items lessons format)
          note .debug "study plan exported"
          return file : Act Export.ExportFile).Discreet S
          (fun _ => True) := by
    intro lessons
    apply Discreet.aside_bind (Aside.resume _)
    intro file
    apply Discreet.aside_bind (Aside.note _ _)
    intro _
    exact Discreet.pure trivial
  apply (Records.discreet_lessonsById _).attempt.bind
  intro o _
  cases o with
  | ok lessons =>
      simp only
      exact Discreet.aside_bind (Aside.pure _) hEnd
  | error f =>
      simp only
      apply Discreet.aside_bind (Aside.note _ _)
      intro _
      exact Discreet.aside_bind (Aside.pure _) hEnd

end Owned

------------------------------------------------------------
-- Jobs
------------------------------------------------------------

/- A job is done on behalf of the owner that it records. -/
theorem discreet_handleDateJob
    {job : DateJob}
    (hNamed : S.shown = true ∨ job.planId = S.named)
    (h : job.ownerId ≠ S.owner) :
    (handleDateJob job).Discreet S (fun _ => True) := by
  apply (discreet_recalculateDates hNamed h).attempt.bind
  intro o _
  cases o with
  | error f =>
      simp only
      split
      · exact Discreet.pure trivial
      · exact Discreet.throw _
  | ok view =>
      simp only
      split
      · exact Discreet.of_aside (Aside.note _ _)
      · exact Discreet.throw_bind _ _

end Timetable.Service
