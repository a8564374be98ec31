import Timetable.Proofs.Records.Causes
import Timetable.Proofs.Service.Generation

/-
  This file follows the failures of a generation back to
  where they come from.  Whatever it fails with holds a
  failure that a statement met or that ended the request,
  unless the service itself refuses what is asked.

  Key definitions include:
    * `Refusal`
    * `Explained`

  Main theorems include:
    * `traced_loadContent`
    * `traced_persist`
    * `traced_applyDates`
    * `traced_generatePlan`
-/

namespace Timetable.Service

open Plan Store Act

variable {C P : Failure → Prop}

------------------------------------------------------------
-- Failures of the Store
------------------------------------------------------------

/- What a client is told about the store holds what the store told. -/
theorem stems_storeFailure
    (message : String)
    {f : Failure}
    (h : f.Stems C) :
    (storeFailure message f).Stems C := by
  unfold storeFailure
  split
  · exact Records.stems_caused _ h
  · split
    · exact Records.stems_caused _ h
    · exact Records.stems_caused _ h

------------------------------------------------------------
-- Refusals
------------------------------------------------------------

/-
  What the service fails with although no statement has
  failed: plans cannot be stored at all, or the plan in the
  store has no id.
-/
def mishaps : List Failure :=
  [.because .internal "transaction provider missing",
    storeFailure "failed to save weekday distribution"
      (.plain "plan_id is required")]

/-
  What the service answers of its own accord: the client has
  to ask for something else, or one of these mishaps.
-/
structure Refusal (f : Failure) : Prop where
  inTime : f.hasSentinel .deadline = false
  answer : f.answer.1.status < 500 ∨ f ∈ mishaps

/- A failure holds one of some failures, or is a refusal. -/
def Explained
    (C : Failure → Prop)
    (f : Failure) : Prop :=
  f.Stems C ∨ Refusal f

/- A client is told to ask for something else. -/
theorem Refusal.of_problem
    (p : Problem)
    {f : Failure}
    (hStatus : p.status < 500)
    (hTime : f.hasSentinel .deadline = false)
    (hAnswer : f.answer.1.status = p.status) :
    Refusal f :=
  ⟨hTime, Or.inl (hAnswer ▸ hStatus)⟩

/- A computation fails by refusing only. -/
def Refuses
    {α : Type}
    (x : Except Failure α) : Prop :=
  ∀ f, x = .error f → Refusal f

theorem Refuses.bind
    {α β : Type}
    {x : Except Failure α}
    {k : α → Except Failure β}
    (hx : Refuses x)
    (hk : ∀ a, Refuses (k a)) :
    Refuses (x >>= k) := by
  intro f hf
  cases x with
  | error g =>
      cases hf
      exact hx f rfl
  | ok a => exact hk a f hf

theorem Refuses.throw
    {α : Type}
    {f : Failure}
    (h : Refusal f) :
    Refuses (.error f : Except Failure α) := by
  intro g hg
  cases hg
  exact h

theorem refuses_readDate
    (name text : String) :
    Refuses (readDate name text) := by
  unfold readDate
  split
  · exact nofun
  · exact Refuses.throw (.of_problem .validation (by decide) rfl rfl)

theorem refuses_readVacations
    (i : Nat)
    (requests : List VacationRequest) :
    Refuses (readVacations i requests) := by
  induction requests generalizing i with
  | nil => exact nofun
  | cons request rest ih =>
      apply (refuses_readDate _ _).bind
      intro start
      apply (refuses_readDate _ _).bind
      intro finish
      simp only
      split
      · exact Refuses.throw (.of_problem .validation (by decide) rfl rfl)
      · exact (ih (i + 1)).bind (fun _ => nofun)

theorem refuses_parseRequest
    (r : GenerateRequest) :
    Refuses (parseRequest r) := by
  unfold parseRequest
  simp only
  split
  · apply (refuses_readDate _ _).bind
    intro start
    apply (refuses_readDate _ _).bind
    intro finish
    split
    · apply (refuses_readVacations _ _).bind
      intro vacations
      split
      · exact Refuses.throw (.of_problem .validation (by decide) rfl rfl)
      · exact nofun
    · exact Refuses.throw (.of_problem .validation (by decide) rfl rfl)
  · exact Refuses.throw (.of_problem .validation (by decide) rfl rfl)

theorem refuses_resolveOwner
    (requester owner : String) :
    Refuses (resolveOwner requester owner) := by
  unfold resolveOwner
  split
  · exact Refuses.throw (.of_problem .unauthorized (by decide) rfl rfl)
  · split
    · exact Refuses.throw (.of_problem .validation (by decide) rfl rfl)
    · exact nofun

theorem refuses_arrange
    (r : GenerateRequest)
    (input : GenerationInput)
    (weeks : List (Week Float))
    (content : List (CostedLesson Float)) :
    Refuses (arrange r input weeks content) := by
  unfold arrange
  simp only
  split
  · exact Refuses.throw (.of_problem .validation (by decide) rfl rfl)
  · split
    · exact Refuses.throw (.of_problem .validation (by decide) rfl rfl)
    · exact nofun

------------------------------------------------------------
-- Content
------------------------------------------------------------

/- The store is read for lessons, or the statement has failed. -/
theorem traced_loadLessons
    (f : LessonFilter) :
    (loadLessons f).Traced C (Failure.Stems C) (fun _ => True) := by
  apply (Records.traced_listLessons f).attempt.timed.bind
  rintro ⟨outcome, nanos⟩ ⟨_, hError⟩
  apply (Traced.measure _).bind
  intro _ _
  apply (Traced.resume (fun _ _ => trivial) hError).bind
  intro lessons _
  apply Traced.settings.bind
  intro settings _
  apply (Traced.of_aside (Cache.rememberValue_aside _ _ _)).attempt.bind
  intro _ _
  exact Traced.pure trivial

theorem traced_cachedLessons
    (f : LessonFilter) :
    (cachedLessons f).Traced C P (fun _ => True) := by
  apply (Traced.of_aside (Cache.lookUp_aside _ _)).attempt.bind
  intro o _
  cases o with
  | ok found => exact Traced.pure trivial
  | error f => exact Traced.pure trivial

/- Trouble with the cache does not count. -/
theorem traced_lessons
    (f : LessonFilter) :
    (lessons f).Traced C (Failure.Stems C) (fun _ => True) := by
  apply (traced_cachedLessons f).bind
  intro found _
  cases found with
  | some found => exact Traced.pure trivial
  | none =>
      apply Traced.settings.bind
      intro settings _
      have hLoad :=
        (traced_loadLessons (C := C) f).under
          (Context.detached_passesCancellation
            settings.requestTimeout)
      apply hLoad.attempt.bind
      rintro outcome ⟨_, hError⟩
      apply (Traced.checkContext.mono
        (fun _ hf => Failure.Stems.of_mem hf) (fun _ h => h)).bind
      intro _ _
      exact Traced.resume (fun _ _ => trivial) hError

theorem traced_completedBefore
    (owner : String)
    (r : GenerateRequest) :
    (completedBefore owner r).Traced C (Failure.Stems C)
      (fun _ => True) := by
  unfold completedBefore
  split
  · have hFetch :
        (Records.completedLessons owner r.courseId).Traced C
          (Failure.Stems C) (fun _ => True) :=
      Records.traced_labeled _
        (Records.traced_fetch (.completedLessons owner r.courseId))
    exact hFetch.restating (fun _ hf => Records.stems_caused _ hf)
  · exact Traced.pure trivial

theorem traced_loadContent
    (owner : String)
    (r : GenerateRequest)
    (speed : Float) :
    (loadContent owner r speed).Traced C (Failure.Stems C)
      (fun _ => True) := by
  apply ((traced_lessons _).restating
    (fun _ hf => Records.stems_caused _ hf)).attempt.bind
  rintro found ⟨_, hFound⟩
  apply (traced_completedBefore owner r).attempt.bind
  rintro completed ⟨_, hCompleted⟩
  apply (Traced.resume (fun _ _ => trivial) hFound).bind
  intro found _
  apply (Traced.resume (fun _ _ => trivial) hCompleted).bind
  intro completed _
  apply Traced.settings.bind
  intro settings _
  exact Traced.pure trivial

------------------------------------------------------------
-- Storing a Plan
------------------------------------------------------------

theorem traced_createReducedPlan
    {plan : StudyPlan}
    (h : Records.Identified plan) :
    (createReducedPlan plan).Traced C (Failure.Stems C)
      Records.Identified := by
  apply ((Records.traced_createCorePlan .transaction h.owner).restating
    (fun _ hf => stems_storeFailure _ hf)).bind
  rintro ⟨reduced, outcome⟩ ⟨hReduced, hError⟩
  apply ((Traced.resume (fun _ _ => trivial) hError).restating
    (fun _ hf => stems_storeFailure _ hf)).bind
  intro _ _
  have hPatch :=
    Records.traced_patchPlan (C := C) (P := Failure.Stems C)
      .transaction hReduced
  apply hPatch.attempt.bind
  rintro o ⟨hPatched, _⟩
  rcases o with f | ⟨patched, f | _⟩
  · apply (Traced.note _ _).bind
    intro _ _
    exact Traced.pure hReduced
  · apply (Traced.note _ _).bind
    intro _ _
    exact Traced.pure (hPatched _ rfl).1
  · exact Traced.pure (hPatched _ rfl).1

theorem traced_createPlan
    {plan : StudyPlan}
    (h : plan.ownerId ≠ "") :
    (createPlan plan).Traced C (Failure.Stems C)
      Records.Identified := by
  apply ((Records.traced_createPlan .transaction h).restating
    (fun _ hf => stems_storeFailure _ hf)).bind
  rintro ⟨stored, outcome⟩ ⟨hStored, hError⟩
  cases outcome with
  | ok _ => exact Traced.pure hStored
  | error f =>
      have hRetry :
          (do
            note .warn
              "study plan insert rejected, retrying with core columns"
            createReducedPlan stored : Act StudyPlan).Traced C
            (Failure.Stems C) Records.Identified := by
        apply (Traced.note _ _).bind
        intro _ _
        exact traced_createReducedPlan hStored
      simp only
      split
      · exact hRetry
      · exact Traced.throw_bind
          (stems_storeFailure _ (hError f rfl)) _

theorem traced_writePlan
    {plan : StudyPlan}
    (items : List ScheduleItem)
    (weekdays : List Int)
    (h : plan.ownerId ≠ "") :
    (writePlan plan items weekdays).Traced C (Failure.Stems C)
      (fun _ => True) := by
  apply (((Records.traced_deletePlansOfOwner plan.ownerId).restating
    (fun _ hf => stems_storeFailure _ hf)).discard).bind
  intro _ _
  apply (traced_createPlan h).bind
  intro stored hStored
  have hMoved :
      ∀ i ∈ items.map (fun i => { i with planId := stored.id }),
        i.planId ≠ "" := by
    intro i hi
    rcases List.mem_map.mp hi with ⟨j, _, rfl⟩
    exact hStored.id
  apply ((Records.traced_insertItems hMoved).restating
    (fun _ hf => stems_storeFailure _ hf)).bind
  intro done _
  have hSave :
      (Records.saveWeekdays
        (some ⟨stored.id, some weekdays, .unset⟩)).Traced C
        (Failure.Stems C) (fun _ => True) :=
    (Records.traced_saveWeekdays _).mono
      (fun _ hf => hf.resolve_right (fun h => hStored.id h.1))
      (fun _ h => h)
  apply (hSave.restating (fun _ hf => stems_storeFailure _ hf)).bind
  intro _ _
  exact Traced.pure trivial

/- A plan is replaced, or a statement of the transaction has failed. -/
theorem traced_transact
    {plan : StudyPlan}
    (items : List ScheduleItem)
    (weekdays : List Int)
    (h : plan.ownerId ≠ "") :
    (transact plan items weekdays).Traced C (Failure.Stems C)
      (fun _ => True) := by
  apply (Records.traced_start.restating
    (fun _ hf => Records.stems_caused _ (Failure.Stems.of_mem hf))).bind
  intro _ _
  apply Records.traced_inTransaction
  apply (traced_writePlan items weekdays h).bind
  intro stored _
  apply (Records.traced_commit.restating
    (fun _ hf => Records.stems_caused _ (Failure.Stems.of_mem hf))).bind
  intro _ _
  exact Traced.pure trivial

theorem traced_persist
    {plan : StudyPlan}
    (items : List ScheduleItem)
    (weekdays : List Int)
    (h : plan.ownerId ≠ "") :
    (persist plan items weekdays).Traced C (Explained C)
      (fun _ => True) := by
  unfold persist
  apply Traced.settings.bind
  intro settings _
  simp only
  split
  · apply (traced_transact items weekdays h).attempt.timed.bind
    rintro ⟨outcome, nanos⟩ ⟨_, hError⟩
    have hEnd :
        (do
          measure (·.observeQuery "persist_study_plan" nanos)
          resume outcome :
            Act (StudyPlan × List ScheduleItem)).Traced C
          (Explained C) (fun _ => True) := by
      apply (Traced.measure _).bind
      intro _ _
      exact Traced.resume (fun _ _ => trivial)
        (fun f hf => Or.inl (hError f hf))
    simp only
    split
    · exact (Traced.note _ _).bind (fun _ _ => hEnd)
    · exact hEnd
  · exact Traced.throw_bind 
      (Or.inr ⟨rfl, Or.inr (List.mem_cons_self ..)⟩) _

------------------------------------------------------------
-- Generating
------------------------------------------------------------

/- Writing dates never fails, and is stopped by the end of the request only. -/
theorem traced_writeDates
    (dated : List DatedSlot)
    {run : DateRun}
    (h : ∀ f, run.stopped = some f → C f) :
    (writeDates dated run).Traced C P
      (fun last => ∀ f, last.stopped = some f → C f) := by
  induction dated generalizing run with
  | nil => exact Traced.pure h
  | cons d rest ih =>
      unfold writeDates
      apply Traced.get_bind
      intro w hBounded
      split
      · rename_i f hEnded
        refine Traced.pure ?_
        intro g hg
        cases hg
        exact hBounded f (World.threatens_of_failure? hEnded)
      · split
        · exact ih h
        · apply (Records.traced_setItemDate _ _).attempt.bind
          intro o _
          cases o with
          | ok _ => exact ih h
          | error f =>
              apply (Traced.note _ _).bind
              intro _ _
              exact ih h

/- Valid weekdays give a date to every item. -/
theorem traced_applyDates
    (plan : StudyPlan)
    (items : List ScheduleItem)
    {weekdays : List Int}
    (h : ValidDays weekdays) :
    (applyDates plan items weekdays).Traced C P
      (fun run => ∀ f, run.stopped = some f → C f) := by
  unfold applyDates
  rw [assignDates_eq h.normalize]
  apply (traced_writeDates _ nofun).bind
  intro run hRun
  apply (Traced.measure _).bind
  intro _ _
  exact Traced.pure hRun

theorem traced_buildItems
    (planId : String)
    (assignments : List (Assignment Float)) :
    (buildItems planId assignments).Traced C P (fun _ => True) := by
  induction assignments with
  | nil => exact Traced.pure trivial
  | cons a rest ih =>
      apply Traced.newId.bind
      intro id _
      apply ih.bind
      intro items _
      exact Traced.pure trivial

theorem traced_enqueueDateJob
    (plan : StudyPlan) :
    (enqueueDateJob plan).Traced C P (fun _ => True) := by
  have hOffer :
      (offer (dateOffer plan)).Traced C P (fun _ => True) :=
    Traced.of_modify (fun _ => rfl) (fun _ => rfl)
  unfold enqueueDateJob
  apply Traced.get_bind
  intro w _
  split
  · exact Traced.pure trivial
  · exact hOffer.bind
      (fun _ _ => Traced.of_modify (fun _ => rfl) (fun _ => rfl))
  · exact hOffer.bind (fun _ _ => Traced.note _ _)
  · exact hOffer.bind (fun _ _ => Traced.note _ _)

theorem traced_storePlan
    {owner : String}
    (r : GenerateRequest)
    (input : GenerationInput)
    (d : Distribution Float)
    (h : owner ≠ "") :
    (storePlan owner r input d).Traced C (Explained C)
      (fun _ => True) := by
  unfold storePlan
  apply (Traced.checkContext.mono
    (fun _ hf => Or.inl (Failure.Stems.of_mem hf)) (fun _ h => h)).bind
  intro _ _
  apply Traced.newId.bind
  intro planId _
  apply (traced_buildItems planId d.assignments).bind
  intro items _
  have hOwner : (buildPlan planId owner r input).ownerId ≠ "" := h
  apply (traced_persist items (defaultWeekdays r.daysPerWeek)
    hOwner).bind
  rintro ⟨plan, items⟩ _
  apply (traced_applyDates plan items
    (defaultWeekdays_valid r.daysPerWeek)).bind
  intro run _
  have hEnd :
      ∀ view : PlanView,
        (do
          note .info "study plan generated"
          return view : Act PlanView).Traced C (Explained C)
          (fun _ => True) := by
    intro view
    apply (Traced.note _ _).bind
    intro _ _
    exact Traced.pure trivial
  simp only
  split
  · exact hEnd _
  · apply (Traced.note _ _).bind
    intro _ _
    apply (traced_enqueueDateJob plan).bind
    intro _ _
    exact hEnd _

theorem traced_composePlan
    {owner : String}
    (r : GenerateRequest)
    (input : GenerationInput)
    (content : List (CostedLesson Float))
    (h : owner ≠ "") :
    (composePlan owner r input content).Traced C (Explained C)
      (fun _ => True) := by
  unfold composePlan
  simp only
  split
  · exact Traced.throw_bind
      (Or.inr (.of_problem .validation (by decide) rfl rfl)) _
  · split
    · apply (Traced.note _ _).bind
      intro _ _
      exact Traced.throw
        (Or.inr (.of_problem .insufficientTime (by decide) rfl rfl))
    · have hArrange :
          (resume (arrange r input (weekTable r input)
            content)).Traced C (Explained C) (fun _ => True) :=
        Traced.resume (fun _ _ => trivial)
          (fun f hf => Or.inr (refuses_arrange _ _ _ _ f hf))
      apply hArrange.bind
      intro d _
      have hStore := traced_storePlan (C := C) r input d h
      split
      · exact (Traced.note _ _).bind (fun _ _ => hStore)
      · exact hStore

/- What generating fails with is a refusal, or a failure that was met. -/
theorem traced_generatePlan
    (requester : String)
    (r : GenerateRequest) :
    (generatePlan requester r).Traced C (Explained C)
      (fun _ => True) := by
  have hParse :
      (resume (parseRequest r)).Traced C (Explained C)
        (fun _ => True) :=
    Traced.resume (fun _ _ => trivial)
      (fun f hf => Or.inr (refuses_parseRequest r f hf))
  apply hParse.bind
  intro input _
  have hOwner :
      (resume (resolveOwner requester r.ownerId)).Traced C
        (Explained C) (fun owner => owner ≠ "") := by
    apply Traced.resume
    · intro owner hResolved
      rcases resolveOwner_ok hResolved with ⟨rfl, _, hGiven⟩
      exact hGiven
    · intro f hf
      exact Or.inr (refuses_resolveOwner _ _ f hf)
  apply hOwner.bind
  intro owner hGiven
  apply (Traced.note _ _).bind
  intro _ _
  apply ((traced_loadContent owner r input.speed).mono
    (fun _ hf => Or.inl hf) (fun _ h => h)).bind
  intro content _
  exact traced_composePlan r input content hGiven

end Timetable.Service
