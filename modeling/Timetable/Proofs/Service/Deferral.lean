import Timetable.Proofs.Order.Halves
import Timetable.Proofs.Service.Generation
import Timetable.Proofs.Service.Recalculation

/-
  This file tells what becomes of dates that could not be
  written when a plan was generated.

  The answer says whether all items of the new plan carry
  their days.  Unless they do, a job is offered to the queue
  that dates them later, and the job is not acknowledged until
  they do, or until the plan has gone or changed hands.

  Key definitions include:
    * `JobSettled`

  Main theorems include:
    * `Redates.leaves_undated`
    * `Storing.datesAssigned_iff`
    * `runs_handleDateJob_settled`
    * `generate_defers_dates`
-/

namespace Timetable.Service

open Plan Store Act

------------------------------------------------------------
-- Items that are Left without Dates
------------------------------------------------------------

/- A run that ends early or fails to write a date leaves an item without one. -/
theorem Redates.leaves_undated
    {calm : Prop}
    {dated : List DatedSlot}
    {run last : DateRun}
    {t t' : Tables}
    (h : Redates calm dated run t last t')
    (hNodup : (dated.map (·.slot.id)).Nodup)
    (hRows :
      ∀ d ∈ dated, ∃ i ∈ t.items,
        i.id = d.slot.id ∧ i.scheduledDate = none)
    (hIncomplete :
      ¬ (last.stopped = run.stopped ∧ last.failed = run.failed)) :
    ∃ d ∈ dated, ∃ i ∈ t'.items,
      i.id = d.slot.id ∧ i.scheduledDate = none := by
  induction h with
  | done run t => exact absurd ⟨rfl, rfl⟩ hIncomplete
  | stop d rest run t f _ _ => exact ⟨d, by simp, hRows d (by simp)⟩
  | @skip d rest run last t t' hDay hRest ih =>
      rcases ih (List.nodup_cons.mp hNodup).2
          (fun e he => hRows e (by simp [he])) hIncomplete with
        ⟨e, he, hLeft⟩
      exact ⟨e, by simp [he], hLeft⟩
  | @write d rest run last t t' hDay hRest ih =>
      rcases List.nodup_cons.mp hNodup with ⟨hFirst, hOthers⟩
      have hRows₁ :
          ∀ e ∈ rest,
            ∃ i ∈ (t.setDate d.slot.id (.ofDate d.date)).items,
              i.id = e.slot.id ∧ i.scheduledDate = none := by
        intro e he
        rcases hRows e (by simp [he]) with ⟨i, hi, hId, hNone⟩
        have hApart : i.id ≠ d.slot.id := by
          intro hSame
          exact hFirst (List.mem_map.mpr ⟨e, he, hId.symm.trans hSame⟩)
        refine ⟨i, List.mem_map.mpr ⟨i, hi, ?_⟩, hId, hNone⟩
        simp [hApart]
      rcases ih hOthers hRows₁ hIncomplete with ⟨e, he, hLeft⟩
      exact ⟨e, by simp [he], hLeft⟩
  | @fail d rest run last t t' hDay hMissing hRest _ =>
      have hFirst := (List.nodup_cons.mp hNodup).1
      rcases hRows d (by simp) with ⟨i, hi, hId, hNone⟩
      rcases hRest.writes with ⟨writes, hSlots, _, rfl⟩
      refine ⟨d, by simp, i, mem_redateAll hi ?_, hId, hNone⟩
      intro write hWrite hSame
      have hLater := hSlots write hWrite
      rw [← hSame, hId] at hLater
      exact hFirst hLater

------------------------------------------------------------
-- The Days of a New Plan
------------------------------------------------------------

/- The items of a new plan. -/
theorem filter_replaced
    {row : StudyPlan}
    {items : List ScheduleItem}
    (choice : WeekdayChoice)
    {t : Tables}
    (hNew : ¬ t.Mentions row.id)
    (hItems : ∀ i ∈ items, i.planId = row.id) :
    (t.replaced row items choice).items.filter
      (fun i => i.planId == row.id) = items := by
  rw [Tables.replaced_items, List.filter_append,
    List.filter_eq_nil_iff.mpr (by simpa using Tables.items_apart hNew),
    List.filter_eq_self.mpr (by simpa using hItems), List.nil_append]

/- The weekdays of a new plan are those that it was stored with. -/
theorem weekdaysOf_replaced
    {row : StudyPlan}
    {items : List ScheduleItem}
    {choice : WeekdayChoice}
    {t : Tables}
    (hNew : ¬ t.Mentions row.id)
    (hChoice : choice.planId = row.id)
    (hDays : ValidDays choice.days) :
    weekdaysOf row (t.replaced row items choice) = choice.days := by
  have hChoices :
      (t.replaced row items choice).choicesOfPlan row.id = [choice] := by
    unfold Tables.choicesOfPlan
    rw [Tables.replaced_weekdays hNew hChoice, List.filter_append,
      List.filter_eq_nil_iff.mpr
        (by simpa using Tables.weekdays_apart hNew)]
    simp [hChoice]
  unfold weekdaysOf
  rw [hChoices]
  simp only [hDays.normalize]

/- A new plan is found under its id. -/
theorem plansWithId_replaced
    {row : StudyPlan}
    (items : List ScheduleItem)
    (choice : WeekdayChoice)
    {t : Tables}
    (hNew : ¬ t.Mentions row.id) :
    (t.replaced row items choice).plansWithId row.id = [row] := by
  have hOld :
      ∀ p ∈ (t.rowsBesides row.ownerId).plans, p.id ≠ row.id := by
    intro p hp hSame
    exact hNew (Or.inl ⟨p, (List.mem_filter.mp hp).1, hSame⟩)
  unfold Tables.plansWithId
  rw [Tables.replaced_plans, List.filter_append,
    List.filter_eq_nil_iff.mpr (by simpa using hOld)]
  simp

section NewPlan

variable {owner : String}
variable {req : GenerateRequest}
variable {input : GenerationInput}
variable {d : Distribution Float}
variable {m : Particulars}
variable {w w' : World}
variable {view : PlanView}

theorem Storing.row_id
    (h : Storing owner req input d m w view w') :
    m.row.id = m.planId :=
  (StudyPlan.core_id h.kept.core).trans h.planId

theorem Storing.row_new
    (h : Storing owner req input d m w view w')
    (hFresh : w.Fresh) :
    ¬ w.tables.Mentions m.row.id := by
  rw [h.row_id]
  exact hFresh _ (Nat.lt_succ_of_le h.unissued)

theorem Storing.row_startDate
    (h : Storing owner req input d m w view w') :
    m.row.startDate.date = input.start := by
  have hCore := congrArg StudyPlan.startDate h.kept.core
  have hStart : m.row.startDate = view.plan.startDate := hCore
  rw [hStart]
  rcases h.kept.restates with ⟨_, _, hPlan⟩
  rw [hPlan]
  rfl

theorem Storing.items_planId
    (h : Storing owner req input d m w view w') :
    ∀ i ∈ m.items d, i.planId = m.row.id := by
  intro i hi
  rw [h.row_id]
  exact (mem_numberedItems hi).1

theorem Storing.weekdays_valid
    (h : Storing owner req input d m w view w') :
    ValidDays view.weekdays := by
  rw [h.answer]
  exact defaultWeekdays_valid _

/- The row of the new plan is found in the tables. -/
theorem Storing.owned
    (h : Storing owner req input d m w view w')
    (hFresh : w.Fresh) :
    Owned view.plan.id owner m.row w'.tables := by
  rcases h.dates with ⟨dated, _, hRedates⟩
  rcases hRedates.writes with ⟨writes, _, _, hTables⟩
  refine ⟨?_, h.kept.ownerId⟩
  rw [hTables, h.planId, ← h.row_id]
  have hFound :=
    plansWithId_replaced (m.items d)
      ⟨m.planId, some view.weekdays, m.moment⟩ (h.row_new hFresh)
  exact congrArg List.head? hFound

/- The items of the new plan were dated by the days that are assigned to them. -/
theorem Storing.daysOf_row
    (h : Storing owner req input d m w view w')
    (hFresh : w.Fresh)
    {dated : List DatedSlot}
    (hDated :
      assignDates ((m.items d).map slotOf) input.start
        view.weekdays = .ok dated) :
    daysOf m.row w'.tables = .ok dated := by
  let choice : WeekdayChoice :=
    ⟨m.planId, some view.weekdays, m.moment⟩
  have hNew := h.row_new hFresh
  rcases h.dates with ⟨_, _, hRedates⟩
  rcases hRedates.writes with ⟨writes, _, _, hTables⟩
  have hUndated :
      daysOf m.row w'.tables =
        daysOf m.row (w.tables.replaced m.row (m.items d) choice) :=
    daysOf_redated hRedates.fields (by rw [hTables]; rfl)
  have hWeekdays :
      weekdaysOf m.row (w.tables.replaced m.row (m.items d) choice) =
        view.weekdays :=
    weekdaysOf_replaced hNew h.row_id.symm h.weekdays_valid
  rw [hUndated]
  unfold daysOf
  rw [itemsOfPlan_slots, filter_replaced _ hNew h.items_planId,
    assignDates_mergeSort, hWeekdays, h.row_startDate]
  exact hDated

/- The rows of the new plan before they were dated are the items in hand. -/
theorem Storing.mem_items_iff
    (h : Storing owner req input d m w view w')
    (hFresh : w.Fresh)
    (choice : WeekdayChoice)
    (i : ScheduleItem) :
    i ∈ m.items d ↔
      i ∈ (w.tables.replaced m.row (m.items d) choice).items ∧
        i.planId = m.row.id := by
  have hFilter :=
    filter_replaced choice (h.row_new hFresh) h.items_planId
  constructor
  · intro hi
    rw [← hFilter, List.mem_filter, beq_iff_eq] at hi
    exact hi
  · rintro ⟨hi, hPlan⟩
    rw [← hFilter, List.mem_filter, beq_iff_eq]
    exact ⟨hi, hPlan⟩

/- No other item has the id of an item of the new plan. -/
theorem Storing.items_own
    (h : Storing owner req input d m w view w')
    (hFresh : w.Fresh)
    (choice : WeekdayChoice)
    {i j : ScheduleItem}
    (hi : i ∈ (w.tables.replaced m.row (m.items d) choice).items)
    (hj : j ∈ m.items d)
    (hId : i.id = j.id) :
    i.planId = m.row.id := by
  rw [Tables.replaced_items] at hi
  rcases List.mem_append.mp hi with hOld | hNew
  · have hMem : i ∈ w.tables.items := (List.mem_filter.mp hOld).1
    have hMentioned : w.tables.Mentions j.id :=
      Or.inr (Or.inl ⟨i, hMem, Or.inl hId⟩)
    exact absurd hMentioned
      (numberedItems_new hFresh (Nat.le_succ_of_le h.unissued) hj)
  · exact h.items_planId i hNew

theorem Storing.datesAssigned_eq
    (h : Storing owner req input d m w view w') :
    view.datesAssigned =
      (m.run.stopped.isNone && m.run.failed == 0) := by
  rw [h.answer]

/- Unless all dates are assigned, an item of the new plan has none. -/
theorem Storing.exists_undated
    (h : Storing owner req input d m w view w')
    (hFresh : w.Fresh)
    (hMissing : view.datesAssigned = false) :
    ∃ i ∈ w'.tables.items,
      i.planId = m.row.id ∧ i.scheduledDate = none := by
  rcases h.dates with ⟨dated, hDated, hRedates⟩
  have hIds := assignDates_ids hDated
  have hNodup : (dated.map (·.slot.id)).Nodup :=
    hIds.nodup_iff.mpr (numberedItems_nodup _ _ _)
  have hRows :
      ∀ e ∈ dated,
        ∃ i ∈ (w.tables.replaced m.row (m.items d)
            ⟨m.planId, some view.weekdays, m.moment⟩).items,
          i.id = e.slot.id ∧ i.scheduledDate = none := by
    intro e he
    rcases List.mem_map.mp (hIds.subset (List.mem_map_of_mem he)) with
      ⟨i, hi, hId⟩
    refine ⟨i, ((h.mem_items_iff hFresh _ i).mp hi).1, hId, ?_⟩
    exact numberedItems_dateless hi
  have hIncomplete :
      ¬ (m.run.stopped = none ∧ m.run.failed = 0) := by
    rintro ⟨hStopped, hFailed⟩
    rw [h.datesAssigned_eq, hStopped, hFailed] at hMissing
    cases hMissing
  rcases hRedates.leaves_undated hNodup hRows hIncomplete with
    ⟨e, he, i, hi, hId, hNone⟩
  rcases List.mem_map.mp (hIds.subset (List.mem_map_of_mem he)) with
    ⟨j, hj, hSlot⟩
  rcases exists_row_of_undated hRedates.fields hi with
    ⟨k, hk, hSameId, hSamePlan⟩
  refine ⟨i, hi, ?_, hNone⟩
  rw [← hSamePlan]
  exact h.items_own hFresh _ hk hj
    (hSameId.trans (hId.trans hSlot.symm))

/- The answer tells whether the items of the new plan carry their days. -/
theorem Storing.datesAssigned_iff
    (h : Storing owner req input d m w view w')
    (hFresh : w.Fresh) :
    view.datesAssigned = true ↔ Dated m.row w'.tables := by
  rcases h.dates with ⟨dated, hDated, hRedates⟩
  have hDays := h.daysOf_row hFresh hDated
  constructor
  · intro hAssigned
    rw [h.datesAssigned_eq, Bool.and_eq_true,
      Option.isNone_iff_eq_none, beq_iff_eq] at hAssigned
    exact ⟨dated, hDays,
      hRedates.onDays (h.mem_items_iff hFresh _) hDated hAssigned.1
        hAssigned.2⟩
  · rintro ⟨_, _, hOnDays⟩
    by_contra hMissing
    rcases h.exists_undated hFresh (by simpa using hMissing) with
      ⟨i, hi, hPlan, hNone⟩
    have hScheduled := scheduled_of_onDay (hOnDays i hi hPlan)
    rw [hNone] at hScheduled
    cases hScheduled

end NewPlan

------------------------------------------------------------
-- Jobs
------------------------------------------------------------

/-
  A job need not be done any more: its plan has gone, or
  belongs to somebody else, or its items carry their days.
-/
def JobSettled
    (job : DateJob)
    (t : Tables) : Prop :=
  match (t.plansWithId job.planId).head? with
  | none => True
  | some plan => plan.ownerId ≠ job.ownerId ∨ Dated plan t

theorem jobSettled_of_owned
    {job : DateJob}
    {t : Tables}
    (h :
      ∀ plan, Owned job.planId job.ownerId plan t → Dated plan t) :
    JobSettled job t := by
  unfold JobSettled
  split
  · trivial
  · rename_i plan hFound
    by_cases hOwner : plan.ownerId = job.ownerId
    · exact Or.inr (h plan ⟨hFound, hOwner⟩)
    · exact Or.inl hOwner

/- A run is stopped by the end of the request. -/
theorem Redates.stopped_isBare
    {calm : Prop}
    {dated : List DatedSlot}
    {run last : DateRun}
    {t t' : Tables}
    {f : Failure}
    (h : Redates calm dated run t last t')
    (hGoing : run.stopped = none)
    (hStopped : last.stopped = some f) :
    f.IsBare := by
  induction h with
  | done run t =>
      rw [hGoing] at hStopped
      cases hStopped
  | stop d rest run t g hEnded _ =>
      cases hStopped
      rcases hEnded with rfl | rfl
      · exact ⟨rfl, fun _ => rfl⟩
      · exact ⟨rfl, fun _ => rfl⟩
  | skip _ _ ih => exact ih hGoing hStopped
  | write _ _ ih => exact ih hGoing hStopped
  | fail _ _ _ ih => exact ih hGoing hStopped

/- That a recalculation was stopped is not passed over. -/
theorem not_isPassedOver_of_answerOf
    {calm : Prop}
    {dated : List DatedSlot}
    {run last : DateRun}
    {t t' : Tables}
    {f : Failure}
    (h : Redates calm dated run t last t')
    (hGoing : run.stopped = none)
    (hAnswer : answerOf last = .error f) :
    isPassedOver f = false := by
  unfold answerOf at hAnswer
  split at hAnswer
  · rename_i g hStopped
    cases hAnswer
    exact isPassedOver_deadlineFailure
      (isPassedOver_internal _ (h.stopped_isBare hGoing hStopped))
  · cases hAnswer

/- A job is acknowledged only when it need not be done any more. -/
theorem runs_handleDateJob_settled
    {job : DateJob}
    {w w' : World}
    (hCandid : w.Candid)
    (hRun : (handleDateJob job).Runs w (.ok ()) w') :
    JobSettled job w'.tables := by
  apply jobSettled_of_owned
  intro plan hOwned
  rcases (runs_attempt_bind_iff _ _ _ _ _).mp hRun with
    ⟨o, w₁, hDates, hDeciding⟩
  cases o with
  | error f =>
      have hPassed : isPassedOver f = true ∧ w' = w₁ := by
        simp only at hDeciding
        split at hDeciding
        · rename_i hPassed
          exact ⟨hPassed, ((runs_pure_iff _ _ _ _).mp hDeciding).2⟩
        · cases ((runs_throw_iff _ _ _ _).mp hDeciding).1
      rcases hPassed with ⟨hPassed, rfl⟩
      rcases runs_recalculateDates_candid hCandid hDates with
        ⟨_, h, hSame, hWhy⟩ | ⟨_, _, last, _, _, hRedates, hAnswer⟩
      · cases h
        rw [if_pos hPassed] at hWhy
        rw [hSame] at hOwned
        exact absurd hOwned (hWhy plan)
      · rw [not_isPassedOver_of_answerOf hRedates rfl hAnswer.symm]
          at hPassed
        cases hPassed
  | ok view =>
      simp only at hDeciding
      split at hDeciding
      · rename_i hSuccess
        have hKept := (Aside.note _ _).keeps _ _ _ hDeciding
        have hThere : w'.tables = w₁.tables := hKept.tables
        rw [hThere] at hOwned ⊢
        have hView : view = ⟨true, view.itemsUpdated⟩ := by
          rw [← hSuccess]
        rw [hView] at hDates
        rcases runs_recalculateDates_success hCandid hDates with
          ⟨found, hFound, hDated⟩
        rw [hOwned.unique hFound]
        exact hDated
      · rw [runs_bind_ok_iff] at hDeciding
        rcases hDeciding with ⟨_, _, hThrow, _⟩
        cases ((runs_throw_iff _ _ _ _).mp hThrow).1

------------------------------------------------------------
-- Generating and Dating Later
------------------------------------------------------------

/-
  A generated plan is answered with the mark that its dates
  are assigned just if its items carry their days.  If they do
  not, and there is a queue, it is offered one job, for this
  plan; otherwise it is offered none.  And no job is
  acknowledged, whatever the store has become by then, as long
  as its plan is there for its owner without its days.
-/
theorem generate_defers_dates
    {requester : String}
    {req : GenerateRequest}
    {w : World}
    {view : PlanView}
    (hFresh : w.Fresh)
    (hOvert : w.Overt)
    (hOk : (generate requester req).outcome w = .ok view) :
    let w' := (generate requester req).after w
    (∃ row, Owned view.plan.id requester row w'.tables ∧
      (view.datesAssigned = true ↔ Dated row w'.tables)) ∧
    (view.datesAssigned = false → w.queue ≠ .absent →
      w'.offers =
        w.offers ++
          [{ id := view.plan.id
             kind := "recalculate_dates"
             payload :=
              { planId := view.plan.id, ownerId := requester } }]) ∧
    (view.datesAssigned = true ∨ w.queue = .absent →
      w'.offers = w.offers) ∧
    ∀ (job : DateJob) (v : World), v.Candid →
      (handleDateJob job).outcome v = .ok () →
        JobSettled job ((handleDateJob job).after v).tables := by
  have hRun := runs_outcome_after (generate requester req) w
  rw [hOk] at hRun
  rcases runs_generate_generated hFresh hOvert hRun with
    ⟨_, h, _⟩ | ⟨_, h, hGenerated⟩
  · cases h
  cases h
  rcases hGenerated with
    ⟨input, content, d, m, _, _, _, _, _, _, _, hStoring⟩
  have hOffers := hStoring.offers
  have hOwner : view.plan.ownerId = requester :=
    hStoring.kept.restates.ownerId
  refine ⟨⟨m.row, hStoring.owned hFresh,
    hStoring.datesAssigned_iff hFresh⟩, ?_, ?_, ?_⟩
  · intro hMissing hQueue
    rw [hOffers, hMissing]
    simp [QueueMode.offered, hQueue, dateOffer, hOwner, DateJob.kind]
  · rintro (hAssigned | hQueue)
    · simp [hOffers, hAssigned]
    · simp [hOffers, QueueMode.offered, hQueue]
  · intro job v hCandid hAcknowledged
    have hJob := runs_outcome_after (handleDateJob job) v
    rw [hAcknowledged] at hJob
    exact runs_handleDateJob_settled hCandid hJob

/- A store with a queue, in which the date of the first item is not written at once. -/
def hesitantStore : World :=
  { sampleWorld [⟨dateLabel, 0, 1, .fails (.plain "lost")⟩] with
    queue := .accepting }

/- Two of three items are dated there, and a job is taken for the third. -/
theorem hesitantStore_generated :
    let call := generate "ann" sampleRequest
    (call.outcome hesitantStore).toOption.map
        (fun view =>
          (view.datesAssigned,
            view.items.map (·.scheduledDate.isSome))) =
      some (false, [false, true, true]) ∧
    (call.after hesitantStore).jobs = [⟨idOfNumber 4, "ann"⟩] ∧
    (call.after hesitantStore).database.rules.all
        (fun r => r.label == dateLabel) = true ∧
    ((handleDateJob ⟨idOfNumber 4, "ann"⟩).outcome
      (call.after hesitantStore)).isOk = true := by
  simp only [generate, generatePlan, loadContent, sortLessons,
    composePlan, storePlan, applyDates, assignDates, handleDateJob,
    recalculateDates, itemsOf, Records.listItems, Records.fetch,
    Lookup.run, Lookup.rows, Tables.itemsOfPlan, inOrder,
    mergeSort_eq_sortHalves]
  decide +kernel

/- The job that this store is offered is done when it comes up again. -/
theorem generate_defers_dates_sample :
    let w := (generate "ann" sampleRequest).after hesitantStore
    ∃ view, (generate "ann" sampleRequest).outcome hesitantStore =
        .ok view ∧
      view.datesAssigned = false ∧
      view.items.map (·.scheduledDate.isSome) = [false, true, true] ∧
      w.offers =
        [{ id := view.plan.id, payload := ⟨view.plan.id, "ann"⟩ }] ∧
      ∀ job ∈ w.jobs, (handleDateJob job).outcome w = .ok () ∧
        JobSettled job ((handleDateJob job).after w).tables := by
  intro w
  have hOvert : hesitantStore.Overt := by decide
  have hFresh : hesitantStore.Fresh := sampleWorld_fresh _
  rcases hesitantStore_generated with ⟨hDates, hTaken, hLabels, hDone⟩
  rcases hOutcome : (generate "ann" sampleRequest).outcome hesitantStore with
    f | view
  · rw [hOutcome] at hDates
    cases hDates
  rw [hOutcome] at hDates
  rcases Prod.mk.inj (Option.some.inj hDates) with ⟨hMissing, hDated⟩
  rcases generate_defers_dates hFresh hOvert hOutcome with
    ⟨_, hOffers, _, hJobs⟩
  have hOffered := hOffers hMissing (by decide)
  -- from here on the world is but a name, so that nothing is run again
  have hThere : (generate "ann" sampleRequest).after hesitantStore = w := rfl
  rw [hThere] at hOffered hTaken hLabels hDone
  clear_value w
  refine ⟨view, rfl, hMissing, hDated, hOffered, ?_⟩
  have hCandid : w.Candid := by
    intro rule hRule
    exact Or.inl (by simpa using List.all_eq_true.mp hLabels rule hRule)
  intro job hJob
  rw [hTaken] at hJob
  rw [List.mem_singleton.mp hJob]
  rcases hHandled : (handleDateJob ⟨idOfNumber 4, "ann"⟩).outcome w with
    f | _
  · rw [hHandled] at hDone
    cases hDone
  · exact ⟨rfl, hJobs _ w hCandid hHandled⟩

end Timetable.Service
