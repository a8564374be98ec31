import Timetable.Proofs.Plan.Weekdays
import Timetable.Proofs.Service.Dating
import Timetable.Proofs.Store.Lookups
import Timetable.Service.Plans

/-
  This file shows that the weekdays which items are dated by
  always select days, whatever was stored or asked for.

  They come from the usual weekdays, from a request that was
  put into order, or from a stored choice that was put into
  order or replaced by the usual weekdays.  So the operations
  never meet weekdays that give no dates: they do the same
  with any other way of dating that agrees with theirs where
  there are dates.

  Key definitions include:
    * `weekdaysAfter`
    * `GivesDates`
    * `Dating`
    * `Dating.AgreesOnDates`
    * `generateWith`
    * `setWeekdaysWith`
    * `recalculateDatesWith`

  Main theorems include:
    * `outcome_effectiveWeekdays`
    * `runs_applyDates_of_dates`
    * `selections_are_valid`
-/

namespace Timetable

------------------------------------------------------------
-- Equal Actions
------------------------------------------------------------

namespace Act

variable {α β : Type}

/- What an action goes on with matters for its possible answers only. -/
theorem bind_congr_of_answers
    {x : Act α}
    {Q : α → Prop}
    (hAnswers : ∀ w a w', x.Runs w (.ok a) w' → Q a)
    {k l : α → Act β}
    (hSame : ∀ a, Q a → k a = l a) :
    x >>= k = x >>= l := by
  apply ext_exec
  intro w
  rw [exec_bind, exec_bind]
  rcases hExec : x.exec w with ⟨o, w₁⟩
  cases o with
  | error f => rfl
  | ok a =>
      have hAnswer := hAnswers w a w₁ hExec
      simp only [hSame a hAnswer]

end Act

namespace Service

open Plan Store Act

------------------------------------------------------------
-- Stored Weekdays
------------------------------------------------------------

/- What is found is the stored choice, if there is one. -/
theorem outcome_findWeekdays
    {plan : StudyPlan}
    {w : World}
    (h : w.CarriesOut (.weekdaysOfPlan plan.id)) :
    (Records.findWeekdays plan.id).outcome w =
      match w.tables.choicesOfPlan plan.id with
      | choice :: _ => .ok choice
      | [] => .error (.sentinel .noRows) := by
  have hFirst := Records.outcome_fetchOne h
  change (Records.findWeekdays plan.id).outcome w = _ at hFirst
  have hRows :
      (Lookup.weekdaysOfPlan plan.id).rows
        ((Lookup.weekdaysOfPlan plan.id).after w.tables) =
        w.tables.choicesOfPlan plan.id :=
    rfl
  rw [hFirst, hRows]
  cases w.tables.choicesOfPlan plan.id with
  | nil => rfl
  | cons choice rest => rfl

/- The weekdays of a plan, given what became of the lookup. -/
def weekdaysAfter
    (plan : StudyPlan) :
    Except Failure WeekdayChoice → Except Failure (List Int × Bool)
| .error f =>
    if f.hasSentinel .noRows then
      .ok (defaultWeekdays plan.daysPerWeek, true)
    else
      .error (.wrap .internal "failed to load weekday distribution" f)
| .ok choice =>
    match normalizeWeekdays choice.days with
    | .ok days => .ok (days, false)
    | .error _ => .ok (defaultWeekdays plan.daysPerWeek, true)

theorem outcome_effectiveWeekdays
    (plan : StudyPlan)
    (w : World) :
    (effectiveWeekdays plan).outcome w =
      weekdaysAfter plan
        ((Records.findWeekdays plan.id).outcome w) := by
  have hRun := runs_outcome_after (effectiveWeekdays plan) w
  rcases (runs_attempt_bind_iff _ _ _ _ _).mp hRun with
    ⟨o, w₁, hFind, hRest⟩
  rw [hFind.outcome_eq]
  cases o with
  | error f =>
      simp only at hRest
      simp only [weekdaysAfter]
      split at hRest
      · rename_i hRows
        rw [((runs_pure_iff _ _ _ _).mp hRest).1, if_pos hRows]
      · rename_i hRows
        rw [((runs_throw_iff _ _ _ _).mp hRest).1, if_neg hRows]
  | ok choice =>
      simp only at hRest
      simp only [weekdaysAfter]
      cases hDays : normalizeWeekdays choice.days with
      | ok days =>
          rw [hDays] at hRest
          exact ((runs_pure_iff _ _ _ _).mp hRest).1
      | error e =>
          rw [hDays] at hRest
          rcases runs_note_bind hRest with ⟨w₂, _, hAnswer⟩
          exact ((runs_pure_iff _ _ _ _).mp hAnswer).1

/- Weekdays that are answered are valid. -/
theorem weekdaysAfter_valid
    {plan : StudyPlan}
    {found : Except Failure WeekdayChoice}
    {days : List Int}
    {isDefault : Bool}
    (h : weekdaysAfter plan found = .ok (days, isDefault)) :
    ValidDays days := by
  have hUsual := defaultWeekdays_valid plan.daysPerWeek
  unfold weekdaysAfter at h
  split at h
  · split at h
    · cases h
      exact hUsual
    · cases h
  · split at h
    · rename_i hDays
      cases h
      exact normalizeWeekdays_valid hDays
    · cases h
      exact hUsual

------------------------------------------------------------
-- Dates of Valid Weekdays
------------------------------------------------------------

/- Writing dates is stopped by the end of the request only. -/
theorem runs_writeDates_stopped
    {dated : List DatedSlot}
    {run last : DateRun}
    {w w' : World}
    (hGoing : run.stopped = none)
    (hRun : (writeDates dated run).Runs w (.ok last) w') :
    ∀ f, last.stopped = some f → w'.context.failure? = some f := by
  induction dated generalizing run w with
  | nil =>
      cases ((runs_pure_iff _ _ _ _).mp hRun).1
      intro f hStopped
      rw [hGoing] at hStopped
      cases hStopped
  | cons d rest ih =>
      unfold writeDates at hRun
      have hNext := (runs_get_bind_iff _ _ _ _).mp hRun
      split at hNext
      · rename_i g hFailure
        rcases (runs_pure_iff _ _ _ _).mp hNext with ⟨hLast, rfl⟩
        cases hLast
        intro f hStopped
        cases hStopped
        exact hFailure
      split at hNext
      · exact ih hGoing hNext
      rcases (runs_attempt_bind_iff _ _ _ _ _).mp hNext with
        ⟨o, w₂, _, hNext⟩
      cases o with
      | ok u => exact ih (by exact hGoing) hNext
      | error g =>
          rcases runs_note_bind hNext with ⟨w₃, _, hNext⟩
          exact ih (by exact hGoing) hNext

/- The weekdays give a date to each of the items. -/
def GivesDates
    (plan : StudyPlan)
    (items : List ScheduleItem)
    (weekdays : List Int) : Prop :=
  ∃ dated,
    assignDates (items.map slotOf) plan.startDate.date weekdays =
      .ok dated

/- Valid weekdays always do. -/
theorem givesDates_of_valid
    {weekdays : List Int}
    (h : ValidDays weekdays)
    (plan : StudyPlan)
    (items : List ScheduleItem) :
    GivesDates plan items weekdays :=
  ⟨_, assignDates_eq h.normalize _ _⟩

/-
  Where there are dates, dating items never fails, and it is
  stopped by the end of the request only.
-/
theorem runs_applyDates_of_dates
    {plan : StudyPlan}
    {items : List ScheduleItem}
    {weekdays : List Int}
    {w w' : World}
    {r : Except Failure DateRun}
    (h : GivesDates plan items weekdays)
    (hRun : (applyDates plan items weekdays).Runs w r w') :
    ∃ run, r = .ok run ∧
      ∀ f, run.stopped = some f → w'.context.failure? = some f := by
  rcases runs_applyDates (fun h : False => h.elim) hRun with
    ⟨run, rfl, -, -⟩
  refine ⟨run, rfl, ?_⟩
  rcases h with ⟨dated, hDated⟩
  unfold applyDates at hRun
  rw [hDated] at hRun
  rcases (runs_bind_ok_iff _ _ _ _ _).mp hRun with
    ⟨last, w₁, hWrite, hMeasuring⟩
  rcases (runs_bind_ok_iff _ _ _ _ _).mp hMeasuring with
    ⟨_, w₂, hMeasure, hRest⟩
  rcases (runs_pure_iff _ _ _ _).mp hRest with ⟨hLast, rfl⟩
  cases hLast
  rcases (runs_measure_iff _ _ _ _).mp hMeasure with ⟨_, rfl⟩
  have hEnded := runs_writeDates_stopped rfl hWrite
  exact hEnded

------------------------------------------------------------
-- Other Ways of Dating
------------------------------------------------------------

/- A way to date the items of a plan, such as `applyDates`. -/
abbrev Dating : Type :=
  StudyPlan → List ScheduleItem → List Int → Act DateRun

/-
  It does what `applyDates` does where the weekdays give
  dates, and may do anything where they do not.
-/
def Dating.AgreesOnDates (date : Dating) : Prop :=
  ∀ plan items weekdays, GivesDates plan items weekdays →
    date plan items weekdays = applyDates plan items weekdays

/- Store a plan and date its items in a given way. -/
def storePlanWith
    (date : Dating)
    (owner : String)
    (r : GenerateRequest)
    (input : GenerationInput)
    (d : Distribution Float) : Act PlanView := do
  Act.checkContext
  let planId ← Act.newId
  let plan := buildPlan planId owner r input
  let items ← buildItems planId d.assignments
  let weekdays := defaultWeekdays r.daysPerWeek
  let (plan, items) ← persist plan items weekdays
  let run ← date plan items weekdays
  let datesAssigned := run.stopped.isNone && run.failed == 0
  unless datesAssigned do
    Act.note .warn "date assignment incomplete, plan kept"
    enqueueDateJob plan
  Act.note .info "study plan generated"
  return {
    plan := plan
    items := run.items
    weekdays := weekdays
    statistics := some (summarize (weekTable r input) d.assignments d.overflow)
    datesAssigned := datesAssigned }

/- Make a plan and date its items in a given way. -/
def composePlanWith
    (date : Dating)
    (owner : String)
    (r : GenerateRequest)
    (input : GenerationInput)
    (content : List (CostedLesson Float)) : Act PlanView := do
  let weeks := weekTable r input
  if content.isEmpty then
    throw (.because .validation
      "no eligible lessons for the selected subjects and filters")
  match checkFeasibility (totalCost content) (totalCapacity weeks) r.hoursPerDay
      r.daysPerWeek (usefulWeeks weeks) with
  | .error s =>
      Act.note .info "study plan rejected for insufficient time"
      throw (shortfallFailure s)
  | .ok () =>
      let d ← Act.resume (arrange r input weeks content)
      if 0 < d.overflow then
        Act.note .warn "lessons appended to the last study week"
      storePlanWith date owner r input d

/- Replace a plan and date the items of the new one in a given way. -/
def generatePlanWith
    (date : Dating)
    (requester : String)
    (r : GenerateRequest) : Act PlanView := do
  let input ← Act.resume (parseRequest r)
  let owner ← Act.resume (resolveOwner requester r.ownerId)
  Act.note .debug "capacity computed"
  let content ← loadContent owner r input.speed
  composePlanWith date owner r input content

/- Generate a plan and date its items in a given way. -/
def generateWith
    (date : Dating)
    (requester : String)
    (r : GenerateRequest) : Act PlanView := do
  let mode := if (Mode.ofName? r.mode).isSome then r.mode else "invalid"
  let limited := Act.limited (generatePlanWith date requester r)
  let (outcome, nanos) ← Act.timed (Act.attempt (Act.restating deadlineFailure limited))
  let items := match outcome with
    | .ok view => view.items.length
    | .error _ => 0
  Act.measure (·.observeGeneration mode (outcomeName outcome) nanos items)
  Act.resume outcome

/- Choose weekdays and date items in a given way. -/
def setWeekdaysWith
    (date : Dating)
    (planId owner : String)
    (weekdays : List Int) : Act WeekdaysView :=
  Act.limited do
    match normalizeWeekdays weekdays with
    | .error e => throw (.wrap .validation e.message (.plain e.message))
    | .ok days =>
        let plan ← ownedPlan planId owner
        Act.restating
          (fun f => deadlineFailure (storeFailure "failed to save weekday distribution" f))
          (Records.saveWeekdays
            (some { planId := plan.id, weekdays := some days, updatedAt := .unset }))
        let items ← itemsOf plan.id
        let run ← date plan items days
        if run.stopped.isSome then
          Act.note .warn "date recalculation after weekday change failed"
        Act.note .info "weekday distribution updated"
        return { planId := plan.id, weekdays := days, itemsUpdated := run.updated }

/- Date the items of a plan anew in a given way. -/
def recalculateDatesWith
    (date : Dating)
    (planId owner : String) : Act RecalculationView :=
  Act.limited do
    let plan ← ownedPlan planId owner
    let (weekdays, _) ← effectiveWeekdays plan
    let items ← itemsOf plan.id
    let run ← date plan items weekdays
    match run.stopped with
    | some f =>
        throw (deadlineFailure (.wrap .internal "failed to recalculate dates" f))
    | none => return { success := run.failed == 0, itemsUpdated := run.updated }

/- The operations of the service are those with its own way of dating. -/
theorem generateWith_applyDates :
    generateWith applyDates = generate :=
  rfl

theorem setWeekdaysWith_applyDates :
    setWeekdaysWith applyDates = setWeekdays :=
  rfl

theorem recalculateDatesWith_applyDates :
    recalculateDatesWith applyDates = recalculateDates :=
  rfl

namespace Dating.AgreesOnDates

variable {date : Dating}

theorem of_valid
    (h : date.AgreesOnDates)
    {weekdays : List Int}
    (hDays : ValidDays weekdays)
    (plan : StudyPlan)
    (items : List ScheduleItem) :
    date plan items weekdays = applyDates plan items weekdays :=
  h plan items weekdays (givesDates_of_valid hDays plan items)

/- A new plan is dated by the usual weekdays. -/
theorem storePlanWith_eq
    (h : date.AgreesOnDates)
    (owner : String)
    (r : GenerateRequest)
    (input : GenerationInput)
    (d : Distribution Float) :
    storePlanWith date owner r input d =
      storePlanWith applyDates owner r input d := by
  have hUsual := defaultWeekdays_valid r.daysPerWeek
  unfold storePlanWith
  simp only [h.of_valid hUsual]

theorem generateWith_eq
    (h : date.AgreesOnDates)
    (requester : String)
    (r : GenerateRequest) :
    generateWith date requester r = generate requester r := by
  rw [← generateWith_applyDates]
  unfold generateWith generatePlanWith composePlanWith
  simp only [h.storePlanWith_eq]

/- Chosen weekdays were put into order. -/
theorem setWeekdaysWith_eq
    (h : date.AgreesOnDates)
    (planId owner : String)
    (weekdays : List Int) :
    setWeekdaysWith date planId owner weekdays =
      setWeekdays planId owner weekdays := by
  rw [← setWeekdaysWith_applyDates]
  unfold setWeekdaysWith
  cases hDays : normalizeWeekdays weekdays with
  | error e => rfl
  | ok days =>
      have hValid := normalizeWeekdays_valid hDays
      simp only [h.of_valid hValid]

/- Weekdays that were looked up are valid. -/
theorem recalculateDatesWith_eq
    (h : date.AgreesOnDates)
    (planId owner : String) :
    recalculateDatesWith date planId owner =
      recalculateDates planId owner := by
  rw [← recalculateDatesWith_applyDates]
  unfold recalculateDatesWith
  congr 2
  funext plan
  apply bind_congr_of_answers
    (Q := fun answer : List Int × Bool => ValidDays answer.1)
  · intro w answer w' hRun
    have hOk := outcome_effectiveWeekdays plan w
    rw [hRun.outcome_eq] at hOk
    exact weekdaysAfter_valid hOk.symm
  · rintro ⟨weekdays, isDefault⟩ hValid
    simp only [h.of_valid hValid]

end Dating.AgreesOnDates

------------------------------------------------------------
-- Selections
------------------------------------------------------------

/- A stored choice is not used just when it selects no days of the week. -/
theorem isDefault_weekdaysAfter_iff
    {plan : StudyPlan}
    {found : Except Failure WeekdayChoice}
    {days : List Int}
    {isDefault : Bool}
    (h : weekdaysAfter plan found = .ok (days, isDefault)) :
    isDefault = true ↔
      (∃ f, found = .error f) ∨
        ∃ choice, found = .ok choice ∧
          (choice.days = [] ∨ ∃ d ∈ choice.days, d < 0 ∨ 6 < d) := by
  cases found with
  | error f =>
      simp only [weekdaysAfter] at h
      split at h
      · cases h
        exact iff_of_true rfl (Or.inl ⟨f, rfl⟩)
      · cases h
  | ok choice =>
      simp only [weekdaysAfter] at h
      cases hDays : normalizeWeekdays choice.days with
      | ok normalized =>
          rw [hDays] at h
          cases h
          have hSelects := normalizeWeekdays_isOk_iff.mp ⟨_, hDays⟩
          refine iff_of_false nofun ?_
          rintro (⟨f, hError⟩ | ⟨_, hOk, hNone | ⟨d, hd, hRange⟩⟩)
          · cases hError
          · cases hOk
            exact hSelects.nonempty hNone
          · cases hOk
            have hDay := hSelects.range d hd
            omega
      | error e =>
          rw [hDays] at h
          cases h
          refine iff_of_true rfl (Or.inr ⟨choice, rfl, ?_⟩)
          by_contra hUsable
          rw [not_or] at hUsable
          have hSelects : Selects choice.days := by
            refine ⟨hUsable.1, ?_⟩
            intro d hd
            by_contra hRange
            exact hUsable.2 ⟨d, hd, by omega⟩
          rcases normalizeWeekdays_isOk_iff.mpr hSelects with
            ⟨_, hOk⟩
          rw [hDays] at hOk
          cases hOk

/- The weekdays of a plan are the usual ones, or those of its choice. -/
theorem weekdaysAfter_source
    {plan : StudyPlan}
    {found : Except Failure WeekdayChoice}
    {days : List Int}
    {isDefault : Bool}
    (h : weekdaysAfter plan found = .ok (days, isDefault)) :
    (isDefault = true → days = defaultWeekdays plan.daysPerWeek) ∧
      (isDefault = false →
        ∃ choice, found = .ok choice ∧
          ∀ d, d ∈ days ↔ d ∈ choice.days) := by
  unfold weekdaysAfter at h
  split at h
  · split at h
    · cases h
      exact ⟨fun _ => rfl, nofun⟩
    · cases h
  · rename_i choice
    split at h
    · rename_i hDays
      cases h
      exact ⟨nofun, fun _ => ⟨choice, rfl, mem_normalizeWeekdays hDays⟩⟩
    · cases h
      exact ⟨fun _ => rfl, nofun⟩

/-
  Where the weekdays of a plan can be looked up, they are
  days of the week, at least one, in ascending order.  They
  are the usual ones just when no choice is stored, or the
  stored one is empty or holds a number that is no weekday;
  else they are just the days of the stored choice.

  The operations that date items therefore never meet
  weekdays that give no dates: nothing changes if dating does
  anything else there.  Where there are dates, dating items
  does not fail, and it is stopped by the end of the request
  only.
-/
theorem selections_are_valid :
    (∀ (plan : StudyPlan) (w : World),
      w.CarriesOut (.weekdaysOfPlan plan.id) →
        (Records.findWeekdays plan.id).outcome w =
          match w.tables.choicesOfPlan plan.id with
          | choice :: _ => .ok choice
          | [] => .error (.sentinel .noRows)) ∧
    (∀ (plan : StudyPlan) (w : World)
      (found : Except Failure WeekdayChoice),
      (Records.findWeekdays plan.id).outcome w = found →
      (∀ f, found = .error f → f.hasSentinel .noRows = true) →
        ∃ days isDefault,
          (effectiveWeekdays plan).outcome w =
            .ok (days, isDefault) ∧
          ValidDays days ∧
          (isDefault = true ↔
            (∃ f, found = .error f) ∨
              ∃ choice, found = .ok choice ∧
                (choice.days = [] ∨
                  ∃ d ∈ choice.days, d < 0 ∨ 6 < d)) ∧
          (isDefault = true → days = defaultWeekdays plan.daysPerWeek) ∧
          (isDefault = false →
            ∃ choice, found = .ok choice ∧
              ∀ d, d ∈ days ↔ d ∈ choice.days)) ∧
    (∀ date : Dating, date.AgreesOnDates →
      generateWith date = generate ∧
      setWeekdaysWith date = setWeekdays ∧
      recalculateDatesWith date = recalculateDates) ∧
    (∀ (plan : StudyPlan) (items : List ScheduleItem)
      (weekdays : List Int) (w : World),
      GivesDates plan items weekdays →
        ∃ run,
          (applyDates plan items weekdays).outcome w = .ok run ∧
          ∀ f, run.stopped = some f →
            ((applyDates plan items weekdays).after
              w).context.failure? = some f) := by
  refine ⟨?_, ?_, ?_, ?_⟩
  · intro plan w hCarried
    exact outcome_findWeekdays hCarried
  · intro plan w found hFound hReadable
    have hOutcome := outcome_effectiveWeekdays plan w
    rw [hFound] at hOutcome
    have hSome : ∃ answer, weekdaysAfter plan found = .ok answer := by
      cases found with
      | error f => exact ⟨_, if_pos (hReadable f rfl)⟩
      | ok choice =>
          simp only [weekdaysAfter]
          split
          · exact ⟨_, rfl⟩
          · exact ⟨_, rfl⟩
    rcases hSome with ⟨⟨days, isDefault⟩, hAnswer⟩
    exact ⟨days, isDefault, hOutcome.trans hAnswer,
      weekdaysAfter_valid hAnswer,
      isDefault_weekdaysAfter_iff hAnswer,
      weekdaysAfter_source hAnswer⟩
  · intro date hAgrees
    refine ⟨?_, ?_, ?_⟩
    · funext requester r
      exact hAgrees.generateWith_eq requester r
    · funext planId owner weekdays
      exact hAgrees.setWeekdaysWith_eq planId owner weekdays
    · funext planId owner
      exact hAgrees.recalculateDatesWith_eq planId owner
  · intro plan items weekdays w hDates
    exact runs_applyDates_of_dates hDates
      (runs_outcome_after (applyDates plan items weekdays) w)

/- A way of dating that fails where there are no dates. -/
def strictDating : Dating :=
  fun plan items weekdays =>
    match assignDates (items.map slotOf) plan.startDate.date weekdays with
    | .error e => throw (.plain e.message)
    | .ok _ => applyDates plan items weekdays

theorem strictDating_agrees : strictDating.AgreesOnDates := by
  rintro plan items weekdays ⟨dated, hDated⟩
  simp only [strictDating, hDated]

/- A plan with an id. -/
def planNamed (id : String) : StudyPlan :=
  { StudyPlan.blank with id := id, daysPerWeek := 2 }

/- A world with a usable choice and two others, where the request was canceled or not. -/
def choosingWorld (canceled : Bool) : World :=
  { settings := { locale := .fallback }
    database :=
      { tables :=
          { weekdays :=
              [⟨"repeated", some [5, 1, 5, 0], .unset⟩,
                ⟨"beyond", some [3, 7, -9223372036854775808], .unset⟩,
                ⟨"empty", some [], .unset⟩] } }
    context := { canceled := canceled }
    clock := 0 }

/- Repeated weekdays are used; those beyond the week, none, and no row are replaced. -/
theorem selections_are_valid_of_odd_choices :
    (∃ days,
      (effectiveWeekdays (planNamed "repeated")).outcome
        (choosingWorld false) = .ok (days, false) ∧ ValidDays days) ∧
    (∀ id ∈ ["beyond", "empty", "missing"], ∃ days,
      (effectiveWeekdays (planNamed id)).outcome
        (choosingWorld false) = .ok (days, true) ∧ ValidDays days) ∧
    strictDating ≠ applyDates ∧
    generateWith strictDating = generate ∧
    (∃ run f,
      (applyDates (planNamed "repeated") [ScheduleItem.blank]
        [0, 1, 5]).outcome (choosingWorld true) = .ok run ∧
      run.stopped = some f ∧ f = .sentinel .canceled) := by
  rcases selections_are_valid with ⟨hFind, hDays, hWith, hStopped⟩
  have hFound (id : String) :=
    hFind (planNamed id) (choosingWorld false) ⟨rfl, rfl⟩
  have hMissing :
      ∀ f : Failure, (.error (.sentinel .noRows) : Except Failure WeekdayChoice) = .error f →
        f.hasSentinel .noRows = true := by
    intro f hError
    cases hError
    rfl
  refine ⟨?_, ?_, ?_, (hWith _ strictDating_agrees).1, ?_⟩
  · rcases hDays _ _ (.ok ⟨"repeated", some [5, 1, 5, 0], .unset⟩)
      (hFound "repeated") nofun with
      ⟨days, isDefault, hOutcome, hValid, _⟩
    have hAnswer :
        (effectiveWeekdays (planNamed "repeated")).outcome
          (choosingWorld false) = .ok ([0, 1, 5], false) := by
      rfl
    rw [hAnswer] at hOutcome
    cases hOutcome
    exact ⟨_, hAnswer, hValid⟩
  · intro id hId
    simp only [List.mem_cons, List.not_mem_nil, or_false] at hId
    rcases hId with rfl | rfl | rfl
    · rcases hDays _ _
        (.ok ⟨"beyond", some [3, 7, -9223372036854775808], .unset⟩)
        (hFound "beyond") nofun with
        ⟨days, isDefault, hOutcome, hValid, hDefault, _⟩
      rw [hDefault.mpr (Or.inr ⟨_, rfl, Or.inr ⟨7, by decide, by decide⟩⟩)]
        at hOutcome
      exact ⟨days, hOutcome, hValid⟩
    · rcases hDays _ _ (.ok ⟨"empty", some [], .unset⟩)
        (hFound "empty") nofun with
        ⟨days, isDefault, hOutcome, hValid, hDefault, _⟩
      rw [hDefault.mpr (Or.inr ⟨_, rfl, Or.inl rfl⟩)] at hOutcome
      exact ⟨days, hOutcome, hValid⟩
    · rcases hDays _ _ (.error (.sentinel .noRows))
        (hFound "missing") hMissing with
        ⟨days, isDefault, hOutcome, hValid, hDefault, _⟩
      rw [hDefault.mpr (Or.inl ⟨_, rfl⟩)] at hOutcome
      exact ⟨days, hOutcome, hValid⟩
  · intro hSame
    have hError :
        (strictDating (planNamed "repeated") [] []).outcome
          (choosingWorld false) =
        (applyDates (planNamed "repeated") [] []).outcome
          (choosingWorld false) := by
      rw [hSame]
    cases hError
  · rcases hStopped (planNamed "repeated") [ScheduleItem.blank]
      [0, 1, 5] (choosingWorld true) ⟨_, rfl⟩ with
      ⟨run, hRun, hEnded⟩
    have hEnd :
        ((applyDates (planNamed "repeated") [ScheduleItem.blank]
          [0, 1, 5]).after (choosingWorld true)).context =
            { canceled := true } := by
      decide +kernel
    have hSome :
        ((applyDates (planNamed "repeated") [ScheduleItem.blank]
          [0, 1, 5]).outcome (choosingWorld true)).toOption.any
            (·.stopped.isSome) = true := by
      decide +kernel
    rw [hRun] at hSome
    rcases Option.isSome_iff_exists.mp hSome with ⟨f, hStop⟩
    have hFailure := hEnded f hStop
    rw [hEnd] at hFailure
    cases hFailure
    exact ⟨run, _, hRun, hStop, rfl⟩

end Service

end Timetable
