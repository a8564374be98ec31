import Timetable.Proofs.Order.Halves
import Timetable.Proofs.Service.Deferral
import Timetable.Proofs.Service.Statistics
import Timetable.Proofs.Service.Vacations
import Timetable.Proofs.Store.ItemOrder

/-
  This file compares the answer to a generation with the
  answer to a later question for the active plan.

  The first tells what was worked out, the second what is read
  from the store and worked out again: the weeks from the
  stored vacations, and the costs from the lessons that the
  items name.  They differ in nothing but the figures about
  forced lessons.

  Key definitions include:
    * `figuresOf`
    * `viewOf`
    * `PlanView.unforced`

  Main theorems include:
    * `runs_current_calm`
    * `Storing.viewOf_eq`
    * `current_returns_generated`
-/

namespace Timetable.Service

open Plan Store Act

------------------------------------------------------------
-- The Active Plan
------------------------------------------------------------

/- The figures of a stored plan with given vacations. -/
def figuresOf
    (plan : StudyPlan)
    (vacations : List Vacation)
    (t : Tables) : Statistics Float :=
  let items := t.itemsOfPlan plan.id
  summarize
    (buildWeeks plan.startDate.date plan.endDate.date vacations
      plan.hoursPerDay plan.daysPerWeek)
    (items.map
      (assignmentOf (t.lessonsWithIds (items.map (·.lessonId)))
        plan.playbackSpeed))
    0

/- What is answered about a stored plan with given vacations. -/
def viewOf
    (plan : StudyPlan)
    (vacations : List Vacation)
    (t : Tables) : PlanView where
  plan := plan.asRead
  items := t.itemsOfPlan plan.id
  weekdays := weekdaysOf plan t
  statistics := some (figuresOf plan vacations t)
  datesAssigned :=
    !(t.itemsOfPlan plan.id).isEmpty &&
      (t.itemsOfPlan plan.id).all (·.scheduledDate.isSome)

section Calm

variable {w w' : World} (hCalm : w.Calm)

include hCalm

theorem runs_findPlanOfOwner_calm
    {owner : String}
    {plan : StudyPlan}
    {r : Except Failure StudyPlan}
    (hFound : (w.tables.plansOfOwner owner).head? = some plan)
    (hRun : (Records.findPlanOfOwner owner).Runs w r w') :
    r = .ok plan.asRead := by
  rcases Records.runs_fetchOne_candid hCalm.candid hRun with
    ⟨_, _, _, hRestless⟩ | hAnswer
  · exact absurd hCalm hRestless
  have hRows :
      (Lookup.planOfOwner owner).rows
        ((Lookup.planOfOwner owner).after w.tables) =
        [plan.asRead] := by
    cases hPlans : w.tables.plansOfOwner owner with
    | nil =>
        rw [hPlans] at hFound
        cases hFound
    | cons first rest =>
        rw [hPlans] at hFound
        cases hFound
        simp [Lookup.rows, Lookup.after, hPlans]
  rw [hRows] at hAnswer
  exact hAnswer

theorem runs_itemsOf_calm
    {planId : String}
    {r : Except Failure (List ScheduleItem)}
    (hRun : (itemsOf planId).Runs w r w') :
    r = .ok (w.tables.itemsOfPlan planId) := by
  rcases runs_itemsOf_candid hCalm.candid hRun with
    ⟨_, _, _, hRestless⟩ | hOk
  · exact absurd hCalm hRestless
  · exact hOk

theorem runs_effectiveWeekdays_calm
    {plan : StudyPlan}
    {r : Except Failure (List Int × Bool)}
    (hRun : (effectiveWeekdays plan).Runs w r w') :
    ∃ isDefault, r = .ok (weekdaysOf plan w.tables, isDefault) := by
  rcases runs_effectiveWeekdays_candid hCalm.candid hRun with
    ⟨_, _, _, hRestless⟩ | hOk
  · exact absurd hCalm hRestless
  · exact hOk

theorem runs_lessonsOf_calm
    {items : List ScheduleItem}
    {r : Except Failure (List (Lesson Float))}
    (hRun : (lessonsOf items).Runs w r w') :
    r = .ok (w.tables.lessonsWithIds (items.map (·.lessonId))) := by
  unfold lessonsOf Records.lessonsById at hRun
  split at hRun
  · rename_i hEmpty
    have hNone : items.map (·.lessonId) = [] := by
      simpa using hEmpty
    rw [((runs_pure_iff _ _ _ _).mp hRun).1, hNone]
    simp [Tables.lessonsWithIds]
  · rcases (runs_restating_iff _ _ _ _ _).mp hRun with
      ⟨o, hFetch, rfl⟩
    rcases runs_fetch_answered hCalm.overt hFetch with
      ⟨_, _, hRestless⟩ | rfl
    · exact absurd hCalm hRestless
    · rfl

theorem runs_storedStatistics_calm
    {plan : StudyPlan}
    {vacations : List Vacation}
    {items : List ScheduleItem}
    {r : Except Failure (Statistics Float)}
    (hVacations : readStoredVacations plan.vacations = .ok vacations)
    (hRun : (storedStatistics plan items).Runs w r w') :
    r = .ok
      (summarize
        (buildWeeks plan.startDate.date plan.endDate.date vacations
          plan.hoursPerDay plan.daysPerWeek)
        (items.map
          (assignmentOf
            (w.tables.lessonsWithIds (items.map (·.lessonId)))
            plan.playbackSpeed))
        0) := by
  unfold storedStatistics at hRun
  rw [hVacations] at hRun
  rcases (runs_bind_iff _ _ _ _ _).mp hRun with
    ⟨f, hResume, _⟩ | ⟨found, w₁, hResume, hLooking⟩
  · cases ((runs_resume_iff _ _ _ _).mp hResume).1
  rcases (runs_resume_iff _ _ _ _).mp hResume with ⟨hOk, rfl⟩
  cases hOk
  rcases (runs_bind_iff _ _ _ _ _).mp hLooking with
    ⟨f, hLessons, _⟩ | ⟨lessons, w₂, hLessons, hAnswer⟩
  · cases runs_lessonsOf_calm hCalm hLessons
  cases runs_lessonsOf_calm hCalm hLessons
  exact ((runs_pure_iff _ _ _ _).mp hAnswer).1

/- In a calm world the active plan is answered from the tables. -/
theorem runs_current_calm
    {owner : String}
    {plan : StudyPlan}
    {vacations : List Vacation}
    {r : Except Failure PlanView}
    (hOwner : owner ≠ "")
    (hFound : (w.tables.plansOfOwner owner).head? = some plan)
    (hVacations :
      readStoredVacations plan.asRead.vacations = .ok vacations)
    (hRun : (current owner).Runs w r w') :
    r = .ok (viewOf plan vacations w.tables) := by
  unfold current at hRun
  rw [if_neg (by simpa using hOwner)] at hRun
  rcases (runs_attempt_bind_iff _ _ _ _ _).mp hRun with
    ⟨o, w₁, hFind, hGoing⟩
  have hKept₁ : w.Kept w₁ :=
    Records.fetchOne_keeps _ (fun _ => rfl) _ _ _ hFind
  cases runs_findPlanOfOwner_calm hCalm hFound hFind
  rcases (runs_bind_iff _ _ _ _ _).mp hGoing with
    ⟨f, hItems, _⟩ | ⟨items, w₂, hItems, hGoing⟩
  · cases runs_itemsOf_calm (hKept₁.calm hCalm) hItems
  cases runs_itemsOf_calm (hKept₁.calm hCalm) hItems
  have hKept₂ := hKept₁.trans (itemsOf_keeps _ _ _ _ hItems)
  rcases (runs_bind_iff _ _ _ _ _).mp hGoing with
    ⟨f, hDays, _⟩ | ⟨⟨weekdays, isDefault⟩, w₃, hDays, hGoing⟩
  · rcases runs_effectiveWeekdays_calm (hKept₂.calm hCalm) hDays with
      ⟨_, h⟩
    cases h
  rcases runs_effectiveWeekdays_calm (hKept₂.calm hCalm) hDays with
    ⟨_, h⟩
  cases h
  have hKept₃ :=
    hKept₂.trans (effectiveWeekdays_keeps _ _ _ _ hDays)
  rcases (runs_attempt_bind_iff _ _ _ _ _).mp hGoing with
    ⟨o, w₄, hFigures, hAnswer⟩
  cases runs_storedStatistics_calm (hKept₃.calm hCalm) hVacations
    hFigures
  rw [((runs_pure_iff _ _ _ _).mp hAnswer).1,
    show w₁.tables = w.tables from hKept₁.tables,
    show w₂.tables = w.tables from hKept₂.tables,
    show w₃.tables = w.tables from hKept₃.tables]
  rfl

end Calm

------------------------------------------------------------
-- The Generated Plan
------------------------------------------------------------

section NewPlan

variable {owner : String}
variable {req : GenerateRequest}
variable {input : GenerationInput}
variable {content : List (CostedLesson Float)}
variable {d : Distribution Float}
variable {m : Particulars}
variable {w w' : World}
variable {view : PlanView}

/- Without faults the row of the new plan is the plan as it was answered. -/
theorem Storing.row_eq
    (h : Storing owner req input d m w view w')
    (hRules : w.database.rules = []) :
    m.row = view.plan :=
  h.kept.whole hRules

theorem Storing.plan_eq
    (h : Storing owner req input d m w view w') :
    ∃ created updated,
      view.plan =
        { buildPlan m.planId owner req input with
          createdAt := created
          updatedAt := updated } :=
  h.kept.restates

theorem Storing.vacations_eq
    (h : Storing owner req input d m w view w') :
    view.plan.vacations = some (vacationsText input.vacations) := by
  rcases h.plan_eq with ⟨_, _, hPlan⟩
  rw [hPlan]
  rfl

/- The new plan is read as it was answered. -/
theorem Storing.asRead_eq
    (h : Storing owner req input d m w view w') :
    view.plan.asRead = view.plan := by
  rw [StudyPlan.asRead, h.vacations_eq, Option.getD_some,
    ← h.vacations_eq]

/- The new plan is the only one of its owner. -/
theorem Storing.plansOfOwner_eq
    (h : Storing owner req input d m w view w')
    (hFresh : w.Fresh) :
    w'.tables.plansOfOwner owner = [m.row] := by
  have hRow : m.row.ownerId = owner := h.kept.ownerId
  have hOthers :
      (w.tables.rowsBesides owner).plans.filter
        (fun p => p.ownerId == owner) = [] := by
    rw [List.filter_eq_nil_iff]
    intro p hp
    simpa using (List.mem_filter.mp hp).2
  unfold Tables.plansOfOwner
  rw [(h.tables_eq hFresh).2, Tables.replaced_plans, hRow,
    List.filter_append, hOthers, List.nil_append,
    List.filter_cons_of_pos (by simpa using hRow), List.filter_nil,
    List.mergeSort_singleton]

/- Items about assignments in order stand in order. -/
theorem inOrder_eq_self
    {items : List ScheduleItem}
    {assignments : List (Assignment Float)}
    (hTopics : items.map itemTopic = assignments.map assignmentTopic)
    (hOrdered : assignments.Pairwise Assignment.Before) :
    inOrder items = items := by
  have hPairs :
      (assignments.map assignmentTopic).Pairwise
        (fun s t => s.2.1 < t.2.1 ∨ (s.2.1 = t.2.1 ∧ s.2.2 < t.2.2)) :=
    List.pairwise_map.mpr hOrdered
  rw [← hTopics, List.pairwise_map] at hPairs
  apply List.mergeSort_of_pairwise
  apply hPairs.imp
  intro i j hBefore
  change i.week < j.week ∨ (i.week = j.week ∧ i.position < j.position)
    at hBefore
  rw [ScheduleItem.before_iff]
  omega

/- The items of the new plan are read as they were answered. -/
theorem Storing.itemsOfPlan_eq
    (h : Storing owner req input d m w view w')
    (hFresh : w.Fresh)
    (hPlanned : planned req input content = .ok d) :
    w'.tables.itemsOfPlan m.row.id = view.items := by
  have hStored := h.stored hFresh
  have hItems : ∀ i ∈ view.items, i.planId = m.row.id := by
    intro i hi
    rw [hStored.items_planId i hi, h.planId, h.row_id]
  unfold Tables.itemsOfPlan
  rw [(h.tables_eq hFresh).2,
    filter_replaced _ (h.row_new hFresh) hItems]
  exact inOrder_eq_self hStored.topics (ordered_of_planned hPlanned)

/- The weekdays of the new plan are read as they were answered. -/
theorem Storing.weekdaysOf_eq
    (h : Storing owner req input d m w view w')
    (hFresh : w.Fresh) :
    weekdaysOf m.row w'.tables = view.weekdays := by
  rw [(h.tables_eq hFresh).2]
  exact weekdaysOf_replaced (h.row_new hFresh) h.row_id.symm
    h.weekdays_valid

/- Whether all dates are assigned is read off the items of the new plan. -/
theorem Storing.datesAssigned_items
    (h : Storing owner req input d m w view w')
    (hFresh : w.Fresh)
    (hPlanned : planned req input content = .ok d) :
    view.datesAssigned =
      (!view.items.isEmpty &&
        view.items.all (·.scheduledDate.isSome)) := by
  have hItems := h.itemsOfPlan_eq hFresh hPlanned
  have hSome : view.items.isEmpty = false := by
    have hTopics := congrArg List.length (h.stored hFresh).topics
    have hAssigned := List.length_pos_iff.mpr (distribute_of_planned hPlanned).1
    rw [List.length_map, List.length_map] at hTopics
    rw [List.isEmpty_eq_false_iff, ← List.length_pos_iff, hTopics]
    exact hAssigned
  rw [hSome, Bool.not_false, Bool.true_and]
  cases hAssigned : view.datesAssigned with
  | true =>
      rcases (h.datesAssigned_iff hFresh).mp hAssigned with
        ⟨dated, _, hOnDays⟩
      symm
      rw [List.all_eq_true]
      intro i hi
      rw [← hItems, mem_itemsOfPlan] at hi
      exact scheduled_of_onDay (hOnDays i hi.1 hi.2)
  | false =>
      rcases h.exists_undated hFresh hAssigned with
        ⟨i, hi, hPlan, hNone⟩
      symm
      rw [List.all_eq_false]
      refine ⟨i, ?_, by simp [hNone]⟩
      rw [← hItems, mem_itemsOfPlan]
      exact ⟨hi, hPlan⟩

/- The figures are worked out again, but for what was forced. -/
theorem Storing.figuresOf_eq
    (h : Storing owner req input d m w view w')
    (hFresh : w.Fresh)
    (hRules : w.database.rules = [])
    (hUnique : (w.tables.lessons.map (·.id)).Nodup)
    (hSourced : ∀ a ∈ d.assignments, Sourced w.tables input.speed a)
    (hPlanned : planned req input content = .ok d) :
    figuresOf m.row input.vacations w'.tables =
      (summarize (weekTable req input) d.assignments
        d.overflow).unforced := by
  have hLessons : w'.tables.lessons = w.tables.lessons := by
    rw [(h.tables_eq hFresh).2]
    rfl
  have hWeeks :
      buildWeeks m.row.startDate.date m.row.endDate.date
          input.vacations m.row.hoursPerDay m.row.daysPerWeek =
        weekTable req input := by
    rcases h.plan_eq with ⟨_, _, hPlan⟩
    rw [h.row_eq hRules, hPlan]
    rfl
  have hSpeed : m.row.playbackSpeed = input.speed := by
    rcases h.plan_eq with ⟨_, _, hPlan⟩
    rw [h.row_eq hRules, hPlan]
    rfl
  unfold figuresOf
  simp only
  rw [hWeeks, hSpeed, h.itemsOfPlan_eq hFresh hPlanned]
  apply summarize_assignmentOf
  · rw [hLessons]
    exact hUnique
  · unfold Sourced
    rw [hLessons]
    exact hSourced
  · exact (h.stored hFresh).topics

/- What is read about the new plan is what was answered, but for what was forced. -/
theorem Storing.viewOf_eq
    (h : Storing owner req input d m w view w')
    (hFresh : w.Fresh)
    (hRules : w.database.rules = [])
    (hUnique : (w.tables.lessons.map (·.id)).Nodup)
    (hSourced : ∀ a ∈ d.assignments, Sourced w.tables input.speed a)
    (hPlanned : planned req input content = .ok d) :
    viewOf m.row input.vacations w'.tables =
      { view with
        statistics :=
          some (summarize (weekTable req input) d.assignments
            d.overflow).unforced } := by
  unfold viewOf
  rw [h.figuresOf_eq hFresh hRules hUnique hSourced hPlanned,
    h.itemsOfPlan_eq hFresh hPlanned, h.weekdaysOf_eq hFresh,
    ← h.datesAssigned_items hFresh hPlanned, h.row_eq hRules,
    h.asRead_eq]

end NewPlan

------------------------------------------------------------
-- Asking for a Generated Plan
------------------------------------------------------------

/-
  A plan that was generated without faults, of a catalog with
  unique ids, is answered again when its owner asks for the
  active plan: the same plan, items, dates and weekdays, and
  the same figures, but that nothing counts as forced.
-/
theorem current_returns_generated
    {requester : String}
    {req : GenerateRequest}
    {w v : World}
    {view : PlanView}
    (hFresh : w.Fresh)
    (hUnique : (w.tables.lessons.map (·.id)).Nodup)
    (hTruthful : CacheTruthful req.filter w)
    (hRules : w.database.rules = [])
    (hOk : (generate requester req).outcome w = .ok view)
    (hCalm : v.Calm)
    (hSame : v.tables = ((generate requester req).after w).tables) :
    ∃ s, view.statistics = some s ∧
      (current requester).outcome v =
        .ok { view with
          statistics :=
            some { s with forcedItems := 0, overflowItems := 0 } } := by
  have hOvert : w.Overt := by
    intro rule hRule
    rw [hRules] at hRule
    cases hRule
  have hRun := runs_outcome_after (generate requester req) w
  rw [hOk] at hRun
  rcases runs_generate_generated hFresh hOvert hRun with
    ⟨_, h, _⟩ | ⟨_, h, hGenerated⟩
  · cases h
  cases h
  rcases hGenerated with
    ⟨input, content, d, m, u, u', hParsed, hOwner,
      ⟨hStore, hCache, hSettings⟩, hLoaded, hPlanned, hStoring⟩
  have hTables : u.tables = w.tables := by
    unfold World.tables
    rw [hStore]
  -- the content was gathered from the catalog
  have hContent :
      content =
        applyCost
          (sortLessons u.settings.locale
            (eligibleLessons requester req w.tables) u.settings.collator)
          input.speed := by
    have hOvert' : u.Overt := by
      unfold World.Overt
      rw [hStore]
      exact hOvert
    rcases runs_loadContent hOvert'
        (hTruthful.of_eq hSettings hCache hTables) hLoaded with
      ⟨_, h, _⟩ | h
    · cases h
    · cases h
      rw [hTables]
  have hSourced :
      ∀ a ∈ d.assignments, Sourced w.tables input.speed a := by
    rw [hContent] at hPlanned
    exact sourced_of_planned hPlanned
  have hFound :
      (v.tables.plansOfOwner requester).head? = some m.row := by
    rw [hSame, hStoring.plansOfOwner_eq hFresh]
    rfl
  have hVacations :
      readStoredVacations m.row.asRead.vacations =
        .ok input.vacations := by
    rw [hStoring.row_eq hRules, hStoring.asRead_eq,
      hStoring.vacations_eq]
    exact readStoredVacations_vacationsText
      (parseRequest_legible hParsed)
  refine ⟨summarize (weekTable req input) d.assignments d.overflow,
    by rw [hStoring.answer], ?_⟩
  have hAsked := runs_outcome_after (current requester) v
  rw [runs_current_calm hCalm hOwner hFound hVacations hAsked, hSame,
    hStoring.viewOf_eq hFresh hRules hUnique hSourced hPlanned]
  rfl

/- The sample request, with days off in the second week. -/
def interruptedRequest : GenerateRequest :=
  { sampleRequest with
    vacations := some [⟨"2031-01-14", "2031-01-15"⟩] }

/- The plan that this makes has one useful week, when it is answered again too. -/
theorem current_returns_generated_sample :
    let call := generate "ann" interruptedRequest
    let t := (call.after (sampleWorld [])).tables
    let v : World := { sampleWorld [] with database := { tables := t } }
    ∃ view s, call.outcome (sampleWorld []) = .ok view ∧
      view.statistics = some s ∧
      (s.totalItems, s.totalWeeks, s.usefulWeeks) = (3, 2, 1) ∧
      (current "ann").outcome v =
        .ok { view with
          statistics :=
            some { s with forcedItems := 0, overflowItems := 0 } } := by
  have hTruthful :
      CacheTruthful interruptedRequest.filter (sampleWorld []) := by
    intro hConnected
    cases hConnected
  have hFigures :
      (((generate "ann" interruptedRequest).outcome
        (sampleWorld [])).toOption.bind (·.statistics)).map
        (fun s => (s.totalItems, s.totalWeeks, s.usefulWeeks)) =
          some (3, 2, 1) := by
    simp only [generate, generatePlan, loadContent, sortLessons,
      composePlan, storePlan, applyDates, assignDates,
      mergeSort_eq_sortHalves]
    decide +kernel
  rcases hOutcome :
      (generate "ann" interruptedRequest).outcome (sampleWorld []) with
    f | view
  · rw [hOutcome] at hFigures
    cases hFigures
  rw [hOutcome] at hFigures
  intro call t v
  have hCalm : v.Calm := ⟨rfl, rfl, rfl, rfl, by decide⟩
  have hAfter :
      t =
        ((generate "ann" interruptedRequest).after
          (sampleWorld [])).tables := by
    with_reducible rfl
  -- here the tables are but a name, so that no generation is run
  have hTables : v.tables = t := by
    clear_value t
    rfl
  rw [hAfter] at hTables
  rcases current_returns_generated (sampleWorld_fresh []) (by decide)
      hTruthful rfl hOutcome hCalm hTables with
    ⟨s, hStatistics, hAnswer⟩
  refine ⟨view, s, hOutcome, hStatistics, ?_, hAnswer⟩
  change view.statistics.map _ = _ at hFigures
  rw [hStatistics] at hFigures
  exact Option.some.inj hFigures

end Timetable.Service
