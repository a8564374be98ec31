import Timetable.Proofs.Order.Halves
import Timetable.Proofs.Service.Retrieval

/-
  This file shows that the weeks of a plan can be told from
  its row.

  The days of vacations are read from texts, written into the
  text that is stored, and read from there again.  They come
  back as they were, so that the weeks worked out from the row
  are those that the lessons were distributed over.

  Key definitions include:
    * `storedWeeks`
    * `statisticsOver`

  Main theorems include:
    * `storedStatistics_of_storedWeeks`
    * `storedWeeks_of_restates`
    * `storedWeeks_of_accepted`
-/

namespace Timetable.Service

open Plan Store Act

------------------------------------------------------------
-- The Weeks of a Stored Plan
------------------------------------------------------------

/- The week table that is worked out from a stored plan. -/
def storedWeeks (plan : StudyPlan) : Except Failure (List (Week Float)) := do
  let vacations ← readStoredVacations plan.vacations
  return buildWeeks plan.startDate.date plan.endDate.date vacations
    plan.hoursPerDay plan.daysPerWeek

/- The figures of a stored plan, once its weeks are known. -/
def statisticsOver
    (weeks : List (Week Float))
    (plan : StudyPlan)
    (items : List ScheduleItem) : Act (Statistics Float) := do
  let lessons ← lessonsOf items
  return summarize weeks
    (items.map (assignmentOf lessons plan.playbackSpeed)) 0

/- The figures of a stored plan are figures about its weeks. -/
theorem storedStatistics_of_storedWeeks
    {plan : StudyPlan}
    {weeks : List (Week Float)}
    (hWeeks : storedWeeks plan = .ok weeks)
    (items : List ScheduleItem) :
    storedStatistics plan items = statisticsOver weeks plan items := by
  unfold storedWeeks at hWeeks
  unfold storedStatistics
  cases hRead : readStoredVacations plan.vacations with
  | error f =>
      rw [hRead] at hWeeks
      cases hWeeks
  | ok vacations =>
      rw [hRead] at hWeeks
      cases hWeeks
      rfl

/-
  Rows that agree in the columns that every revision of the
  store knows, and in their vacations, have the same weeks.
-/
theorem storedWeeks_of_core
    {row plan : StudyPlan}
    (hCore : row.core = plan.core)
    (hVacations : row.vacations = plan.vacations) :
    storedWeeks row.asRead = storedWeeks plan.asRead := by
  have hStart := congrArg StudyPlan.startDate hCore
  have hEnd := congrArg StudyPlan.endDate hCore
  have hHours := congrArg StudyPlan.hoursPerDay hCore
  have hDays := congrArg StudyPlan.daysPerWeek hCore
  change row.startDate = plan.startDate at hStart
  change row.endDate = plan.endDate at hEnd
  change row.hoursPerDay = plan.hoursPerDay at hHours
  change row.daysPerWeek = plan.daysPerWeek at hDays
  simp only [storedWeeks, StudyPlan.asRead, hVacations, hStart,
    hEnd, hHours, hDays]

section Accepted

variable {req : GenerateRequest}
variable {input : GenerationInput}

/- The vacations of a plan that was built are those of its request. -/
theorem readStoredVacations_buildPlan
    (hParsed : parseRequest req = .ok input)
    (id owner : String) :
    readStoredVacations (buildPlan id owner req input).vacations =
      .ok input.vacations :=
  readStoredVacations_vacationsText (parseRequest_legible hParsed)

/- Storing a plan and reading its row leaves the weeks of its request. -/
theorem storedWeeks_of_restates
    {id owner : String}
    {row : StudyPlan}
    (hParsed : parseRequest req = .ok input)
    (hRow : row.Restates (buildPlan id owner req input)) :
    storedWeeks row.asRead = .ok (weekTable req input) := by
  have hVacations := readStoredVacations_buildPlan hParsed id owner
  rcases hRow with ⟨created, updated, rfl⟩
  change
    (do
      let vacations ←
        readStoredVacations (buildPlan id owner req input).vacations
      return buildWeeks input.start input.finish vacations
        req.hoursPerDay req.daysPerWeek) = _
  rw [hVacations]
  rfl

/-
  The vacations of an accepted request are read back from the
  plan that is built of it, in their order and with their
  days.  The plan therefore tells the weeks of the request,
  also when it is read from the store.

  These are the weeks that a generation distributes lessons
  over.  The row that it leaves tells them, unless a fault of
  the store has kept the vacations of the plan out of it, and
  the figures of the stored plan are about them again.
-/
theorem storedWeeks_of_accepted
    (hParsed : parseRequest req = .ok input) :
    List.Forall₂ VacationRequest.Names (req.vacations.getD [])
      input.vacations ∧
    (∀ id owner,
      readStoredVacations (buildPlan id owner req input).vacations =
        .ok input.vacations) ∧
    (∀ id owner (row : StudyPlan),
      row.Restates (buildPlan id owner req input) →
        storedWeeks row.asRead = .ok (weekTable req input)) ∧
    ∀ requester w view, w.Fresh → w.Overt →
      (generate requester req).outcome w = .ok view →
      ∃ content frontOrder d row,
        distribute content (weekTable req input) input.mode
          frontOrder = .ok d ∧
        view.items.map itemTopic =
          d.assignments.map assignmentTopic ∧
        ((generate requester req).after w).tables.plansOfOwner
          requester = [row] ∧
        (w.database.rules = [] →
          row.vacations = view.plan.vacations) ∧
        (row.vacations = view.plan.vacations →
          storedWeeks row.asRead = .ok (weekTable req input) ∧
          ∀ items,
            storedStatistics row.asRead items =
              statisticsOver (weekTable req input) row.asRead items) := by
  have hNames :=
    readVacations_names (readVacations_of_parseRequest hParsed)
  refine ⟨hNames, readStoredVacations_buildPlan hParsed,
    fun _ _ _ => storedWeeks_of_restates hParsed, ?_⟩
  intro requester w view hFresh hOvert hOk
  have hRun := runs_outcome_after (generate requester req) w
  rw [hOk] at hRun
  rcases runs_generate_generated hFresh hOvert hRun with
    ⟨_, h, _⟩ | ⟨_, h, hGenerated⟩
  · cases h
  cases h
  rcases hGenerated with
    ⟨input', content, d, m, v, v', hParsed', _, _, _, hPlanned,
      hStoring⟩
  rw [hParsed] at hParsed'
  cases hParsed'
  rcases distribute_of_planned hPlanned with
    ⟨_, frontOrder, hDistributed⟩
  refine ⟨content, frontOrder, d, m.row, hDistributed,
    (hStoring.stored hFresh).topics,
    hStoring.plansOfOwner_eq hFresh, ?_, ?_⟩
  · intro hRules
    rw [hStoring.row_eq hRules]
  · intro hVacations
    have hWeeks : storedWeeks m.row.asRead = .ok (weekTable req input) := by
      rw [storedWeeks_of_core hStoring.kept.core hVacations]
      exact storedWeeks_of_restates hParsed hStoring.kept.restates
    exact ⟨hWeeks, storedStatistics_of_storedWeeks hWeeks⟩

end Accepted

/- The sample request, around the last of February of a leap year. -/
def leapRequest : GenerateRequest :=
  { sampleRequest with
    startDate := "2032-02-16", endDate := "2032-03-07",
    vacations :=
      some [⟨"2032-02-29", "2032-02-29"⟩, ⟨"2032-03-01", "2032-03-02"⟩] }

/- A day off is stored, and so is a vacation that starts on the day after it. -/
theorem storedWeeks_of_accepted_around_leap_day :
    ∃ input view row,
      parseRequest leapRequest = .ok input ∧
      input.vacations =
        [⟨.ofCivil 2032 2 29, .ofCivil 2032 2 29⟩,
          ⟨.ofCivil 2032 3 1, .ofCivil 2032 3 2⟩] ∧
      readStoredVacations
        (buildPlan "plan" "ann" leapRequest input).vacations =
          .ok input.vacations ∧
      (generate "ann" leapRequest).outcome (sampleWorld []) = .ok view ∧
      ((generate "ann" leapRequest).after
        (sampleWorld [])).tables.plansOfOwner "ann" = [row] ∧
      storedWeeks row.asRead = .ok (weekTable leapRequest input) := by
  have hVacations :
      (parseRequest leapRequest).toOption.map (·.vacations) =
        some [⟨.ofCivil 2032 2 29, .ofCivil 2032 2 29⟩,
          ⟨.ofCivil 2032 3 1, .ofCivil 2032 3 2⟩] := by
    decide +kernel
  have hGenerated :
      ((generate "ann" leapRequest).outcome (sampleWorld [])).isOk =
        true := by
    simp only [generate, generatePlan, loadContent, sortLessons,
      composePlan, storePlan, applyDates, assignDates,
      mergeSort_eq_sortHalves]
    decide +kernel
  rcases hParsed : parseRequest leapRequest with f | input
  · rw [hParsed] at hVacations
    cases hVacations
  rcases hOk : (generate "ann" leapRequest).outcome (sampleWorld [])
    with f | view
  · rw [hOk] at hGenerated
    cases hGenerated
  rw [hParsed] at hVacations
  rcases storedWeeks_of_accepted hParsed with
    ⟨_, hStored, _, hRows⟩
  have hOvert : (sampleWorld []).Overt := by decide
  rcases hRows "ann" (sampleWorld []) view (sampleWorld_fresh [])
      hOvert hOk with
    ⟨_, _, _, row, _, _, hRow, hWhole, hWeeks⟩
  exact ⟨input, view, row, rfl, Option.some.inj hVacations,
    hStored "plan" "ann", rfl, hRow, (hWeeks (hWhole rfl)).1⟩

end Timetable.Service
