import Timetable.Proofs.Order.Halves
import Timetable.Proofs.Service.Generation

/-
  This file shows that generating a plan is all or nothing:
  whichever statements fail and whenever the request is
  canceled, either the tables stay as they were, or the
  requester has the new plan and no other, and nobody else's
  rows have changed.

  Key definitions include:
    * `Replaced`

  Main theorems include:
    * `generate_replaces_or_keeps`
-/

namespace Timetable.Service

open Plan Store Act

------------------------------------------------------------
-- All or Nothing
------------------------------------------------------------

/-
  The rows of an owner were replaced by those of a plan that
  was generated for a request, and no other row has changed.
-/
structure Replaced
    (owner : String)
    (req : GenerateRequest)
    (t : Tables)
    (view : PlanView)
    (t' : Tables) : Prop where
  rows :
    ∃ row moment, row.core = view.plan.core ∧
      t'.rowsOf owner =
        ⟨[row], view.items,
          [⟨view.plan.id, some view.weekdays, moment⟩]⟩
  generated :
    ∃ input content d, parseRequest req = .ok input ∧
      planned req input content = .ok d ∧
      view.items.map itemTopic = d.assignments.map assignmentTopic
  others : t'.rowsBesides owner = t.rowsBesides owner
  lessons : t'.lessons = t.lessons
  progress : t'.progress = t.progress

/- What was stored replaces the rows of the owner. -/
theorem Stored.replaced
    {owner : String}
    {req : GenerateRequest}
    {input : GenerationInput}
    {content : List (CostedLesson Float)}
    {d : Distribution Float}
    {w w' : World}
    {view : PlanView}
    (h : Stored owner d.assignments w view w')
    (hFresh : w.Fresh)
    (hParsed : parseRequest req = .ok input)
    (hPlanned : planned req input content = .ok d) :
    Replaced owner req w.tables view w'.tables := by
  rcases h.tables with ⟨row, moment, rfl, hRow, hTables⟩
  have hRowId : view.plan.id = row.id :=
    (StudyPlan.core_id hRow).symm
  have hItems := h.items_planId
  have hNew := h.planId_new hFresh
  rw [hRowId] at hItems hNew
  rw [hTables]
  exact
    { rows :=
        ⟨row, moment, hRow,
          Tables.rowsOf_replaced hNew hItems hRowId⟩
      generated := ⟨input, content, d, hParsed, hPlanned, h.topics⟩
      others := Tables.rowsBesides_replaced hNew hItems hRowId
      lessons := rfl
      progress := rfl }

/-
  Whatever goes wrong with statements or the request, a
  generation that fails leaves the tables as they were, and
  one that succeeds replaces the rows of the requester.
-/
theorem generate_replaces_or_keeps
    (requester : String)
    (req : GenerateRequest)
    (w : World)
    (hOvert : w.Overt)
    (hFresh : w.Fresh) :
    (∀ f, (generate requester req).outcome w = .error f →
      ((generate requester req).after w).tables = w.tables) ∧
    ∀ view, (generate requester req).outcome w = .ok view →
      Replaced requester req w.tables view
        ((generate requester req).after w).tables := by
  have hRun := runs_outcome_after (generate requester req) w
  rcases runs_generate hFresh hOvert hRun with
    ⟨f, hError, _, hSame⟩ |
      ⟨input, content, d, view, hOk, hParsed, hPlanned, _,
        hStored⟩
  · refine ⟨fun _ _ => hSame, ?_⟩
    intro view hOk
    rw [hError] at hOk
    cases hOk
  · constructor
    · intro f hError
      rw [hOk] at hError
      cases hError
    · intro other hOther
      rw [hOk] at hOther
      cases hOther
      exact hStored.replaced hFresh hParsed hPlanned

/- A store that does not know all columns, and whose plan is replaced all the same. -/
def olderStore : World :=
  sampleWorld
    [⟨"plan_insert", 0, 1,
      .fails (.refused "42703" "no such column")⟩]

theorem olderStore_replaces :
    olderStore.Overt ∧ olderStore.Fresh ∧
      ((generate "ann" sampleRequest).outcome
        olderStore).isOk = true ∧
      ∀ view,
        (generate "ann" sampleRequest).outcome olderStore =
          .ok view →
        Replaced "ann" sampleRequest olderStore.tables view
          ((generate "ann" sampleRequest).after
            olderStore).tables := by
  have hOvert : olderStore.Overt := by decide
  have hFresh : olderStore.Fresh := sampleWorld_fresh _
  have hOk :
      ((generate "ann" sampleRequest).outcome olderStore).isOk = true := by
    simp only [generate, generatePlan, loadContent, sortLessons,
      composePlan, storePlan, applyDates, assignDates,
      mergeSort_eq_sortHalves]
    decide +kernel
  refine ⟨hOvert, hFresh, hOk, ?_⟩
  exact (generate_replaces_or_keeps "ann" sampleRequest
    olderStore hOvert hFresh).2

end Timetable.Service
