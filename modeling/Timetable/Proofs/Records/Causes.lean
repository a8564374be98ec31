import Timetable.Proofs.Action.Causes
import Timetable.Proofs.Store.Statements
import Timetable.Records.Catalog
import Timetable.Records.Items
import Timetable.Records.Weekdays

/-
  This file follows the failures of the records back to the
  store.  Whatever the records report holds the failure that a
  statement met, or tells that a row is not there.

  Main theorems include:
    * `traced_send`
    * `traced_behindSavepoint`
    * `traced_createPlan`
    * `traced_insertItems`
    * `traced_saveWeekdays`
-/

namespace Timetable.Records

open Store Act

variable {α : Type} {C : Failure → Prop}

------------------------------------------------------------
-- Statements
------------------------------------------------------------

/- A statement fails with what the world threatens with. -/
theorem traced_send
    {s : Statement}
    {idle : Option Failure → α}
    {effect : Database → α × Database}
    {Q : α → Prop}
    (hRules : ∀ db, (effect db).2.rules = db.rules)
    (hEffect : ∀ db, Q (effect db).1)
    (hIgnored : Q (idle none))
    (hUncounted : ∀ f, C f → Q (idle (some f))) :
    (send s idle effect).Traced C C Q := by
  intro w r w' hBounded hRun
  unfold Runs at hRun
  rw [exec_send] at hRun
  split at hRun
  · rename_i f hEnded
    cases hRun
    refine ⟨hBounded, nofun, ?_⟩
    intro g hg
    cases hg
    exact hBounded f (World.threatens_of_failure? hEnded)
  · simp only at hRun
    have hSent := (kept_sent s w).toLater.bounded hBounded
    rcases hFault : (w.database.submit s).1 with
      _ | (f | _ | text)
    · rw [hFault] at hRun
      cases hRun
      refine ⟨?_, ?_, nofun⟩
      · exact (later_sent s w (fun db => (effect db).2) hRules).bounded
          hBounded
      · intro a ha
        cases ha
        exact hEffect _
    · rw [hFault] at hRun
      cases hRun
      rcases exists_rule_of_strike _ _ _ hFault with
        ⟨rule, hRule, _, hSame⟩
      refine ⟨hSent, nofun, ?_⟩
      intro g hg
      cases hg
      exact hBounded f (.fault hRule hSame)
    · rw [hFault] at hRun
      cases hRun
      refine ⟨hSent, ?_, nofun⟩
      intro a ha
      cases ha
      exact hIgnored
    · rw [hFault] at hRun
      cases hRun
      rcases exists_rule_of_strike _ _ _ hFault with
        ⟨rule, hRule, _, hSame⟩
      refine ⟨hSent, ?_, nofun⟩
      intro a ha
      cases ha
      exact hUncounted _ (hBounded _ (.uncounted hRule hSame))

theorem traced_perform
    (c : Change) :
    (perform c).Traced C C (fun o => ∀ f, o = .error f → C f) := by
  apply traced_send (fun _ => rfl) (fun _ => nofun) nofun
  intro f hf g hg
  cases hg
  exact hf

theorem traced_fetch
    (l : Lookup) :
    (fetch l).Traced C C (fun _ => True) :=
  traced_send (fun _ => rfl) (fun _ => trivial) trivial
    (fun _ _ => trivial)

/- A lookup of a single row that does not tell of no rows has failed. -/
theorem traced_fetchOne
    (l : Lookup) :
    (fetchOne l).Traced C
      (fun f => ¬ f.hasSentinel .noRows = true → C f)
      (fun _ => True) := by
  have hFetch :
      (fetch l).Traced C
        (fun f => ¬ f.hasSentinel .noRows = true → C f)
        (fun _ => True) :=
    (traced_fetch l).mono (fun _ hf _ => hf) (fun _ h => h)
  apply hFetch.bind
  intro rows _
  cases rows with
  | nil => exact Traced.throw (fun hRows => absurd rfl hRows)
  | cons row rest => exact Traced.pure trivial

------------------------------------------------------------
-- Restated Failures
------------------------------------------------------------

/- A label is put around a failure. -/
theorem stems_during
    (label : String)
    {f : Failure}
    (h : f.Stems C) :
    (Failure.during label f).Stems C :=
  h.restated (fun _ hStands => .during label hStands)

/- An answer for the client is put around a failure. -/
theorem stems_caused
    (p : Problem)
    {f : Failure}
    (h : f.Stems C) :
    (Failure.caused p f).Stems C :=
  h.restated (fun _ hStands => .caused p hStands)

/- A refusal is told apart without losing its cause. -/
theorem stems_classify
    (label : String)
    {f : Failure}
    (h : f.Stems C) :
    (classify label f).Stems C := by
  unfold classify
  split
  · rename_i s _
    exact h.restated (fun _ hStands => .tagged label s hStands)
  · exact stems_during label h

section Labels

variable (label : String)
variable {Q : α → Prop}
variable {act : Act α}
variable (h : act.Traced C C Q)

include h

/- What fails is told with a label around its failure. -/
theorem traced_labeled :
    (restating (.during label) act).Traced C (Failure.Stems C) Q :=
  h.restating (fun _ hf => stems_during label (Failure.Stems.of_mem hf))

theorem traced_classified :
    (restating (classify label) act).Traced C (Failure.Stems C) Q :=
  h.restating (fun _ hf => stems_classify label (Failure.Stems.of_mem hf))

end Labels

------------------------------------------------------------
-- Transactions
------------------------------------------------------------

theorem traced_start :
    start.Traced C C (fun _ => True) :=
  traced_send (fun _ => rfl) (fun _ => trivial) trivial
    (fun _ _ => trivial)

theorem traced_commit :
    commit.Traced C C (fun _ => True) := by
  intro w r w' hBounded hRun
  refine ⟨?_, fun _ _ => trivial, ?_⟩
  · rcases runs_commit hRun with
      ⟨_, _, _, hHeld | ⟨hLater, _⟩⟩ | ⟨_, hLater, _⟩
    · exact hHeld.toLater.bounded hBounded
    · exact hLater.bounded hBounded
    · exact hLater.bounded hBounded
  · rintro f rfl
    unfold Runs at hRun
    rw [exec_commit] at hRun
    split at hRun
    · rename_i g hEnded
      cases hRun
      exact hBounded f (World.threatens_of_failure? hEnded)
    · simp only at hRun
      split at hRun
      · rename_i g hFault
        cases hRun
        rcases exists_rule_of_strike _ _ _ hFault with
          ⟨rule, hRule, _, hSame⟩
        exact hBounded f (.fault hRule hSame)
      · cases hRun

/- What a transaction fails with is what runs in it fails with. -/
theorem traced_inTransaction
    {P : Failure → Prop}
    {Q : α → Prop}
    {act : Act α}
    (h : act.Traced C P Q) :
    (inTransaction act).Traced C P Q := by
  intro w r w' hBounded hRun
  rcases runs_inTransaction hRun with
    ⟨a, rfl, hAct⟩ | ⟨f, v, rfl, hAct, hLater, _⟩
  · exact h _ _ _ hBounded hAct
  · rcases h _ _ _ hBounded hAct with ⟨hStill, hOk, hError⟩
    exact ⟨hLater.bounded hStill, nofun, hError⟩

------------------------------------------------------------
-- Savepoints
------------------------------------------------------------

theorem traced_mark
    (name : String) :
    (mark name).Traced C C (fun _ => True) :=
  traced_send (fun _ => rfl) (fun _ => trivial) trivial
    (fun _ _ => trivial)

theorem traced_release
    (name : String) :
    (release name).Traced C C (fun _ => True) :=
  traced_send (fun _ => rfl) (fun _ => trivial) trivial
    (fun _ _ => trivial)

theorem traced_returnTo
    (name : String) :
    (returnTo name).Traced C C (fun _ => True) :=
  traced_send (fun _ => rfl) (fun _ => trivial) trivial
    (fun _ _ => trivial)

theorem traced_behindSavepoint
    (scope : Scope)
    (name : String)
    {act : Act Unit}
    (h : act.Traced C (Failure.Stems C) (fun _ => True)) :
    (behindSavepoint scope name act).Traced C (Failure.Stems C)
      (fun _ => True) := by
  unfold behindSavepoint
  cases scope with
  | alone => exact h
  | transaction =>
      apply (traced_labeled _ (traced_mark name)).bind
      intro _ _
      apply (h.attempt).bind
      rintro o ⟨_, hError⟩
      cases o with
      | ok _ => exact traced_labeled _ (traced_release name)
      | error f =>
          apply ((traced_returnTo name).attempt).bind
          rintro o _
          cases o with
          | ok _ => exact Traced.throw (hError f rfl)
          | error g =>
              apply Traced.throw
              exact (hError f rfl).restated
                (fun _ hStands => .first _ hStands)

------------------------------------------------------------
-- Plans
------------------------------------------------------------

/- A plan has an id and an owner. -/
structure Identified (p : StudyPlan) : Prop where
  id : p.id ≠ ""
  owner : p.ownerId ≠ ""

/- A plan with an owner is never found to lack anything. -/
theorem traced_prepare
    {P : Failure → Prop}
    {plan : StudyPlan}
    (h : plan.ownerId ≠ "") :
    (prepare (some plan)).Traced C P Identified := by
  have hFilled :
      ∀ id, id ≠ "" →
        (do
          let moment ← now
          return { plan with
            id := id
            vacations := some (plan.vacations.getD "[]")
            createdAt :=
              if plan.createdAt.isUnset then moment
              else plan.createdAt
            updatedAt := moment } : Act StudyPlan).Traced C P
          Identified := by
    intro id hId
    apply Traced.now.bind
    intro moment _
    exact Traced.pure ⟨hId, h⟩
  unfold prepare
  simp only
  split
  · rename_i hOwner
    exact absurd (beq_iff_eq.mp hOwner) h
  · split
    · exact Traced.newId.bind hFilled
    · rename_i hId
      exact hFilled plan.id (by simpa using hId)

/- A statement behind a savepoint, of which the outcome is told. -/
theorem traced_recording
    {P : Failure → Prop}
    (c : Change)
    (scope : Scope)
    (name label : String)
    {plan : StudyPlan}
    (h : Identified plan) :
    (do
      let outcome ← attempt
        (behindSavepoint scope name
          (restating (classify label) (discard (perform c))))
      return (plan, outcome) :
        Act (StudyPlan × Except Failure Unit)).Traced C P
      (fun p => Identified p.1 ∧ ∀ f, p.2 = .error f → f.Stems C) := by
  have hPerform :=
    traced_classified (C := C) label (traced_perform c).discard
  apply (traced_behindSavepoint scope name hPerform).attempt.bind
  rintro outcome ⟨_, hError⟩
  exact Traced.pure ⟨h, hError⟩

theorem traced_createPlan
    {P : Failure → Prop}
    (scope : Scope)
    {plan : StudyPlan}
    (h : plan.ownerId ≠ "") :
    (createPlan scope (some plan)).Traced C P
      (fun p => Identified p.1 ∧ ∀ f, p.2 = .error f → f.Stems C) := by
  apply (traced_prepare h).bind
  intro plan hPlan
  exact traced_recording _ _ _ _ hPlan

theorem traced_createCorePlan
    {P : Failure → Prop}
    (scope : Scope)
    {plan : StudyPlan}
    (h : plan.ownerId ≠ "") :
    (createCorePlan scope (some plan)).Traced C P
      (fun p => Identified p.1 ∧ ∀ f, p.2 = .error f → f.Stems C) := by
  apply (traced_prepare h).bind
  intro plan hPlan
  exact traced_recording _ _ _ _ hPlan

theorem traced_patchPlan
    {P : Failure → Prop}
    (scope : Scope)
    {plan : StudyPlan}
    (h : Identified plan) :
    (patchPlan scope (some plan)).Traced C P
      (fun p => Identified p.1 ∧ ∀ f, p.2 = .error f → f.Stems C) := by
  unfold patchPlan
  simp only
  split
  · rename_i hId
    exact absurd (beq_iff_eq.mp hId) h.id
  · apply Traced.now.bind
    intro moment _
    exact traced_recording _ _ _ _ ⟨h.id, h.owner⟩

theorem traced_touchedRows
    (label : String)
    {outcome : Except Failure Nat}
    (h : ∀ f, outcome = .error f → C f) :
    (touchedRows label outcome).Traced C (Failure.Stems C)
      (fun _ => True) :=
  traced_labeled label (Traced.resume (fun _ _ => trivial) h)

/- The plans of an owner are deleted, or the statement has failed. -/
theorem traced_deletePlansOfOwner
    (owner : String) :
    (deletePlansOfOwner owner).Traced C (Failure.Stems C)
      (fun _ => True) := by
  apply (traced_labeled _ (traced_perform _)).bind
  intro outcome hOutcome
  exact traced_touchedRows _ hOutcome

------------------------------------------------------------
-- Items
------------------------------------------------------------

/- Items of a plan are never found to lack one. -/
theorem traced_completeItems
    {P : Failure → Prop}
    (n : Nat)
    {items : List ScheduleItem}
    (h : ∀ i ∈ items, i.planId ≠ "") :
    (completeItems n items).Traced C P (fun _ => True) := by
  induction items generalizing n with
  | nil => exact Traced.pure trivial
  | cons item rest ih =>
      have hItem := h item (by simp)
      have hRest := ih (n + 1) (fun i hi => h i (by simp [hi]))
      have hDone :
          ∀ id : String,
            (do
              let rest ← completeItems (n + 1) rest
              return { item with id := id } :: rest :
                Act (List ScheduleItem)).Traced C P
              (fun _ => True) := by
        intro id
        apply hRest.bind
        intro done _
        exact Traced.pure trivial
      have hPlan : ¬ (item.planId == "") = true := by simpa using hItem
      unfold completeItems
      simp only [hPlan]
      split
      · exact Traced.newId.bind (fun id _ => hDone id)
      · exact hDone item.id

theorem traced_insertBatches
    (pieces : List (List ScheduleItem)) :
    (insertBatches pieces).Traced C (Failure.Stems C)
      (fun _ => True) := by
  induction pieces with
  | nil => exact Traced.pure trivial
  | cons batch rest ih =>
      apply (traced_classified _ (traced_perform _)).discard.bind
      intro _ _
      exact ih

/- Items of a plan are inserted, or a statement has failed. -/
theorem traced_insertItems
    {items : List ScheduleItem}
    (h : ∀ i ∈ items, i.planId ≠ "") :
    (insertItems items).Traced C (Failure.Stems C)
      (fun _ => True) := by
  apply (traced_completeItems 0 h).bind
  intro done _
  apply (traced_insertBatches _).bind
  intro _ _
  exact Traced.pure trivial

/- A date is set, unless there is no such item or the statement fails. -/
theorem traced_setItemDate
    (id : String)
    (date : Timestamp) :
    (setItemDate id date).Traced C
      (fun f => f.Stems C ∨ f = .sentinel .noRows)
      (fun _ => True) := by
  have hMet :
      ∀ f : Failure, f.Stems C → f.Stems C ∨ f = .sentinel .noRows :=
    fun _ hf => Or.inl hf
  apply ((traced_labeled _ (traced_perform _)).mono hMet
    (fun _ h => h)).bind
  intro outcome hOutcome
  apply ((traced_touchedRows _ hOutcome).mono hMet (fun _ h => h)).bind
  intro touched _
  split
  · exact Traced.throw (Or.inr rfl)
  · exact Traced.pure trivial

------------------------------------------------------------
-- Weekdays and Catalog
------------------------------------------------------------

/- Weekdays are stored, unless the plan has no id or the statement fails. -/
theorem traced_saveWeekdays
    (choice : WeekdayChoice) :
    (saveWeekdays (some choice)).Traced C
      (fun f =>
        f.Stems C ∨
          (choice.planId = "" ∧ f = .plain "plan_id is required"))
      (fun _ => True) := by
  unfold saveWeekdays
  simp only
  split
  · rename_i hId
    exact Traced.throw_bind (Or.inr ⟨beq_iff_eq.mp hId, rfl⟩) _
  · apply Traced.now.bind
    intro moment _
    exact (traced_classified _ (traced_perform _)).discard.mono
      (fun _ hf => Or.inl hf) (fun _ h => h)

theorem traced_listLessons
    (filter : LessonFilter) :
    (listLessons filter).Traced C (Failure.Stems C)
      (fun _ => True) := by
  unfold listLessons
  split
  · exact Traced.pure trivial
  · exact traced_labeled _ (traced_fetch (.lessons filter))

end Timetable.Records
