import Timetable.Proofs.Store.Discretion
import Timetable.Proofs.Store.Records
import Timetable.Records.Catalog

/-
  This file shows that the records keep a secret: writing and
  reading rows of others neither changes the secret rows nor
  lets them be seen.

  Key definitions include:
    * `Secret.Foreign`
    * `Secret.ForeignItem`

  Main theorems include:
    * `Records.discreet_createPlan`
    * `Records.discreet_insertItems`
    * `Records.discreet_setItemDate`
    * `Records.discreet_saveWeekdays`
-/

namespace Timetable

open Store

------------------------------------------------------------
-- Rows of Others
------------------------------------------------------------

namespace Secret

/- A plan of somebody else. -/
structure Foreign
    (S : Secret)
    (p : StudyPlan) : Prop where
  owner : p.ownerId ≠ S.owner
  id : p.id ∉ S.planIds

/- An item of somebody else. -/
structure ForeignItem
    (S : Secret)
    (i : ScheduleItem) : Prop where
  plan : i.planId ∉ S.planIds
  id : i.id ∉ S.itemIds

end Secret

namespace Records

open Act

variable {S : Secret}

------------------------------------------------------------
-- Plans
------------------------------------------------------------

/- A plan of somebody else is one, whatever it lacks. -/
theorem discreet_prepare
    {plan : StudyPlan}
    (h : S.Foreign plan) :
    (prepare (some plan)).Discreet S S.Foreign := by
  have hFilled :
      ∀ id, id ∉ S.planIds →
        (do
          let moment ← now
          return { plan with
            id := id
            vacations := some (plan.vacations.getD "[]")
            createdAt :=
              if plan.createdAt.isUnset then moment
              else plan.createdAt
            updatedAt := moment } : Act StudyPlan).Discreet S
          S.Foreign := by
    intro id hId
    apply Discreet.aside_bind Aside.now
    intro moment
    exact Discreet.pure ⟨h.owner, hId⟩
  unfold prepare
  simp only
  split
  · exact Discreet.throw_bind _ _
  · split
    · exact Discreet.newId.bind (fun id hId => hFilled id hId.1)
    · exact hFilled plan.id h.id

/- A statement behind a savepoint, of which only the outcome is told. -/
theorem discreet_recording
    {c : Change}
    (hSpares : S.Spares c)
    (scope : Scope)
    (name label : String)
    {plan : StudyPlan}
    (h : S.Foreign plan) :
    (do
      let outcome ← attempt
        (behindSavepoint scope name
          (restating (classify label) (discard (perform c))))
      return (plan, outcome) :
        Act (StudyPlan × Except Failure Unit)).Discreet S
      (fun p => S.Foreign p.1) := by
  have hPerform := (discreet_perform hSpares).discard
  apply (discreet_behindSavepoint scope name
    (hPerform.restating (classify label))).attempt.bind
  intro outcome _
  exact Discreet.pure h

theorem discreet_createPlan
    (scope : Scope)
    {plan : StudyPlan}
    (h : S.Foreign plan) :
    (createPlan scope (some plan)).Discreet S
      (fun p => S.Foreign p.1) := by
  apply (discreet_prepare h).bind
  intro plan h
  exact discreet_recording (by exact ⟨h.owner, h.id⟩) _ _ _ h

theorem discreet_createCorePlan
    (scope : Scope)
    {plan : StudyPlan}
    (h : S.Foreign plan) :
    (createCorePlan scope (some plan)).Discreet S
      (fun p => S.Foreign p.1) := by
  apply (discreet_prepare h).bind
  intro plan h
  exact discreet_recording (by exact ⟨h.owner, h.id⟩) _ _ _ h

theorem discreet_patchPlan
    (scope : Scope)
    {plan : StudyPlan}
    (h : S.Foreign plan) :
    (patchPlan scope (some plan)).Discreet S
      (fun p => S.Foreign p.1) := by
  unfold patchPlan
  simp only
  split
  · exact Discreet.throw_bind _ _
  · apply Discreet.aside_bind Aside.now
    intro moment
    exact discreet_recording (by exact h.id) _ _ _ ⟨h.owner, h.id⟩

theorem discreet_touchedRows
    (label : String)
    (outcome : Except Failure Nat) :
    (touchedRows label outcome).Discreet S (fun _ => True) :=
  (Discreet.resume (fun _ _ => trivial)).restating _

/- The plans of others may be deleted. -/
theorem discreet_deletePlansOfOwner
    {owner : String}
    (h : owner ≠ S.owner) :
    (deletePlansOfOwner owner).Discreet S (fun _ => True) := by
  have hDelete := discreet_perform (c := .deleteOwned owner) h
  apply (hDelete.restating _).bind
  intro outcome _
  exact discreet_touchedRows _ _

theorem discreet_deletePlan
    (id : String)
    {owner : String}
    (h : owner ≠ S.owner) :
    (deletePlan id owner).Discreet S (fun _ => True) := by
  have hDelete := discreet_perform (c := .deletePlan id owner) h
  apply (hDelete.restating _).bind
  intro outcome _
  apply (discreet_touchedRows _ _).bind
  intro touched _
  split
  · exact Discreet.throw _
  · exact Discreet.pure trivial

/- The active plan of an owner is that of somebody else, or may be shown. -/
theorem discreet_findPlanOfOwner
    {owner : String}
    (h : S.shown = true ∨ owner ≠ S.owner) :
    (findPlanOfOwner owner).Discreet S
      (fun p => S.shown = true ∨ p.id ∉ S.planIds) := by
  refine discreet_fetchOne (by exact h) ?_
  intro t hGuards p hp
  rcases h with hShown | hOwner
  · exact Or.inl hShown
  · rcases List.mem_map.mp hp with ⟨q, hq, rfl⟩
    have hMem := List.mem_mergeSort.mp (List.mem_of_mem_take hq)
    rcases List.mem_filter.mp hMem with ⟨hPlan, hSame⟩
    refine Or.inr (fun hIn => hOwner ?_)
    rw [← beq_iff_eq.mp hSame]
    exact (Secret.mem_planIds hGuards hPlan).mp hIn

------------------------------------------------------------
-- Items
------------------------------------------------------------

theorem discreet_completeItems
    (n : Nat)
    {items : List ScheduleItem}
    (h : ∀ i ∈ items, S.ForeignItem i) :
    (completeItems n items).Discreet S
      (fun done => ∀ i ∈ done, S.ForeignItem i) := by
  induction items generalizing n with
  | nil => exact Discreet.pure (by simp)
  | cons item rest ih =>
      have hItem := h item (by simp)
      have hRest := ih (n + 1) (fun i hi => h i (by simp [hi]))
      have hDone :
          ∀ id, id ∉ S.itemIds →
            (do
              let rest ← completeItems (n + 1) rest
              return { item with id := id } :: rest :
                Act (List ScheduleItem)).Discreet S
              (fun done => ∀ i ∈ done, S.ForeignItem i) := by
        intro id hId
        apply hRest.bind
        intro done hAll
        refine Discreet.pure ?_
        intro i hi
        rcases List.mem_cons.mp hi with rfl | hi
        · exact ⟨hItem.plan, hId⟩
        · exact hAll i hi
      unfold completeItems
      simp only
      split
      · apply Discreet.newId.bind
        intro id hId
        split
        · exact Discreet.throw_bind _ _
        · exact hDone id hId.2
      · split
        · exact Discreet.throw _
        · exact hDone item.id hItem.id

theorem discreet_insertBatches
    {pieces : List (List ScheduleItem)}
    (h : ∀ batch ∈ pieces, ∀ i ∈ batch, S.ForeignItem i) :
    (insertBatches pieces).Discreet S (fun _ => True) := by
  induction pieces with
  | nil => exact Discreet.pure trivial
  | cons batch rest ih =>
      have hInsert :
          (perform (.insertItems batch)).Discreet S (fun _ => True) := by
        apply discreet_perform
        intro i hi
        have hForeign := h batch (by simp) i hi
        exact ⟨hForeign.plan, hForeign.id⟩
      apply ((hInsert.restating _).discard).bind
      intro _ _
      exact ih (fun batch hb => h batch (by simp [hb]))

/- Items of others may be inserted. -/
theorem discreet_insertItems
    {items : List ScheduleItem}
    (h : ∀ i ∈ items, S.ForeignItem i) :
    (insertItems items).Discreet S
      (fun done => ∀ i ∈ done, S.ForeignItem i) := by
  apply (discreet_completeItems 0 h).bind
  intro done hDone
  have hBatches :
      ∀ batch ∈ batches done, ∀ i ∈ batch, S.ForeignItem i := by
    intro batch hBatch i hi
    refine hDone i ?_
    rw [← flatten_batches done]
    exact List.mem_flatten.mpr ⟨batch, hBatch, hi⟩
  apply (discreet_insertBatches hBatches).bind
  intro _ _
  exact Discreet.pure hDone

/- The items of a plan are items of others, or may be shown. -/
theorem discreet_listItems
    {planId : String}
    (h : S.shown = true ∨ planId ∉ S.planIds) :
    (listItems planId).Discreet S
      (fun items => planId ∉ S.planIds → ∀ i ∈ items, i.id ∉ S.itemIds) := by
  refine Discreet.restating _ (discreet_fetch (by exact h) ?_ ?_)
  · intro t hGuards hPlan i hi hMine
    have hMem := List.mem_mergeSort.mp hi
    rcases List.mem_filter.mp hMem with ⟨hItem, hSame⟩
    have hIn := (Secret.mem_itemIds hGuards hItem).mp hMine
    rw [beq_iff_eq.mp hSame] at hIn
    exact hPlan hIn
  · intro _ i hi
    cases hi

theorem discreet_setItemDate
    {id : String}
    (date : Timestamp)
    (h : id ∉ S.itemIds) :
    (setItemDate id date).Discreet S (fun _ => True) := by
  have hSet := discreet_perform (c := .setDate id date) h
  apply (hSet.restating _).bind
  intro outcome _
  apply (discreet_touchedRows _ _).bind
  intro touched _
  split
  · exact Discreet.throw _
  · exact Discreet.pure trivial

theorem discreet_setItemCompleted
    {planId : String}
    (id : String)
    (completed : Bool)
    (moment : Option Timestamp)
    (h : planId ∉ S.planIds) :
    (setItemCompleted planId id completed moment).Discreet S
      (fun _ => True) :=
  discreet_fetchOne (by exact h) (fun _ _ _ _ => trivial)

------------------------------------------------------------
-- Weekdays
------------------------------------------------------------

theorem discreet_saveWeekdays
    {choice : WeekdayChoice}
    (h : choice.planId ∉ S.planIds) :
    (saveWeekdays (some choice)).Discreet S (fun _ => True) := by
  unfold saveWeekdays
  simp only
  split
  · exact Discreet.throw_bind _ _
  · apply Discreet.aside_bind Aside.now
    intro moment
    have hSave :
        (perform
          (.chooseWeekdays { choice with updatedAt := moment })).Discreet
            S (fun _ => True) :=
      discreet_perform (by exact h)
    exact (hSave.restating _).discard

theorem discreet_findWeekdays
    {planId : String}
    (h : S.shown = true ∨ planId ∉ S.planIds) :
    (findWeekdays planId).Discreet S (fun _ => True) :=
  discreet_fetchOne (by exact h) (fun _ _ _ _ => trivial)

------------------------------------------------------------
-- Catalog
------------------------------------------------------------

/- The catalog is nobody's. -/
theorem discreet_listLessons
    (filter : LessonFilter) :
    (listLessons filter).Discreet S (fun _ => True) := by
  unfold listLessons
  split
  · exact Discreet.pure trivial
  · exact Discreet.restating _
      (discreet_fetch (by exact trivial) (fun _ _ => trivial) trivial)

theorem discreet_lessonsById
    (ids : List String) :
    (lessonsById ids).Discreet S (fun _ => True) := by
  unfold lessonsById
  split
  · exact Discreet.pure trivial
  · exact Discreet.restating _
      (discreet_fetch (by exact trivial) (fun _ _ => trivial) trivial)

theorem discreet_completedLessons
    (owner course : String) :
    (completedLessons owner course).Discreet S (fun _ => True) :=
  Discreet.restating _
    (discreet_fetch (by exact trivial) (fun _ _ => trivial) trivial)

end Records

end Timetable
