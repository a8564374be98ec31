import Timetable.Proofs.Plan.Weekdays
import Timetable.Proofs.Service.Dating
import Timetable.Service.Plans

/-
  This file tells what each operation on an existing plan can
  do to the tables of an overt store, whether it succeeds or
  fails.

  Key definitions include:
    * `Altered`

  Main theorems include:
    * `runs_ownedPlan`
    * `runs_setWeekdays`
    * `runs_recalculateDates`
    * `runs_completeItem`
    * `runs_deletePlan`
    * `runs_handleDateJob`
-/

namespace Timetable.Service

open Plan Store Act

------------------------------------------------------------
-- Owned Plans
------------------------------------------------------------

/- Looking for an owned plan writes nothing. -/
theorem ownedPlan_keeps
    (planId owner : String) :
    (ownedPlan planId owner).Keeps := by
  unfold ownedPlan
  split
  · exact Aside.keeps (Aside.throw_bind _ _)
  · apply ((Records.fetchOne_keeps _ (fun _ => rfl)).attempt).bind
    intro o
    cases o with
    | error f =>
        simp only
        split
        · exact Aside.keeps (Aside.throw_bind _ _)
        · exact Keeps.throw _
    | ok plan =>
        simp only
        split
        · exact Aside.keeps (Aside.throw_bind _ _)
        · exact Keeps.pure plan

/- An owned plan is found in the table, whatever faults there are. -/
theorem runs_ownedPlan
    {planId owner : String}
    {plan : StudyPlan}
    {w w' : World}
    (hRun : (ownedPlan planId owner).Runs w (.ok plan) w') :
    ∃ p ∈ w.tables.plans, p.id = planId ∧ p.ownerId = owner ∧
      plan = p.asRead := by
  unfold ownedPlan at hRun
  split at hRun
  · rw [runs_bind_ok_iff] at hRun
    rcases hRun with ⟨_, _, hThrow, _⟩
    cases ((runs_throw_iff _ _ _ _).mp hThrow).1
  rcases (runs_attempt_bind_iff _ _ _ _ _).mp hRun with
    ⟨o, w₁, hFind, hDeciding⟩
  cases o with
  | error f =>
      simp only at hDeciding
      split at hDeciding
      · rw [runs_bind_ok_iff] at hDeciding
        rcases hDeciding with ⟨_, _, hThrow, _⟩
        cases ((runs_throw_iff _ _ _ _).mp hThrow).1
      · cases ((runs_throw_iff _ _ _ _).mp hDeciding).1
  | ok found =>
      simp only at hDeciding
      split at hDeciding
      · rw [runs_bind_ok_iff] at hDeciding
        rcases hDeciding with ⟨_, _, hThrow, _⟩
        cases ((runs_throw_iff _ _ _ _).mp hThrow).1
      · rename_i hOwner
        cases ((runs_pure_iff _ _ _ _).mp hDeciding).1
        have hRow :
            plan ∈ (w.tables.plansWithId planId).map (·.asRead) :=
          Records.mem_rows_of_fetchOne hFind
        rcases List.mem_map.mp hRow with ⟨p, hp, rfl⟩
        rcases List.mem_filter.mp hp with ⟨hMem, hId⟩
        have hAsRead : p.asRead.ownerId = p.ownerId := rfl
        rw [hAsRead] at hOwner
        exact ⟨p, hMem, by simpa using hId, by simpa using hOwner, rfl⟩

/- Reading the items of a plan writes nothing. -/
theorem itemsOf_keeps
    (planId : String) :
    (itemsOf planId).Keeps :=
  ((Records.fetch_keeps _ (fun _ => rfl)).restating _).restating _

/- Nor does reading its weekdays. -/
theorem effectiveWeekdays_keeps
    (plan : StudyPlan) :
    (effectiveWeekdays plan).Keeps := by
  unfold effectiveWeekdays
  apply ((Records.fetchOne_keeps _ (fun _ => rfl)).attempt).bind
  intro o
  cases o with
  | error f =>
      simp only
      split
      · exact Keeps.pure _
      · exact Keeps.throw _
  | ok choice =>
      simp only
      split
      · exact Keeps.pure _
      · apply (Aside.note _ _).keeps.bind
        intro _
        exact Keeps.pure _

------------------------------------------------------------
-- Changes of an Existing Plan
------------------------------------------------------------

/- What an operation on an existing plan can make of the tables. -/
inductive Altered (t : Tables) : Tables → Prop where
| same : Altered t t
| weekdays
    (choice : WeekdayChoice)
    (hPlan : choice.planId ∈ t.plans.map (·.id))
    (hDays : ValidDays choice.days)
    (writes : List (String × Timestamp)) :
    Altered t ((t.chooseWeekdays choice).redated writes)
| dates (writes : List (String × Timestamp)) :
    Altered t (t.redated writes)
| completion
    (planId id : String)
    (completed : Bool)
    (moment : Option Timestamp)
    (hMoment : moment.isSome = completed) :
    Altered t (t.setCompleted planId id completed moment)
| deletion (doomed : StudyPlan → Bool) :
    Altered t (t.deletePlans doomed)

/- An operation leads from a world to a later one with altered tables. -/
structure Alters (w w' : World) : Prop where
  later : w.Later w'
  altered : Altered w.tables w'.tables

theorem alters_of_kept
    {w w' : World}
    (h : w.Kept w') :
    Alters w w' := by
  refine ⟨h.toLater, ?_⟩
  rw [show w'.tables = w.tables from h.tables]
  exact .same

theorem Alters.of_kept
    {w w₁ w' : World}
    (hKept : w.Kept w₁)
    (h : Alters w₁ w') :
    Alters w w' := by
  refine ⟨hKept.toLater.trans h.later, ?_⟩
  rw [← show w₁.tables = w.tables from hKept.tables]
  exact h.altered

theorem Alters.kept
    {w w₁ w' : World}
    (h : Alters w w₁)
    (hKept : w₁.Kept w') :
    Alters w w' := by
  refine ⟨h.later.trans hKept.toLater, ?_⟩
  rw [show w'.tables = w₁.tables from hKept.tables]
  exact h.altered

/- An operation that begins with a step that writes nothing. -/
theorem alters_bind
    {α β : Type}
    {x : Act α}
    {k : α → Act β}
    {w w' : World}
    {r : Except Failure β}
    (hx : x.Keeps)
    (hk :
      ∀ a v, x.Runs w (.ok a) v → w.Kept v →
        (k a).Runs v r w' → Alters v w')
    (hRun : (x >>= k).Runs w r w') :
    Alters w w' := by
  rcases (runs_bind_iff _ _ _ _ _).mp hRun with
    ⟨f, hFirst, _⟩ | ⟨a, v, hFirst, hSecond⟩
  · exact alters_of_kept (hx _ _ _ hFirst)
  · have hKept := hx _ _ _ hFirst
    exact (hk a v hFirst hKept hSecond).of_kept hKept

/- The time limit of requests changes nothing about this. -/
theorem alters_of_limited
    {α : Type}
    {act : Act α}
    {w w' : World}
    {r : Except Failure α}
    (hAct : ∀ v r v', v.Overt → act.Runs v r v' → Alters v v')
    (hOvert : w.Overt)
    (hRun : (limited act).Runs w r w') :
    Alters w w' := by
  rw [runs_limited_iff] at hRun
  rcases (runs_under_iff _ _ _ _ _).mp hRun with
    ⟨w₁, hInside, rfl⟩
  have hAlters := hAct _ _ _ (by exact hOvert) hInside
  have hChange :=
    Context.limited_passesCancellation w.settings.requestTimeout
  exact
    ⟨⟨hAlters.later.toAlike.of_under hChange,
        hAlters.later.rules⟩,
      hAlters.altered⟩

------------------------------------------------------------
-- Operations
------------------------------------------------------------

/- Dating items and telling about it writes dates only. -/
theorem runs_dating
    {α : Type}
    {plan : StudyPlan}
    {items : List ScheduleItem}
    {weekdays : List Int}
    {k : DateRun → Act α}
    {w w' : World}
    {r : Except Failure α}
    (hRun :
      (applyDates plan items weekdays >>= k).Runs w r w')
    (hk : ∀ run, (k run).Keeps) :
    ∃ writes, w.Later w' ∧
      w'.tables = w.tables.redated writes := by
  rcases (runs_bind_iff _ _ _ _ _).mp hRun with
    ⟨f, hDates, _⟩ | ⟨run, w₁, hDates, hTelling⟩
  · rcases runs_applyDates_writes hDates with ⟨_, _, h, _⟩
    cases h
  · rcases runs_applyDates_writes hDates with
      ⟨_, writes, _, _, _, hWrote⟩
    have hKept := hk run _ _ _ hTelling
    exact ⟨writes, hWrote.toLater.trans hKept.toLater,
      hKept.tables.trans hWrote.tables⟩

/- Weekdays are stored, or nothing is written. -/
theorem runs_saveWeekdays_cases
    {choice : WeekdayChoice}
    {w w' : World}
    {r : Except Failure Unit}
    (hOvert : w.Overt)
    (hRun :
      (Records.saveWeekdays (some choice)).Runs w r w') :
    ((∃ f, r = .error f) ∧ w.Kept w') ∨
      (r = .ok () ∧ ∃ moment,
        w.Wrote
          (w.tables.chooseWeekdays
            { choice with updatedAt := moment })
          w') := by
  by_cases hPlan : choice.planId = ""
  · unfold Records.saveWeekdays at hRun
    simp only [hPlan, beq_self_eq_true, if_true] at hRun
    rcases (runs_bind_iff _ _ _ _ _).mp hRun with
      ⟨f, hThrow, rfl⟩ | ⟨_, _, hThrow, _⟩
    · rcases (runs_throw_iff _ _ _ _).mp hThrow with ⟨_, rfl⟩
      exact Or.inl ⟨⟨f, rfl⟩, World.Kept.refl _⟩
    · cases ((runs_throw_iff _ _ _ _).mp hThrow).1
  · rcases Records.runs_saveWeekdays hPlan hOvert hRun with
      ⟨f, hError, _, hKept⟩ | hOk
    · exact Or.inl ⟨⟨f, hError⟩, hKept⟩
    · exact Or.inr hOk

/- Choosing weekdays writes them, and dates. -/
theorem runs_setWeekdays
    {planId owner : String}
    {weekdays : List Int}
    {w w' : World}
    {r : Except Failure WeekdaysView}
    (hOvert : w.Overt)
    (hRun : (setWeekdays planId owner weekdays).Runs w r w') :
    Alters w w' := by
  unfold setWeekdays at hRun
  refine alters_of_limited ?_ hOvert hRun
  clear hRun hOvert
  intro w r w' hOvert hRun
  split at hRun
  · rcases (runs_throw_iff _ _ _ _).mp hRun with ⟨_, rfl⟩
    exact alters_of_kept (World.Kept.refl _)
  rename_i days hNormalized
  refine alters_bind (ownedPlan_keeps _ _) ?_ hRun
  intro plan v hOwned hKept hSaving
  rcases runs_ownedPlan hOwned with ⟨p, hp, _, _, rfl⟩
  rw [← show v.tables = w.tables from hKept.tables] at hp
  have hOvert₁ := hKept.overt hOvert
  rcases (runs_restating_bind_iff _ _ _ _ _ _).mp hSaving with
    ⟨f, hSave, _⟩ | ⟨_, u, hSave, hListing⟩
  · rcases runs_saveWeekdays_cases hOvert₁ hSave with
      ⟨_, hSame⟩ | ⟨h, _⟩
    · exact alters_of_kept hSame
    · cases h
  rcases runs_saveWeekdays_cases hOvert₁ hSave with
    ⟨⟨_, h⟩, _⟩ | ⟨_, moment, hSaved⟩
  · cases h
  have hOvert₂ := hSaved.overt hOvert₁
  have hPlan : p.id ∈ v.tables.plans.map (·.id) :=
    List.mem_map_of_mem hp
  have hDays := normalizeWeekdays_valid hNormalized
  -- the weekdays are stored; dates follow unless the items cannot be read
  have hEnd :
      ∃ writes, u.Later w' ∧
        w'.tables = u.tables.redated writes := by
    rcases (runs_bind_iff _ _ _ _ _).mp hListing with
      ⟨f, hItems, _⟩ | ⟨items, x, hItems, hDating⟩
    · have hRead := itemsOf_keeps _ _ _ _ hItems
      exact ⟨[], hRead.toLater, hRead.tables⟩
    · have hRead := itemsOf_keeps _ _ _ _ hItems
      have hDated := runs_dating hDating
      rcases hDated (by
          intro run
          have hTelling :=
            (Aside.note .info
                "weekday distribution updated").keeps.bind
              (fun _ =>
                Keeps.pure
                  (WeekdaysView.mk p.asRead.id days false run.updated))
          split
          · exact (Aside.note _ _).keeps.bind (fun _ => hTelling)
          · exact hTelling) with
        ⟨writes, hLater, hTables⟩
      rw [show x.tables = u.tables from hRead.tables] at hTables
      exact ⟨writes, hRead.toLater.trans hLater, hTables⟩
  rcases hEnd with ⟨writes, hLater, hTables⟩
  refine ⟨hSaved.toLater.trans hLater, ?_⟩
  rw [hTables, hSaved.tables]
  exact .weekdays ⟨p.id, some days, moment⟩ hPlan hDays writes

/- Dating items anew writes dates. -/
theorem runs_recalculateDates
    {planId owner : String}
    {w w' : World}
    {r : Except Failure RecalculationView}
    (hOvert : w.Overt)
    (hRun : (recalculateDates planId owner).Runs w r w') :
    Alters w w' := by
  unfold recalculateDates at hRun
  refine alters_of_limited ?_ hOvert hRun
  clear hRun hOvert
  intro w r w' hOvert hRun
  refine alters_bind (ownedPlan_keeps _ _) ?_ hRun
  intro plan w₁ _ hKept₁ hReading
  refine alters_bind (effectiveWeekdays_keeps _) ?_ hReading
  intro days w₂ _ hKept₂ hListing
  refine alters_bind (itemsOf_keeps _) ?_ hListing
  intro items w₃ _ hKept₃ hDating
  have hDated := runs_dating hDating
  rcases hDated (by
      intro run
      split
      · exact Keeps.throw _
      · exact Keeps.pure _) with
    ⟨writes, hLater, hTables⟩
  refine ⟨hLater, ?_⟩
  rw [hTables]
  exact .dates writes

/- Completed items have a moment of completion, and no others. -/
theorem runs_completionMoment
    {completed : Bool}
    {moment : Option Timestamp}
    {w w' : World}
    (hRun : (completionMoment completed).Runs w (.ok moment) w') :
    moment.isSome = completed := by
  cases completed with
  | true =>
      rcases (runs_map_iff _ _ _ _ _).mp hRun with ⟨o, _, hOk⟩
      cases o with
      | error f => cases hOk
      | ok now =>
          cases hOk
          rfl
  | false =>
      cases ((runs_pure_iff _ _ _ _).mp hRun).1
      rfl

theorem completionMoment_aside
    (completed : Bool) :
    (completionMoment completed).Aside := by
  unfold completionMoment
  split
  · exact Aside.now.map some
  · exact Aside.pure none

/- Marking an item and telling about it writes its mark only. -/
theorem runs_marking
    {α : Type}
    {planId id : String}
    {completed : Bool}
    {moment : Option Timestamp}
    {k : Except Failure ScheduleItem → Act α}
    {w w' : World}
    {r : Except Failure α}
    (hOvert : w.Overt)
    (hRun :
      (attempt (Records.setItemCompleted planId id completed
        moment) >>= k).Runs w r w')
    (hMoment : moment.isSome = completed)
    (hk : ∀ o, (k o).Keeps) :
    Alters w w' := by
  rcases (runs_attempt_bind_iff _ _ _ _ _).mp hRun with
    ⟨o, w₁, hSet, hTelling⟩
  have hEnd := hk o _ _ _ hTelling
  rcases Records.runs_fetchOne hOvert hSet with
    ⟨f, _, hRefused⟩ | ⟨hWrote, _⟩
  · exact alters_of_kept (hRefused.kept.trans hEnd)
  · refine Alters.kept ⟨hWrote.toLater, ?_⟩ hEnd
    rw [hWrote.tables]
    exact .completion planId id completed moment hMoment

/- Marking an item writes its mark. -/
theorem runs_completeItem
    {planId owner itemId : String}
    {completed : Bool}
    {w w' : World}
    {r : Except Failure ScheduleItem}
    (hOvert : w.Overt)
    (hRun :
      (completeItem planId owner itemId completed).Runs w r w') :
    Alters w w' := by
  refine alters_bind (ownedPlan_keeps _ _) ?_ hRun
  intro plan w₁ _ hKept₁ hTiming
  refine alters_bind (completionMoment_aside _).keeps ?_ hTiming
  intro moment w₂ hTime hKept₂ hMarking
  have hMarked :=
    runs_marking ((hKept₁.trans hKept₂).overt hOvert) hMarking
  apply hMarked (runs_completionMoment hTime)
  intro o
  cases o with
  | ok item => exact Keeps.pure item
  | error f =>
      simp only
      split
      · exact (Aside.throw_bind _ _).keeps
      · exact Keeps.throw _

/- Deleting a plan deletes it with all that names it. -/
theorem runs_deletePlan
    {planId owner : String}
    {w w' : World}
    {r : Except Failure Unit}
    (hRun : (deletePlan planId owner).Runs w r w') :
    Alters w w' := by
  refine alters_bind (ownedPlan_keeps _ _) ?_ hRun
  intro plan w₁ _ hKept₁ hDeleting
  rcases (runs_attempt_bind_iff _ _ _ _ _).mp hDeleting with
    ⟨o, w₂, hDelete, hTelling⟩
  have hEnd : w₂.Kept w' := by
    cases o with
    | ok _ => exact (Aside.note _ _).keeps _ _ _ hTelling
    | error f =>
        refine Aside.keeps ?_ _ _ _ hTelling
        simp only
        split
        · exact Aside.throw_bind _ _
        · exact Aside.throw _
  rcases Records.runs_deletePlan hDelete with
    hKept | hWrote
  · exact alters_of_kept (hKept.trans hEnd)
  · refine Alters.kept ⟨hWrote.toLater, ?_⟩ hEnd
    rw [hWrote.tables]
    exact .deletion _

/- A job does what dating anew does. -/
theorem runs_handleDateJob
    {job : DateJob}
    {w w' : World}
    {r : Except Failure Unit}
    (hOvert : w.Overt)
    (hRun : (handleDateJob job).Runs w r w') :
    Alters w w' := by
  rcases (runs_attempt_bind_iff _ _ _ _ _).mp hRun with
    ⟨o, w₁, hDates, hTelling⟩
  have hEnd : w₁.Kept w' := by
    refine Aside.keeps ?_ _ _ _ hTelling
    cases o with
    | error f =>
        simp only
        split
        · exact Aside.pure _
        · exact Aside.throw _
    | ok view =>
        simp only
        split
        · exact Aside.note _ _
        · exact Aside.throw_bind _ _
  exact (runs_recalculateDates hOvert hDates).kept hEnd

end Timetable.Service
