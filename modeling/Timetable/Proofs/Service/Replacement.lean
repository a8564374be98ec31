import Timetable.Proofs.Store.Records
import Timetable.Service.Persistence

/-
  This file shows that the plan of an owner is replaced in
  whole or not at all.

  Key definitions include:
    * `Store.StudyPlan.core`
    * `Store.StudyPlan.KeptAs`
    * `Store.Tables.replaced`

  Main theorems include:
    * `Service.createPlan_advances`
    * `Service.writePlan_advances`
    * `Service.runs_replacePlan`
    * `Service.runs_persist`
-/

namespace Timetable

namespace Store

/-
  What a row says about a plan in any case: the columns that
  every revision of the store knows, without the time of the
  last change.
-/
def StudyPlan.core (p : StudyPlan) : StudyPlan :=
  { Tables.corePlan p with updatedAt := .unset }

theorem StudyPlan.core_id
    {p q : StudyPlan}
    (h : p.core = q.core) :
    p.id = q.id := by
  have hId := congrArg StudyPlan.id h
  exact hId

theorem StudyPlan.core_ownerId
    {p q : StudyPlan}
    (h : p.core = q.core) :
    p.ownerId = q.ownerId := by
  have hOwner := congrArg StudyPlan.ownerId h
  exact hOwner

/-
  A row stands for a plan that was to be stored, and `p` is
  what is answered.  Where there are no faults the row is all
  of it.
-/
structure StudyPlan.KeptAs
    (faultless : Prop)
    (plan p row : StudyPlan) : Prop where
  restates : p.Restates plan
  core : row.core = p.core
  whole : faultless → row = p

theorem StudyPlan.KeptAs.mono
    {faultless faultless' : Prop}
    {plan p row : StudyPlan}
    (h : StudyPlan.KeptAs faultless plan p row)
    (hImp : faultless' → faultless) :
    StudyPlan.KeptAs faultless' plan p row :=
  ⟨h.restates, h.core, fun hNone => h.whole (hImp hNone)⟩

theorem StudyPlan.KeptAs.ownerId
    {faultless : Prop}
    {plan p row : StudyPlan}
    (h : StudyPlan.KeptAs faultless plan p row) :
    row.ownerId = plan.ownerId :=
  (StudyPlan.core_ownerId h.core).trans h.restates.ownerId

/- The tables in which a plan stands in place of those of its owner. -/
def Tables.replaced
    (row : StudyPlan)
    (items : List ScheduleItem)
    (choice : WeekdayChoice)
    (t : Tables) : Tables :=
  (((t.deletePlans (fun p => p.ownerId == row.ownerId)).insertPlan
    row).insertItems items).chooseWeekdays choice

/- Only the row of the plan itself is patched. -/
theorem Tables.patchPlan_insertPlan
    {p row : StudyPlan}
    {t : Tables}
    (hNew : ∀ q ∈ t.plans, q.id ≠ p.id)
    (hRow : row.id = p.id) :
    (t.insertPlan row).patchPlan p =
      t.insertPlan (patchRow p row) := by
  have hPlans :
      t.plans.map (fun q =>
        if q.id == p.id then patchRow p q else q) =
        t.plans.map (fun q => q) := by
    apply List.map_congr_left
    intro q hq
    simp [hNew q hq]
  unfold Tables.patchPlan Tables.insertPlan
  rw [List.map_append, hPlans, List.map_id']
  simp [hRow]

end Store

namespace Service

open Store Act

------------------------------------------------------------
-- Creating a Plan
------------------------------------------------------------

/- The extended columns of a plan are written or not. -/
theorem wrote_patched
    {p : StudyPlan}
    {moment : Timestamp}
    {t : Tables}
    {w w₁ w' : World}
    (hNew : ∀ q ∈ t.plans, q.id ≠ p.id)
    (hInserted : w.Wrote (t.insertCore p) w₁)
    (hPatched :
      w₁.Wrote w₁.tables w' ∨
        w₁.Wrote
          (w₁.tables.patchPlan { p with updatedAt := moment })
          w') :
    ∃ row, row.core = p.core ∧ w.Wrote (t.insertPlan row) w' := by
  rw [hInserted.tables] at hPatched
  rcases hPatched with hSame | hPatched
  · exact ⟨Tables.corePlan p, rfl, hInserted.trans hSame⟩
  · have hRow :
        (t.insertCore p).patchPlan { p with updatedAt := moment } =
          t.insertPlan
            (Tables.patchRow { p with updatedAt := moment }
              (Tables.corePlan p)) :=
      Tables.patchPlan_insertPlan hNew rfl
    rw [hRow] at hPatched
    refine ⟨_, ?_, hInserted.trans hPatched⟩
    rfl

/- A reduced plan is created with one row, or not at all. -/
theorem runs_createReducedPlan
    {plan : StudyPlan}
    {w w' : World}
    {r : Except Failure StudyPlan}
    (hId : plan.id ≠ "")
    (hOwner : plan.ownerId ≠ "")
    (hNew : ∀ q ∈ w.tables.plans, q.id ≠ plan.id)
    (hOvert : w.Overt)
    (hRun : (createReducedPlan plan).Runs w r w') :
    (∃ f, r = .error f ∧ w.Held w') ∨
      ∃ p row, r = .ok p ∧ p.Restates plan ∧ row.core = p.core ∧
        w.Wrote (w.tables.insertPlan row) w' := by
  rcases (runs_restating_bind_iff _ _ _ _ _ _).mp hRun with
    ⟨g, hCore, rfl⟩ | ⟨⟨p, o⟩, w₁, hCore, hAnswer⟩
  · rcases Records.runs_prepared hId hOwner hOvert hCore with
      ⟨_, _, h, _⟩
    cases h
  rcases Records.runs_prepared hId hOwner hOvert hCore with
    ⟨_, _, h, hRestates, hOutcome⟩
  cases h
  have hSameId := hRestates.id
  rcases hOutcome with ⟨rfl, hInserted⟩ | ⟨g, rfl, _, _, hOr⟩
  · rcases (runs_restating_bind_iff _ _ _ _ _ _).mp hAnswer with
      ⟨g, hResume, rfl⟩ | ⟨_, w₂, hResume, hPatching⟩
    · cases ((runs_resume_iff _ _ _ _).mp hResume).1
    rcases (runs_resume_iff _ _ _ _).mp hResume with ⟨_, rfl⟩
    rcases (runs_attempt_bind_iff _ _ _ _ _).mp hPatching with
      ⟨o, w₃, hPatch, hRest⟩
    rcases Records.runs_patchPlan (by rw [hSameId]; exact hId)
        (hInserted.overt hOvert) hPatch with
      ⟨moment, o, rfl, hPatched⟩
    rw [← hSameId] at hNew
    rcases wrote_patched hNew hInserted hPatched with
      ⟨row, hRow, hRowWrote⟩
    have hEnd :
        r = .ok { p with updatedAt := moment } ∧ w₃.Kept w' := by
      cases o with
      | ok u =>
          rcases (runs_pure_iff _ _ _ _).mp hRest with ⟨rfl, rfl⟩
          exact ⟨rfl, World.Kept.refl w'⟩
      | error g =>
          rcases runs_note_bind hRest with ⟨w₄, hKept, hRest⟩
          rcases (runs_pure_iff _ _ _ _).mp hRest with ⟨rfl, rfl⟩
          exact ⟨rfl, hKept⟩
    have hAll := hRowWrote.trans hEnd.2.wrote
    rw [hRowWrote.tables] at hAll
    refine Or.inr ⟨{ p with updatedAt := moment }, row, hEnd.1,
      ?_, hRow, hAll⟩
    rcases hRestates with ⟨created, updated, rfl⟩
    exact ⟨created, moment, rfl⟩
  · have hHeld : w.Held w₁ := by
      rcases hOr with hSame | ⟨_, hWrote⟩
      · exact hSame.toHeld
      · exact hWrote.toHeld
    rcases (runs_restating_bind_iff _ _ _ _ _ _).mp hAnswer with
      ⟨e, hResume, rfl⟩ | ⟨_, _, hResume, _⟩
    · rcases (runs_resume_iff _ _ _ _).mp hResume with ⟨_, rfl⟩
      exact Or.inl ⟨_, rfl, hHeld⟩
    · cases ((runs_resume_iff _ _ _ _).mp hResume).1

/-
  A plan is created with one row, or not at all: if the row
  was refused for columns that the store does not know, it is
  inserted with the columns that it knows.
-/
theorem createPlan_advances
    {plan : StudyPlan}
    {w : World}
    (hId : plan.id ≠ "")
    (hOwner : plan.ownerId ≠ "")
    (hNew : ∀ q ∈ w.tables.plans, q.id ≠ plan.id)
    (hOvert : w.Overt) :
    (createPlan plan).Advances w
      (fun p v => ∃ row,
        StudyPlan.KeptAs (w.database.rules = []) plan p row ∧
        w.Wrote (w.tables.insertPlan row) v) := by
  intro r w' hRun
  rcases (runs_restating_bind_iff _ _ _ _ _ _).mp hRun with
    ⟨f, hCreate, rfl⟩ | ⟨⟨p, o⟩, w₁, hCreate, hRest⟩
  · rcases Records.runs_prepared hId hOwner hOvert hCreate with
      ⟨_, _, h, _⟩
    cases h
  rcases Records.runs_prepared hId hOwner hOvert hCreate with
    ⟨_, _, h, hRestates, hOutcome⟩
  cases h
  rcases hOutcome with
    ⟨rfl, hWrote⟩ | ⟨f, rfl, hRestless, hFaultless, hOr⟩
  · rcases (runs_pure_iff _ _ _ _).mp hRest with ⟨rfl, rfl⟩
    exact Or.inr ⟨p, rfl, p, ⟨hRestates, rfl, fun _ => rfl⟩, hWrote⟩
  simp only at hRest
  split at hRest
  · rename_i hTransient
    -- the row was refused, so that none is in the table yet
    have hSame : w.Wrote w.tables w₁ := by
      rcases hOr with hSame | ⟨hPlain, _⟩
      · exact hSame
      · rw [hPlain] at hTransient
        cases hTransient
    rcases runs_note_bind hRest with ⟨w₂, hNoted, hReduced⟩
    have hThere := hSame.trans hNoted.wrote
    rw [hSame.tables] at hThere
    rw [← hRestates.id, ← hThere.tables] at hNew
    rw [← hRestates.id] at hId
    rw [← hRestates.ownerId] at hOwner
    rcases runs_createReducedPlan hId hOwner hNew
        (hThere.overt hOvert) hReduced with
      ⟨g, rfl, hHeld⟩ |
        ⟨q, row, rfl, hAgain, hRow, hWrote⟩
    · exact Or.inl ⟨g, rfl, hRestless, hThere.toHeld.trans hHeld⟩
    · rw [hThere.tables] at hWrote
      refine Or.inr ⟨q, rfl, row,
        ⟨hAgain.trans hRestates, hRow, ?_⟩, hThere.trans hWrote⟩
      intro hNone
      rw [hFaultless hNone] at hTransient
      cases hTransient
  · have hHeld : w.Held w₁ := by
      rcases hOr with hSame | ⟨_, hWrote⟩
      · exact hSame.toHeld
      · exact hWrote.toHeld
    rcases (runs_bind_iff _ _ _ _ _).mp hRest with
      ⟨g, hThrow, rfl⟩ | ⟨_, _, hThrow, _⟩
    · rcases (runs_throw_iff _ _ _ _).mp hThrow with ⟨_, rfl⟩
      exact Or.inl ⟨g, rfl, hRestless, hHeld⟩
    · cases ((runs_throw_iff _ _ _ _).mp hThrow).1

------------------------------------------------------------
-- Replacing a Plan
------------------------------------------------------------

/- A plan takes the place of those of its owner. -/
theorem writePlan_advances
    {plan : StudyPlan}
    {items : List ScheduleItem}
    {weekdays : List Int}
    {w : World}
    (hId : plan.id ≠ "")
    (hOwner : plan.ownerId ≠ "")
    (hNew : ∀ q ∈ w.tables.plans, q.id ≠ plan.id)
    (hItems : ∀ i ∈ items, i.id ≠ "" ∧ i.planId = plan.id)
    (hOvert : w.Overt) :
    (writePlan plan items weekdays).Advances w
      (fun stored v => ∃ row moment, stored.2 = items ∧
        StudyPlan.KeptAs (w.database.rules = []) plan stored.1 row ∧
        w.Wrote
          (w.tables.replaced row items
            ⟨plan.id, some weekdays, moment⟩)
          v) := by
  unfold writePlan
  have hDelete :=
    Records.deletePlansOfOwner_advances plan.ownerId hOvert
  apply ((hDelete.restating _).discard).bind
  · intro _ v hDeleted
    exact hDeleted.toHeld
  intro _ v hDeleted
  have hNewLeft : ∀ q ∈ v.tables.plans, q.id ≠ plan.id := by
    rw [hDeleted.tables]
    intro q hq
    exact hNew q (List.mem_filter.mp hq).1
  apply (createPlan_advances hId hOwner hNewLeft
    (hDeleted.overt hOvert)).bind
  · rintro p u ⟨row, _, hCreated⟩
    exact hCreated.toHeld
  rintro p u ⟨row, hKeptAs, hCreated⟩
  rw [hDeleted.tables] at hCreated
  have hSameId := hKeptAs.restates.id
  have hThere := hDeleted.trans hCreated
  -- the items name the plan already
  have hSameItems :
      items.map (fun i => { i with planId := p.id }) = items := by
    have hMap :
        items.map (fun i => { i with planId := p.id }) =
          items.map (fun i => i) := by
      apply List.map_congr_left
      intro i hi
      rw [hSameId, ← (hItems i hi).2]
    rw [hMap, List.map_id']
  rw [hSameItems]
  have hComplete : ∀ i ∈ items, i.id ≠ "" ∧ i.planId ≠ "" := by
    intro i hi
    rcases hItems i hi with ⟨hItem, hPlan⟩
    exact ⟨hItem, by rw [hPlan]; exact hId⟩
  apply ((Records.insertItems_advances hComplete
    (hThere.overt hOvert)).restating _).bind
  · rintro _ x ⟨_, hInserted⟩
    exact hInserted.toHeld
  rintro _ x ⟨rfl, hInserted⟩
  rw [hThere.tables] at hInserted
  replace hThere := hThere.trans hInserted
  rw [hSameId]
  have hSave :
      (Records.saveWeekdays
        (some ⟨plan.id, some weekdays, .unset⟩)).Advances x _ :=
    Records.saveWeekdays_advances hId (hThere.overt hOvert)
  apply (hSave.restating _).bind
  · rintro _ y ⟨_, hSaved⟩
    exact hSaved.toHeld
  rintro _ y ⟨moment, hSaved⟩ r w' hRun
  rcases (runs_pure_iff _ _ _ _).mp hRun with ⟨rfl, rfl⟩
  rw [hThere.tables] at hSaved
  refine Or.inr ⟨_, rfl, row, moment, rfl,
    hKeptAs.mono hDeleted.rules_nil, ?_⟩
  unfold Tables.replaced
  rw [hKeptAs.ownerId]
  exact hThere.trans hSaved

/-
  The statements of the transaction are all carried out and
  kept, or else the tables at its start can be returned to.
-/
theorem runs_replacePlan
    {plan : StudyPlan}
    {items : List ScheduleItem}
    {weekdays : List Int}
    {origin : Tables}
    {w w' : World}
    {r : Except Failure (StudyPlan × List ScheduleItem)}
    (hId : plan.id ≠ "")
    (hOwner : plan.ownerId ≠ "")
    (hNew : ∀ q ∈ w.tables.plans, q.id ≠ plan.id)
    (hItems : ∀ i ∈ items, i.id ≠ "" ∧ i.planId = plan.id)
    (hOvert : w.Overt)
    (hOrigin : w.database.origin = some origin)
    (hRun : (replacePlan plan items weekdays).Runs w r w') :
    (∃ f, r = .error f ∧ ¬ w.Calm ∧ w.Later w' ∧
      w'.database.origin.getD w'.tables = origin) ∨
      ∃ p row moment, r = .ok (p, items) ∧
        StudyPlan.KeptAs (w.database.rules = []) plan p row ∧
        w.Later w' ∧
        w'.tables =
          w.tables.replaced row items
            ⟨plan.id, some weekdays, moment⟩ := by
  have hUndone :
      ∀ v, w.Held v → v.database.origin.getD v.tables = origin := by
    intro v hHeld
    rw [hHeld.origin, hOrigin]
    rfl
  have hWrite :
      (writePlan plan items weekdays).Advances w _ :=
    writePlan_advances hId hOwner hNew hItems hOvert
  rcases (runs_bind_iff _ _ _ _ _).mp hRun with
    ⟨f, hWriting, rfl⟩ | ⟨⟨p, stored⟩, w₁, hWriting, hEnding⟩
  · rcases hWrite _ _ hWriting with
      ⟨_, _, hRestless, hHeld⟩ | ⟨_, h, _⟩
    · exact Or.inl ⟨f, rfl, hRestless, hHeld.toLater,
        hUndone w' hHeld⟩
    · cases h
  rcases hWrite _ _ hWriting with
    ⟨_, h, _⟩ | ⟨_, h, row, moment, rfl, hKeptAs, hWrote⟩
  · cases h
  cases h
  rcases (runs_restating_bind_iff _ _ _ _ _ _).mp hEnding with
    ⟨f, hCommit, rfl⟩ | ⟨_, w₂, hCommit, hRest⟩
  · rcases Records.runs_commit hCommit with
      ⟨_, _, hRestless, hEnded⟩ | ⟨h, _⟩
    · have hRestless₀ : ¬ w.Calm :=
        fun hCalm => hRestless (hWrote.calm hCalm)
      rcases hEnded with hHeld | ⟨hLater, hClosed, hTables⟩
      · have hAll := hWrote.toHeld.trans hHeld
        exact Or.inl ⟨_, rfl, hRestless₀, hAll.toLater,
          hUndone w' hAll⟩
      · refine Or.inl ⟨_, rfl, hRestless₀,
          hWrote.toLater.trans hLater, ?_⟩
        rw [hClosed, hTables]
        exact hUndone w₁ hWrote.toHeld
    · cases h
  · rcases Records.runs_commit hCommit with
      ⟨_, h, _⟩ | ⟨_, hLater, hTables⟩
    · cases h
    · rcases (runs_pure_iff _ _ _ _).mp hRest with ⟨rfl, rfl⟩
      exact Or.inr ⟨p, row, moment, rfl, hKeptAs,
        hWrote.toLater.trans hLater,
        hTables.trans hWrote.tables⟩

/- What a transaction does that is not kept is undone. -/
theorem runs_transact
    {plan : StudyPlan}
    {items : List ScheduleItem}
    {weekdays : List Int}
    {w w' : World}
    {r : Except Failure (StudyPlan × List ScheduleItem)}
    (hId : plan.id ≠ "")
    (hOwner : plan.ownerId ≠ "")
    (hNew : ∀ q ∈ w.tables.plans, q.id ≠ plan.id)
    (hItems : ∀ i ∈ items, i.id ≠ "" ∧ i.planId = plan.id)
    (hOvert : w.Overt)
    (hRun : (transact plan items weekdays).Runs w r w') :
    (∃ f, r = .error f ∧ ¬ w.Calm ∧ w.Later w' ∧
      w'.tables = w.tables) ∨
      ∃ p row moment, r = .ok (p, items) ∧
        StudyPlan.KeptAs (w.database.rules = []) plan p row ∧
        w.Later w' ∧
        w'.tables =
          w.tables.replaced row items
            ⟨plan.id, some weekdays, moment⟩ := by
  rcases (runs_restating_bind_iff _ _ _ _ _ _).mp hRun with
    ⟨f, hStart, rfl⟩ | ⟨_, w₁, hStart, hInside⟩
  · rcases Records.runs_start hOvert hStart with
      ⟨_, _, hRefused⟩ | ⟨h, _⟩
    · exact Or.inl ⟨_, rfl, hRefused.restless,
        hRefused.kept.toLater, hRefused.kept.tables⟩
    · cases h
  rcases Records.runs_start hOvert hStart with
    ⟨_, h, _⟩ | ⟨_, hLater, hSame, hOrigin⟩
  · cases h
  rw [← hSame] at hNew
  rcases Records.runs_inTransaction hInside with
    ⟨a, rfl, hReplace⟩ | ⟨f, w₂, rfl, hReplace, hUndo, hTables⟩
  · rcases runs_replacePlan hId hOwner hNew hItems
        (hLater.overt hOvert) hOrigin hReplace with
      ⟨_, h, _⟩ | ⟨p, row, moment, h, hKeptAs, hRest, hReplaced⟩
    · cases h
    · rw [hSame] at hReplaced
      exact Or.inr ⟨p, row, moment, h,
        hKeptAs.mono hLater.rules_nil, hLater.trans hRest,
        hReplaced⟩
  · rcases runs_replacePlan hId hOwner hNew hItems
        (hLater.overt hOvert) hOrigin hReplace with
      ⟨_, _, hRestless, hRest, hUndone⟩ | ⟨_, _, _, h, _⟩
    · refine Or.inl ⟨f, rfl, ?_, (hLater.trans hRest).trans hUndo,
        hTables.trans hUndone⟩
      exact fun hCalm => hRestless (hLater.calm hCalm)
    · cases h

/-
  A plan is stored in place of those of its owner, or else
  nothing is changed.  In a calm world where transactions can
  be opened it is stored.
-/
theorem runs_persist
    {plan : StudyPlan}
    {items : List ScheduleItem}
    {weekdays : List Int}
    {w w' : World}
    {r : Except Failure (StudyPlan × List ScheduleItem)}
    (hId : plan.id ≠ "")
    (hOwner : plan.ownerId ≠ "")
    (hNew : ∀ q ∈ w.tables.plans, q.id ≠ plan.id)
    (hItems : ∀ i ∈ items, i.id ≠ "" ∧ i.planId = plan.id)
    (hOvert : w.Overt)
    (hRun : (persist plan items weekdays).Runs w r w') :
    (∃ f, r = .error f ∧
      ¬ (w.Calm ∧ w.settings.transactional = true) ∧
      w.Later w' ∧ w'.tables = w.tables) ∨
      ∃ p row moment, r = .ok (p, items) ∧
        StudyPlan.KeptAs (w.database.rules = []) plan p row ∧
        w.Later w' ∧
        w'.tables =
          w.tables.replaced row items
            ⟨plan.id, some weekdays, moment⟩ := by
  unfold persist at hRun
  rcases (runs_bind_iff _ _ _ _ _).mp hRun with
    ⟨f, hSettings, _⟩ | ⟨settings, w₀, hSettings, hRest⟩
  · cases ((runs_settings_iff _ _ _).mp hSettings).1
  rcases (runs_settings_iff _ _ _).mp hSettings with ⟨hOk, rfl⟩
  cases hOk
  split at hRest
  · rcases runs_timed_attempt_bind hRest with
      ⟨o, nanos, w₁, hTransact, hAfterwards⟩
    have hStart := World.kept_clock w₀ (w₀.clock + clockTick)
    have hEnd : r = o ∧ w₁.Kept w' := by
      have hStop := World.kept_clock w₁ (w₁.clock + clockTick)
      simp only at hAfterwards
      split at hAfterwards
      · rcases runs_note_bind hAfterwards with
          ⟨w₂, hNoted, hMeasuring⟩
        rcases runs_measure_bind hMeasuring with
          ⟨w₃, hMeasured, hResume⟩
        rcases (runs_resume_iff _ _ _ _).mp hResume with
          ⟨rfl, rfl⟩
        exact ⟨rfl, (hStop.trans hNoted).trans hMeasured⟩
      · rcases runs_measure_bind hAfterwards with
          ⟨w₃, hMeasured, hResume⟩
        rcases (runs_resume_iff _ _ _ _).mp hResume with
          ⟨rfl, rfl⟩
        exact ⟨rfl, hStop.trans hMeasured⟩
    rcases hEnd with ⟨rfl, hKept⟩
    rcases runs_transact hId hOwner (by exact hNew) hItems
        (hStart.overt hOvert) hTransact with
      ⟨f, rfl, hRestless, hLater, hSame⟩ |
        ⟨p, row, moment, hOk, hKeptAs, hLater, hTables⟩
    · refine Or.inl ⟨f, rfl, ?_,
        (hStart.toLater.trans hLater).trans hKept.toLater,
        hKept.tables.trans hSame⟩
      exact fun h => hRestless (hStart.calm h.1)
    · exact Or.inr ⟨p, row, moment, hOk,
        hKeptAs.mono hStart.rules_nil,
        (hStart.toLater.trans hLater).trans hKept.toLater,
        hKept.tables.trans hTables⟩
  · rename_i hMissing
    rcases (runs_bind_iff _ _ _ _ _).mp hRest with
      ⟨f, hThrow, rfl⟩ | ⟨_, _, hThrow, _⟩
    · rcases (runs_throw_iff _ _ _ _).mp hThrow with ⟨_, rfl⟩
      refine Or.inl ⟨f, rfl, ?_, (World.Kept.refl _).toLater, rfl⟩
      exact fun h => hMissing h.2
    · cases ((runs_throw_iff _ _ _ _).mp hThrow).1

end Service

end Timetable
