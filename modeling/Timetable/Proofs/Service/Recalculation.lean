import Timetable.Proofs.Service.Changes
import Timetable.Proofs.Service.Days
import Timetable.Proofs.Store.Lookups

/-
  This file tells what dating the items of a plan anew does in
  a candid store, in which dates may fail to be written and
  requests may end at any time.

  Whatever became of earlier recalculations, one in which
  nothing goes wrong brings all items of the plan onto their
  days.  It writes just those dates that differ, and another
  one after it writes none.

  Key definitions include:
    * `isPassedOver`
    * `Owned`
    * `Recalculations`
    * `UniqueIds`

  Main theorems include:
    * `runs_recalculateDates_reads`
    * `runs_recalculateDates_candid`
    * `recalculations_settle`
-/

namespace Timetable.Service

open Plan Store Act

------------------------------------------------------------
-- Failures that are Passed Over
------------------------------------------------------------

/- A failure that tells a job that its plan has gone or changed hands. -/
def isPassedOver (f : Failure) : Bool :=
  f.hasCode Problem.notFound.code || f.hasCode Problem.validation.code

/- What the store fails with is not passed over. -/
theorem isPassedOver_internal
    {f : Failure}
    (message : String)
    (hBare : f.IsBare) :
    isPassedOver (.wrap .internal message f) = false := by
  simp only [isPassedOver, Failure.wrap, Failure.hasCode, hBare.codes]
  rfl

theorem isPassedOver_deadlineFailure
    {f : Failure}
    (h : isPassedOver f = false) :
    isPassedOver (deadlineFailure f) = false := by
  unfold deadlineFailure
  split
  · rcases Bool.or_eq_false_iff.mp h with ⟨hFound, hValid⟩
    simp only [isPassedOver, Failure.hasCode, hFound, hValid]
    rfl
  · exact h

------------------------------------------------------------
-- Reading a Plan
------------------------------------------------------------

/- The plan that is found under an id, and belongs to an owner. -/
structure Owned
    (planId owner : String)
    (plan : StudyPlan)
    (t : Tables) : Prop where
  found : (t.plansWithId planId).head? = some plan
  owner : plan.ownerId = owner

theorem Owned.id_eq
    {planId owner : String}
    {plan : StudyPlan}
    {t : Tables}
    (h : Owned planId owner plan t) :
    plan.id = planId := by
  have hMem := List.mem_of_mem_head? h.found
  simpa using (List.mem_filter.mp hMem).2

/- No other plan is found. -/
theorem Owned.unique
    {planId owner : String}
    {plan other : StudyPlan}
    {t : Tables}
    (h : Owned planId owner plan t)
    (hOther : Owned planId owner other t) :
    plan = other :=
  Option.some.inj (h.found.symm.trans hOther.found)

/-
  An owned plan is found, or the failure tells that there is
  none, or that something went wrong.
-/
theorem runs_ownedPlan_candid
    {planId owner : String}
    {w w' : World}
    {r : Except Failure StudyPlan}
    (hCandid : w.Candid)
    (hRun : (ownedPlan planId owner).Runs w r w') :
    (∃ f, r = .error f ∧
      if isPassedOver f then ∀ plan, ¬ Owned planId owner plan w.tables
      else owner = "" ∨ ¬ w.Calm) ∨
      ∃ plan, r = .ok plan.asRead ∧
        Owned planId owner plan w.tables := by
  unfold ownedPlan at hRun
  split at hRun
  · rename_i hEmpty
    rcases (runs_bind_iff _ _ _ _ _).mp hRun with
      ⟨f, hThrow, rfl⟩ | ⟨_, _, hThrow, _⟩
    · cases ((runs_throw_iff _ _ _ _).mp hThrow).1
      exact Or.inl ⟨_, rfl, Or.inl (by simpa using hEmpty)⟩
    · cases ((runs_throw_iff _ _ _ _).mp hThrow).1
  rcases (runs_attempt_bind_iff _ _ _ _ _).mp hRun with
    ⟨o, w₁, hFind, hDeciding⟩
  rcases Records.runs_fetchOne_candid hCandid hFind with
    ⟨f, rfl, hBare, hRestless⟩ | hFound
  · simp only [hBare.rows, Bool.false_eq_true, if_false] at hDeciding
    cases ((runs_throw_iff _ _ _ _).mp hDeciding).1
    refine Or.inl ⟨_, rfl, ?_⟩
    rw [isPassedOver_internal _ hBare]
    exact Or.inr hRestless
  have hRows :
      (Lookup.planById planId).rows
        ((Lookup.planById planId).after w.tables) =
        (w.tables.plansWithId planId).map (·.asRead) :=
    rfl
  rw [hRows] at hFound
  cases hPlans : w.tables.plansWithId planId with
  | nil =>
      rw [hPlans] at hFound
      rw [hFound] at hDeciding
      rcases (runs_bind_iff _ _ _ _ _).mp hDeciding with
        ⟨f, hThrow, rfl⟩ | ⟨_, _, hThrow, _⟩
      · cases ((runs_throw_iff _ _ _ _).mp hThrow).1
        refine Or.inl ⟨_, rfl, ?_⟩
        intro plan hOwned
        have hSome := hOwned.found
        rw [hPlans] at hSome
        cases hSome
      · cases ((runs_throw_iff _ _ _ _).mp hThrow).1
  | cons p rest =>
      rw [hPlans] at hFound
      rw [hFound] at hDeciding
      have hHead : (w.tables.plansWithId planId).head? = some p := by
        rw [hPlans]
        rfl
      simp only [List.map_cons] at hDeciding
      split at hDeciding
      · rename_i hOther
        rcases (runs_bind_iff _ _ _ _ _).mp hDeciding with
          ⟨f, hThrow, rfl⟩ | ⟨_, _, hThrow, _⟩
        · cases ((runs_throw_iff _ _ _ _).mp hThrow).1
          refine Or.inl ⟨_, rfl, ?_⟩
          intro plan hOwned
          have hSame : p = plan :=
            Option.some.inj (hHead.symm.trans hOwned.found)
          have hOwner : p.asRead.ownerId = owner := by
            rw [hSame]
            exact hOwned.owner
          simp [hOwner] at hOther
        · cases ((runs_throw_iff _ _ _ _).mp hThrow).1
      · rename_i hOwner
        cases ((runs_pure_iff _ _ _ _).mp hDeciding).1
        have hOwner' : p.ownerId = owner := by
          simpa [StudyPlan.asRead] using hOwner
        exact Or.inr ⟨p, rfl, hHead, hOwner'⟩

/- The weekdays of a plan are read, or something went wrong. -/
theorem runs_effectiveWeekdays_candid
    {plan : StudyPlan}
    {w w' : World}
    {r : Except Failure (List Int × Bool)}
    (hCandid : w.Candid)
    (hRun : (effectiveWeekdays plan).Runs w r w') :
    (∃ f, r = .error f ∧ isPassedOver f = false ∧ ¬ w.Calm) ∨
      ∃ isDefault, r = .ok (weekdaysOf plan w.tables, isDefault) := by
  unfold effectiveWeekdays at hRun
  rcases (runs_attempt_bind_iff _ _ _ _ _).mp hRun with
    ⟨o, w₁, hFind, hDeciding⟩
  rcases Records.runs_fetchOne_candid hCandid hFind with
    ⟨f, rfl, hBare, hRestless⟩ | hFound
  · simp only [hBare.rows, Bool.false_eq_true, if_false] at hDeciding
    cases ((runs_throw_iff _ _ _ _).mp hDeciding).1
    exact Or.inl ⟨_, rfl, isPassedOver_internal _ hBare, hRestless⟩
  have hRows :
      (Lookup.weekdaysOfPlan plan.id).rows
        ((Lookup.weekdaysOfPlan plan.id).after w.tables) =
        w.tables.choicesOfPlan plan.id :=
    rfl
  rw [hRows] at hFound
  refine Or.inr ?_
  unfold weekdaysOf
  cases hChoices : w.tables.choicesOfPlan plan.id with
  | nil =>
      rw [hChoices] at hFound
      rw [hFound] at hDeciding
      exact ⟨true, ((runs_pure_iff _ _ _ _).mp hDeciding).1⟩
  | cons choice rest =>
      rw [hChoices] at hFound
      rw [hFound] at hDeciding
      simp only at hDeciding ⊢
      cases hDays : normalizeWeekdays choice.days with
      | ok days =>
          rw [hDays] at hDeciding
          exact ⟨false, ((runs_pure_iff _ _ _ _).mp hDeciding).1⟩
      | error e =>
          rw [hDays] at hDeciding
          rcases runs_note_bind hDeciding with ⟨w₂, _, hAnswer⟩
          exact ⟨true, ((runs_pure_iff _ _ _ _).mp hAnswer).1⟩

/- The items of a plan are read, or something went wrong. -/
theorem runs_itemsOf_candid
    {planId : String}
    {w w' : World}
    {r : Except Failure (List ScheduleItem)}
    (hCandid : w.Candid)
    (hRun : (itemsOf planId).Runs w r w') :
    (∃ f, r = .error f ∧ isPassedOver f = false ∧ ¬ w.Calm) ∨
      r = .ok (w.tables.itemsOfPlan planId) := by
  rcases (runs_restating_iff _ _ _ _ _).mp hRun with
    ⟨_, hList, rfl⟩
  rcases (runs_restating_iff _ _ _ _ _).mp hList with
    ⟨o, hFetch, rfl⟩
  rcases Records.runs_fetch_candid hCandid hFetch with
    ⟨f, rfl, hBare, hRestless⟩ | rfl
  · exact Or.inl ⟨_, rfl,
      isPassedOver_internal _ (hBare.during _), hRestless⟩
  · exact Or.inr rfl

theorem ownedPlan_looks
    (planId owner : String) :
    (ownedPlan planId owner).Looks := by
  unfold ownedPlan
  split
  · exact Looks.of_aside (Aside.throw_bind _ _)
  · apply ((Records.fetchOne_looks _ (fun _ => rfl)).attempt).bind
    intro o
    apply Looks.of_aside
    cases o with
    | error f =>
        simp only
        split
        · exact Aside.throw_bind _ _
        · exact Aside.throw _
    | ok plan =>
        simp only
        split
        · exact Aside.throw_bind _ _
        · exact Aside.pure plan

theorem effectiveWeekdays_looks
    (plan : StudyPlan) :
    (effectiveWeekdays plan).Looks := by
  unfold effectiveWeekdays
  apply ((Records.fetchOne_looks _ (fun _ => rfl)).attempt).bind
  intro o
  apply Looks.of_aside
  cases o with
  | error f =>
      simp only
      split
      · exact Aside.pure _
      · exact Aside.throw _
  | ok choice =>
      simp only
      split
      · exact Aside.pure _
      · exact (Aside.note _ _).bind (fun _ => Aside.pure _)

theorem itemsOf_looks
    (planId : String) :
    (itemsOf planId).Looks :=
  ((Records.fetch_looks _ (fun _ => rfl)).restating _).restating _

------------------------------------------------------------
-- A Recalculation
------------------------------------------------------------

/- What a recalculation answers after a run over the items. -/
def answerOf (run : DateRun) : Except Failure RecalculationView :=
  match run.stopped with
  | some f =>
      .error
        (deadlineFailure
          (.wrap .internal "failed to recalculate dates" f))
  | none => .ok ⟨run.failed == 0, run.updated⟩

/-
  A recalculation reads the plan, its weekdays and its items,
  and then dates these.  If something cannot be read, nothing
  is written.
-/
theorem runs_recalculateDates_reads
    {planId owner : String}
    {w w' : World}
    {r : Except Failure RecalculationView}
    (hCandid : w.Candid)
    (hRun : (recalculateDates planId owner).Runs w r w') :
    (∃ f, r = .error f ∧ w'.tables = w.tables ∧
      if isPassedOver f then ∀ plan, ¬ Owned planId owner plan w.tables
      else owner = "" ∨ ¬ w.Calm) ∨
      ∃ plan last v v', Owned planId owner plan w.tables ∧
        (w.Calm → v.Calm) ∧ w.Looked v ∧ v.tables = w.tables ∧
        (applyDates plan.asRead (w.tables.itemsOfPlan planId)
          (weekdaysOf plan w.tables)).Runs v (.ok last) v' ∧
        w'.database = v'.database ∧ r = answerOf last := by
  unfold recalculateDates at hRun
  rw [runs_limited_iff] at hRun
  rcases (runs_under_iff _ _ _ _ _).mp hRun with ⟨u, hInside, rfl⟩
  let v : World :=
    { w with
      context := Context.limited w.settings.requestTimeout w.context }
  have hCalm : w.Calm → v.Calm :=
    fun hCalm => hCalm.limited w.context.detached
  have hCandid₀ : v.Candid := hCandid
  rcases (runs_bind_iff _ _ _ _ _).mp hInside with
    ⟨f, hOwn, rfl⟩ | ⟨found, v₁, hOwn, hReading⟩
  · have hKept := ownedPlan_keeps _ _ _ _ _ hOwn
    refine Or.inl ⟨f, rfl, hKept.tables, ?_⟩
    rcases runs_ownedPlan_candid hCandid₀ hOwn with
      ⟨_, h, hWhy⟩ | ⟨_, h, _⟩
    · cases h
      split
      · rename_i hPassed
        rw [if_pos hPassed] at hWhy
        exact hWhy
      · rename_i hPassed
        rw [if_neg hPassed] at hWhy
        exact hWhy.imp_right (fun hRestless h => hRestless (hCalm h))
    · cases h
  rcases runs_ownedPlan_candid hCandid₀ hOwn with
    ⟨_, h, _⟩ | ⟨plan, h, hOwned⟩
  · cases h
  cases h
  have hKept₁ := ownedPlan_keeps _ _ _ _ _ hOwn
  rcases (runs_bind_iff _ _ _ _ _).mp hReading with
    ⟨f, hDays, rfl⟩ | ⟨⟨weekdays, isDefault⟩, v₂, hDays, hListing⟩
  · have hKept := hKept₁.trans (effectiveWeekdays_keeps _ _ _ _ hDays)
    refine Or.inl ⟨f, rfl, hKept.tables, ?_⟩
    rcases runs_effectiveWeekdays_candid (hKept₁.candid hCandid₀)
        hDays with
      ⟨_, h, hPassed, hRestless⟩ | ⟨_, h⟩
    · cases h
      rw [hPassed]
      exact Or.inr (fun h => hRestless (hKept₁.calm (hCalm h)))
    · cases h
  rcases runs_effectiveWeekdays_candid (hKept₁.candid hCandid₀)
      hDays with
    ⟨_, h, _⟩ | ⟨_, h⟩
  · cases h
  cases h
  have hKept₂ := hKept₁.trans (effectiveWeekdays_keeps _ _ _ _ hDays)
  rcases (runs_bind_iff _ _ _ _ _).mp hListing with
    ⟨f, hItems, rfl⟩ | ⟨items, v₃, hItems, hDating⟩
  · have hKept := hKept₂.trans (itemsOf_keeps _ _ _ _ hItems)
    refine Or.inl ⟨f, rfl, hKept.tables, ?_⟩
    rcases runs_itemsOf_candid (hKept₂.candid hCandid₀) hItems with
      ⟨_, h, hPassed, hRestless⟩ | h
    · cases h
      rw [hPassed]
      exact Or.inr (fun h => hRestless (hKept₂.calm (hCalm h)))
    · cases h
  rcases runs_itemsOf_candid (hKept₂.candid hCandid₀) hItems with
    ⟨_, h, _⟩ | h
  · cases h
  cases h
  have hKept₃ := hKept₂.trans (itemsOf_keeps _ _ _ _ hItems)
  have hLooked : w.Looked v₃ :=
    ((World.looked_of_journal rfl).trans (ownedPlan_looks _ _ _ _ _ hOwn)).trans
      ((effectiveWeekdays_looks _ _ _ _ hDays).trans
        (itemsOf_looks _ _ _ _ hItems))
  rcases (runs_bind_iff _ _ _ _ _).mp hDating with
    ⟨f, hDates, _⟩ | ⟨last, v₄, hDates, hAnswering⟩
  · rcases runs_applyDates (fun h : False => h.elim) hDates with
      ⟨_, h, _⟩
    cases h
  have hRows₁ : v₁.tables = w.tables := hKept₁.tables
  have hRows₂ : v₂.tables = w.tables := hKept₂.tables
  have hId : plan.asRead.id = planId := hOwned.id_eq
  rw [hRows₁, hRows₂, hId] at hDates
  have hAnswer : r = answerOf last ∧ u = v₄ := by
    unfold answerOf
    cases hStopped : last.stopped with
    | some f =>
        rw [hStopped] at hAnswering
        exact (runs_throw_iff _ _ _ _).mp hAnswering
    | none =>
        rw [hStopped] at hAnswering
        exact (runs_pure_iff _ _ _ _).mp hAnswering
  rcases hAnswer with ⟨hAnswer, rfl⟩
  exact Or.inr ⟨plan, last, v₃, u, hOwned,
    fun h => hKept₃.calm (hCalm h), hLooked, hKept₃.tables, hDates,
    rfl, hAnswer⟩

/-
  A recalculation dates the items of the plan by the days that
  are assigned to them.  If the plan, its weekdays or its
  items cannot be read, nothing is written.
-/
theorem runs_recalculateDates_candid
    {planId owner : String}
    {w w' : World}
    {r : Except Failure RecalculationView}
    (hCandid : w.Candid)
    (hRun : (recalculateDates planId owner).Runs w r w') :
    (∃ f, r = .error f ∧ w'.tables = w.tables ∧
      if isPassedOver f then ∀ plan, ¬ Owned planId owner plan w.tables
      else owner = "" ∨ ¬ w.Calm) ∨
      ∃ plan dated last, Owned planId owner plan w.tables ∧
        daysOf plan w.tables = .ok dated ∧
        Redates w.Calm dated
          { items := w.tables.itemsOfPlan planId } w.tables last
          w'.tables ∧
        r = answerOf last := by
  rcases runs_recalculateDates_reads hCandid hRun with
    hFailed |
      ⟨plan, last, v, v', hOwned, hCalm, _, hTables, hDates, hStore,
        hAnswer⟩
  · exact Or.inl hFailed
  have hEnd : w'.tables = v'.tables := by
    unfold World.tables
    rw [hStore]
  have hDays :
      daysOf plan w.tables =
        assignDates ((w.tables.itemsOfPlan planId).map slotOf)
          plan.asRead.startDate.date (weekdaysOf plan w.tables) := by
    unfold daysOf
    rw [hOwned.id_eq]
    rfl
  rcases runs_applyDates hCalm hDates with
    ⟨_, h, _, ⟨dated, hDated, hRedates⟩ | ⟨⟨e, hError⟩, _⟩⟩
  · cases h
    rw [hTables, ← hEnd] at hRedates
    exact Or.inr ⟨plan, dated, last, hOwned, hDays.trans hDated,
      hRedates, hAnswer⟩
  · rcases daysOf_isOk plan w.tables with ⟨dated, hDated⟩
    rw [← hDays, hDated] at hError
    cases hError

/- Items that have their days are left alone. -/
theorem runs_writeDates_of_hasDay
    {dated : List DatedSlot}
    {run : DateRun}
    {w w' : World}
    {r : Except Failure DateRun}
    (hDays : ∀ d ∈ dated, hasDay run.items d.slot.id d.date = true)
    (hRun : (writeDates dated run).Runs w r w') :
    w' = w := by
  induction dated with
  | nil => exact ((runs_pure_iff _ _ _ _).mp hRun).2
  | cons d rest ih =>
      unfold writeDates at hRun
      have hGoing := (runs_get_bind_iff _ _ _ _).mp hRun
      split at hGoing
      · exact ((runs_pure_iff _ _ _ _).mp hGoing).2
      · rw [if_pos (hDays d (by simp))] at hGoing
        exact ih (fun e he => hDays e (by simp [he])) hGoing

theorem runs_applyDates_of_hasDay
    {plan : StudyPlan}
    {items : List ScheduleItem}
    {weekdays : List Int}
    {dated : List DatedSlot}
    {w w' : World}
    {r : Except Failure DateRun}
    (hDated :
      assignDates (items.map slotOf) plan.startDate.date weekdays =
        .ok dated)
    (hDays : ∀ d ∈ dated, hasDay items d.slot.id d.date = true)
    (hRun : (applyDates plan items weekdays).Runs w r w') :
    w'.database = w.database := by
  unfold applyDates at hRun
  rw [hDated] at hRun
  rcases (runs_bind_iff _ _ _ _ _).mp hRun with
    ⟨f, hWrite, _⟩ | ⟨run, w₁, hWrite, hMeasuring⟩
  · rw [runs_writeDates_of_hasDay hDays hWrite]
  have hSame := runs_writeDates_of_hasDay hDays hWrite
  rcases (runs_bind_iff _ _ _ _ _).mp hMeasuring with
    ⟨f, hMeasure, _⟩ | ⟨_, w₂, hMeasure, hAnswer⟩
  · cases ((runs_measure_iff _ _ _ _).mp hMeasure).1
  rcases (runs_measure_iff _ _ _ _).mp hMeasure with ⟨_, rfl⟩
  rcases (runs_pure_iff _ _ _ _).mp hAnswer with ⟨_, rfl⟩
  rw [hSame]

------------------------------------------------------------
-- Plans with Ids of their Own
------------------------------------------------------------

/- No two items share the id of an item of the plan. -/
structure UniqueIds
    (planId : String)
    (t : Tables) : Prop where
  nodup :
    ((t.items.filter (fun i => i.planId == planId)).map (·.id)).Nodup
  own :
    ∀ i ∈ t.items, ∀ j ∈ t.items, i.id = j.id →
      j.planId = planId → i.planId = planId

/- Ids do not depend on dates. -/
theorem UniqueIds.redated
    {planId : String}
    {t t' : Tables}
    (h : UniqueIds planId t)
    (hRedated : t.RedatedOnly planId t') :
    UniqueIds planId t' where
  nodup := by
    have hRows :=
      filter_undated hRedated.fields (fun i => i.planId == planId)
        (fun _ => rfl)
    rw [map_eq_of_undated hRows (·.id) (fun _ => rfl)]
    exact h.nodup
  own := by
    intro i hi j hj hId hPlan
    rcases exists_row_of_undated hRedated.fields hi with
      ⟨i₀, hi₀, hIdI, hPlanI⟩
    rcases exists_row_of_undated hRedated.fields hj with
      ⟨j₀, hj₀, hIdJ, hPlanJ⟩
    rw [← hPlanI]
    apply h.own i₀ hi₀ j₀ hj₀
    · rw [hIdI, hIdJ, hId]
    · rw [hPlanJ, hPlan]

theorem Owned.redated
    {planId owner : String}
    {plan : StudyPlan}
    {t t' : Tables}
    (h : Owned planId owner plan t)
    (hRedated : t.RedatedOnly planId t') :
    Owned planId owner plan t' := by
  refine ⟨?_, h.owner⟩
  unfold Tables.plansWithId
  rw [hRedated.plans]
  exact h.found

/- The items that are read of a plan have ids of their own. -/
theorem UniqueIds.itemsOfPlan_nodup
    {planId : String}
    {t : Tables}
    (h : UniqueIds planId t) :
    ((t.itemsOfPlan planId).map (·.id)).Nodup :=
  (((itemsOfPlan_perm planId t).map (·.id)).nodup_iff).mpr h.nodup

/- Days are given to the ids of the items of the plan. -/
theorem exists_item_of_dated
    {plan : StudyPlan}
    {dated : List DatedSlot}
    {t : Tables}
    (hDated : daysOf plan t = .ok dated)
    {d : DatedSlot}
    (hd : d ∈ dated) :
    ∃ i ∈ t.items, i.planId = plan.id ∧ i.id = d.slot.id := by
  have hMem := (assignDates_ids hDated).subset (List.mem_map_of_mem hd)
  rcases List.mem_map.mp hMem with ⟨i, hi, hId⟩
  rcases mem_itemsOfPlan.mp hi with ⟨hRow, hPlan⟩
  exact ⟨i, hRow, hPlan, hId⟩

------------------------------------------------------------
-- Calls
------------------------------------------------------------

section Calls

variable {planId owner : String}
variable {plan : StudyPlan}
variable {dated : List DatedSlot}
variable {w w' : World}
variable {r : Except Failure RecalculationView}

/- A call changes nothing but dates of items of the plan. -/
theorem runs_recalculateDates_redatedOnly
    (hCandid : w.Candid)
    (hUnique : UniqueIds planId w.tables)
    (hRun : (recalculateDates planId owner).Runs w r w') :
    w.tables.RedatedOnly planId w'.tables := by
  rcases runs_recalculateDates_candid hCandid hRun with
    ⟨_, _, hSame, _⟩ | ⟨plan, dated, last, hOwned, hDated, hRedates, _⟩
  · rw [hSame]
    exact Tables.RedatedOnly.refl planId w.tables
  · apply hRedates.redatedOnly
    intro d hd i hi hId
    rcases exists_item_of_dated hDated hd with ⟨j, hj, hPlan, hSlot⟩
    exact hUnique.own i hi j hj (hId.trans hSlot.symm)
      (hPlan.trans hOwned.id_eq)

/- After a call that reports success all items of the plan are on their days. -/
theorem runs_recalculateDates_success
    {updated : Nat}
    (hCandid : w.Candid)
    (hRun :
      (recalculateDates planId owner).Runs w (.ok ⟨true, updated⟩)
        w') :
    ∃ plan, Owned planId owner plan w'.tables ∧
      Dated plan w'.tables := by
  rcases runs_recalculateDates_candid hCandid hRun with
    ⟨_, h, _⟩ | ⟨plan, dated, last, hOwned, hDated, hRedates, hAnswer⟩
  · cases h
  rcases hRedates.writes with ⟨writes, _, _, hTables⟩
  have hSameDays : daysOf plan w'.tables = daysOf plan w.tables :=
    daysOf_redated hRedates.fields (by rw [hTables]; rfl)
  refine ⟨plan, ⟨?_, hOwned.owner⟩, dated, hSameDays.trans hDated, ?_⟩
  · rw [hTables]
    exact hOwned.found
  have hRead :
      ∀ i, i ∈ w.tables.itemsOfPlan planId ↔
        i ∈ w.tables.items ∧ i.planId = planId :=
    fun _ => mem_itemsOfPlan
  unfold daysOf at hDated
  rw [hOwned.id_eq] at hDated ⊢
  unfold answerOf at hAnswer
  split at hAnswer
  · cases hAnswer
  · rename_i hStopped
    rw [Except.ok.injEq, RecalculationView.mk.injEq] at hAnswer
    have hFailed : last.failed = 0 := by simpa using hAnswer.1.symm
    exact hRedates.onDays hRead hDated hStopped hFailed

/- A call in which nothing goes wrong writes just the dates that differ. -/
theorem runs_recalculateDates_calm
    (hCalm : w.Calm)
    (hOwner : owner ≠ "")
    (hOwned : Owned planId owner plan w.tables)
    (hUnique : UniqueIds planId w.tables)
    (hDated : daysOf plan w.tables = .ok dated)
    (hRun : (recalculateDates planId owner).Runs w r w') :
    r = .ok ⟨true, offDays planId dated w.tables⟩ := by
  rcases runs_recalculateDates_candid hCalm.candid hRun with
    ⟨f, _, _, hWhy⟩ | ⟨plan', dated', last, hFound, hDays, hRedates, rfl⟩
  · split at hWhy
    · exact absurd hOwned (hWhy plan)
    · rcases hWhy with hEmpty | hRestless
      · exact absurd hEmpty hOwner
      · exact absurd hCalm hRestless
  have hSame : plan' = plan :=
    hFound.unique hOwned
  subst hSame
  rw [hDated] at hDays
  cases hDays
  have hItems := hUnique.itemsOfPlan_nodup
  have hRows : ∀ d ∈ dated, ∃ i ∈ w.tables.items, i.id = d.slot.id := by
    intro d hd
    rcases exists_item_of_dated hDated hd with ⟨i, hi, _, hId⟩
    exact ⟨i, hi, hId⟩
  unfold daysOf at hDated
  rw [hOwned.id_eq] at hDated
  have hNodup : (dated.map (·.slot.id)).Nodup :=
    (assignDates_ids hDated).nodup_iff.mpr hItems
  have hCalmly : w.Calm = True := propext (iff_true_intro hCalm)
  rw [hCalmly] at hRedates
  rcases hRedates.calm_counts hNodup hRows with
    ⟨hStopped, hFailed, hUpdated⟩
  simp only [Nat.zero_add] at hUpdated
  rw [countP_hasDay_eq_offDays (itemsOfPlan_perm planId w.tables) hItems
    hDated] at hUpdated
  unfold answerOf
  rw [hStopped, hFailed, hUpdated]
  rfl

/- A call that finds all items on their days sends nothing but lookups. -/
theorem runs_recalculateDates_settled
    (hCalm : w.Calm)
    (hOwner : owner ≠ "")
    (hOwned : Owned planId owner plan w.tables)
    (hUnique : UniqueIds planId w.tables)
    (hDated : daysOf plan w.tables = .ok dated)
    (hDays : OnDays planId dated w.tables)
    (hRun : (recalculateDates planId owner).Runs w r w') :
    r = .ok ⟨true, 0⟩ ∧ w'.tables = w.tables ∧ w.Looked w' := by
  have hNone : offDays planId dated w.tables = 0 := by
    unfold offDays
    rw [List.countP_eq_zero]
    intro i hi
    rcases List.mem_filter.mp hi with ⟨hRow, hPlan⟩
    simp [hDays i hRow (by simpa using hPlan)]
  have hAnswer :=
    runs_recalculateDates_calm hCalm hOwner hOwned hUnique hDated hRun
  rw [hNone] at hAnswer
  refine ⟨hAnswer, ?_⟩
  rcases runs_recalculateDates_reads hCalm.candid hRun with
    ⟨f, h, _⟩ |
      ⟨plan', last, v, v', hFound, _, hLooked, hTables, hDates, hStore, _⟩
  · rw [hAnswer] at h
    cases h
  have hSame : plan' = plan :=
    hFound.unique hOwned
  subst hSame
  have hItems := hUnique.itemsOfPlan_nodup
  unfold daysOf at hDated
  rw [hOwned.id_eq] at hDated
  have hAll :
      ∀ d ∈ dated,
        hasDay (w.tables.itemsOfPlan planId) d.slot.id d.date = true := by
    have hCount :=
      countP_hasDay_eq_offDays (itemsOfPlan_perm planId w.tables) hItems
        hDated
    rw [hNone, List.countP_eq_zero] at hCount
    intro d hd
    simpa using hCount d hd
  have hSent := runs_applyDates_of_hasDay hDated hAll hDates
  rw [hSent] at hStore
  constructor
  · unfold World.tables
    rw [hStore]
    exact hTables
  · exact hLooked.trans (World.looked_of_journal (by rw [hStore]))

end Calls

------------------------------------------------------------
-- Sequences of Calls
------------------------------------------------------------

/-
  What calls by an owner make of the tables, one after the
  other.  Each may meet faults and ends of its own.
-/
inductive Recalculations
    (planId owner : String)
    (t : Tables) : Tables → Prop
| none : Recalculations planId owner t t
| call
    {w : World}
    (hBefore : Recalculations planId owner t w.tables)
    (hCandid : w.Candid) :
    Recalculations planId owner t
      ((recalculateDates planId owner).after w).tables

theorem Recalculations.redatedOnly
    {planId owner : String}
    {t t' : Tables}
    (h : Recalculations planId owner t t')
    (hUnique : UniqueIds planId t) :
    t.RedatedOnly planId t' := by
  induction h with
  | none => exact Tables.RedatedOnly.refl planId t
  | call _ hCandid ih =>
      exact ih.trans
        (runs_recalculateDates_redatedOnly hCandid
          (hUnique.redated ih) (runs_outcome_after _ _))

/-
  After any calls by the owner of a plan, a call changes
  nothing but dates of its items, and brings them onto their
  days if it reports success.  If nothing goes wrong it does
  so and reports how many were off their days, and then
  another such call writes nothing.
-/
theorem recalculations_settle
    {plan : StudyPlan}
    {t t₁ : Tables}
    (hFound : (t.plansWithId plan.id).head? = some plan)
    (hOwner : plan.ownerId ≠ "")
    (hUnique : UniqueIds plan.id t)
    (hCalls : Recalculations plan.id plan.ownerId t t₁) :
    ∃ dated, daysOf plan t₁ = .ok dated ∧
      t.RedatedOnly plan.id t₁ ∧
      (∀ w : World, w.Candid → w.tables = t₁ →
        let call := recalculateDates plan.id plan.ownerId
        t₁.RedatedOnly plan.id (call.after w).tables ∧
        ∀ updated, call.outcome w = .ok ⟨true, updated⟩ →
          Dated plan (call.after w).tables) ∧
      (∀ w : World, w.Calm → w.tables = t₁ →
        let call := recalculateDates plan.id plan.ownerId
        call.outcome w = .ok ⟨true, offDays plan.id dated t₁⟩ ∧
        Dated plan (call.after w).tables ∧
        ∀ v : World, v.Calm → v.tables = (call.after w).tables →
          call.outcome v = .ok ⟨true, 0⟩ ∧
          (call.after v).tables = v.tables ∧
          v.Looked (call.after v)) := by
  have hBefore := hCalls.redatedOnly hUnique
  have hUnique₁ := hUnique.redated hBefore
  have hOwned₁ : Owned plan.id plan.ownerId plan t₁ :=
    Owned.redated ⟨hFound, rfl⟩ hBefore
  rcases daysOf_isOk plan t₁ with ⟨dated, hDated⟩
  have hAnyCall :
      ∀ w : World, w.Candid → w.tables = t₁ →
        let call := recalculateDates plan.id plan.ownerId
        t₁.RedatedOnly plan.id (call.after w).tables ∧
        ∀ updated, call.outcome w = .ok ⟨true, updated⟩ →
          Dated plan (call.after w).tables := by
    rintro w hCandid rfl
    have hRun :=
      runs_outcome_after (recalculateDates plan.id plan.ownerId) w
    have hRedated :=
      runs_recalculateDates_redatedOnly hCandid hUnique₁ hRun
    refine ⟨hRedated, ?_⟩
    intro updated hSuccess
    rw [hSuccess] at hRun
    rcases runs_recalculateDates_success hCandid hRun with
      ⟨plan', hOwned', hDays⟩
    have hSame : plan' = plan :=
      hOwned'.unique (hOwned₁.redated hRedated)
    rw [hSame] at hDays
    exact hDays
  refine ⟨dated, hDated, hBefore, hAnyCall, ?_⟩
  intro w hCalm hTables
  rcases hAnyCall w hCalm.candid hTables with ⟨hRedated, hSuccess⟩
  subst hTables
  have hAnswer :=
    runs_recalculateDates_calm hCalm hOwner hOwned₁ hUnique₁ hDated
      (runs_outcome_after (recalculateDates plan.id plan.ownerId) w)
  have hSettled := hSuccess _ hAnswer
  refine ⟨hAnswer, hSettled, ?_⟩
  intro v hCalm' hTables'
  rw [← hTables'] at hRedated hSettled
  rcases hSettled with ⟨dated₂, hDated₂, hDays₂⟩
  exact
    runs_recalculateDates_settled hCalm' hOwner
      (hOwned₁.redated hRedated) (hUnique₁.redated hRedated) hDated₂
      hDays₂ (runs_outcome_after _ v)

------------------------------------------------------------
-- A Sample
------------------------------------------------------------

/- A plan with an item that has no date. -/
def datelessPlan : StudyPlan :=
  { StudyPlan.blank with
    id := "p", ownerId := "ann", daysPerWeek := 3,
    startDate := Timestamp.ofDate ⟨22286⟩ }

def datelessTables : Tables :=
  { plans := [datelessPlan]
    items :=
      [{ ScheduleItem.blank with
          id := "a", planId := "p", week := 1, position := 1 },
        { ScheduleItem.blank with
          id := "b", planId := "q", week := 1, position := 1,
          completed := true }] }

/- A world in which the first date cannot be written. -/
def datelessWorld : World :=
  { settings := { locale := .fallback }
    database :=
      { tables := datelessTables
        rules := [⟨dateLabel, 0, 1, .fails (.plain "lost")⟩] }
    clock := 0 }

/- Another call writes the date that a first one could not write. -/
theorem recalculations_settle_sample :
    let call := recalculateDates "p" "ann"
    let t := (call.after datelessWorld).tables
    let w : World := { datelessWorld with database := { tables := t } }
    (call.outcome datelessWorld).toOption = some ⟨false, 0⟩ ∧
      call.outcome w = .ok ⟨true, 1⟩ ∧
      Dated datelessPlan (call.after w).tables := by
  intro call t w
  have hUnique : UniqueIds datelessPlan.id datelessTables :=
    ⟨by decide, by decide⟩
  have hCandid : datelessWorld.Candid := by
    intro rule hRule
    rw [List.mem_singleton.mp hRule]
    exact Or.inl rfl
  have hCalls : Recalculations "p" "ann" datelessTables t :=
    Recalculations.call .none hCandid
  have hCalm : w.Calm := ⟨rfl, rfl, rfl, rfl, by decide⟩
  rcases recalculations_settle (t := datelessTables) rfl (by decide)
      hUnique hCalls with
    ⟨dated, hDated, _, _, hSettled⟩
  rcases hSettled w hCalm rfl with ⟨hAnswer, hDays, _⟩
  have hOff :
      (match daysOf datelessPlan t with
        | .ok dated => offDays "p" dated t
        | .error _ => 0) = 1 := by
    decide +kernel
  rw [hDated] at hOff
  have hOne : call.outcome w = .ok ⟨true, 1⟩ := by
    rw [← hOff]
    exact hAnswer
  exact ⟨by decide +kernel, hOne, hDays⟩

end Timetable.Service
