import Mathlib.Data.List.Induction
import Timetable.Proofs.Plan.Dating
import Timetable.Proofs.Store.Records
import Timetable.Service.Dates

/-
  This file tells what giving dates to items writes: dates of
  these items and nothing else, and the items are answered as
  they then stand in the table.

  Key definitions include:
    * `Service.Redates`

  Main theorems include:
    * `Service.runs_writeDates`
    * `Service.Redates.writes`
    * `Service.runs_applyDates`
-/

namespace Timetable.Service

open Plan Store Act

------------------------------------------------------------
-- Dating One Item
------------------------------------------------------------

theorem dateItem_nil
    (id : String)
    (date : Timestamp) :
    dateItem id date [] = [] :=
  rfl

/- Dating an item looks for it from the end. -/
theorem dateItem_concat
    (id : String)
    (date : Timestamp)
    (items : List ScheduleItem)
    (i : ScheduleItem) :
    dateItem id date (items ++ [i]) =
      if i.id == id then
        items ++ [{ i with scheduledDate := some date }]
      else dateItem id date items ++ [i] := by
  unfold dateItem
  rw [List.reverse_append]
  change
    (if i.id == id then
      { i with scheduledDate := some date } :: items.reverse
    else i :: _).reverse = _
  split <;> simp

/- When ids are distinct, the items answered are those in the table. -/
theorem dateItem_eq_redate
    (id : String)
    (date : Timestamp)
    (items : List ScheduleItem)
    (hNodup : (items.map (·.id)).Nodup) :
    dateItem id date items = redate id date items := by
  induction items using List.reverseRecOn with
  | nil => rfl
  | append_singleton items i ih =>
      rw [List.map_append, List.nodup_append] at hNodup
      rcases hNodup with ⟨hItems, _, hApart⟩
      have hRedate :
          redate id date (items ++ [i]) =
            redate id date items ++ redate id date [i] :=
        List.map_append
      rw [dateItem_concat, hRedate]
      by_cases hId : i.id = id
      · have hOthers : redate id date items = items := by
          apply redate_eq_self
          intro j hj hSame
          exact hApart j.id (List.mem_map_of_mem hj) i.id (by simp)
            (hSame.trans hId.symm)
        rw [hOthers]
        simp [redate, hId]
      · rw [ih hItems]
        simp [redate, hId]

------------------------------------------------------------
-- Writing Dates
------------------------------------------------------------

/-
  What writing dates makes of the items in hand and of the
  tables.  The request may end before any slot, and any date
  may fail to be written, unless all is `calm`: then only
  dates of missing items are not written.
-/
inductive Redates (calm : Prop) :
    List DatedSlot → DateRun → Tables → DateRun → Tables → Prop
| done
    (run : DateRun)
    (t : Tables) :
    Redates calm [] run t run t
| stop
    (d : DatedSlot)
    (rest : List DatedSlot)
    (run : DateRun)
    (t : Tables)
    (f : Failure)
    (hEnded : f = .sentinel .canceled ∨ f = .sentinel .deadline)
    (hRestless : ¬ calm) :
    Redates calm (d :: rest) run t { run with stopped := some f } t
| skip
    {d : DatedSlot}
    {rest : List DatedSlot}
    {run last : DateRun}
    {t t' : Tables}
    (hDay : hasDay run.items d.slot.id d.date = true)
    (hRest : Redates calm rest run t last t') :
    Redates calm (d :: rest) run t last t'
| write
    {d : DatedSlot}
    {rest : List DatedSlot}
    {run last : DateRun}
    {t t' : Tables}
    (hDay : hasDay run.items d.slot.id d.date = false)
    (hRest :
      Redates calm rest
        { run with
          items := dateItem d.slot.id (.ofDate d.date) run.items
          updated := run.updated + 1 }
        (t.setDate d.slot.id (.ofDate d.date)) last t') :
    Redates calm (d :: rest) run t last t'
| fail
    {d : DatedSlot}
    {rest : List DatedSlot}
    {run last : DateRun}
    {t t' : Tables}
    (hDay : hasDay run.items d.slot.id d.date = false)
    (hMissing : calm → ∀ i ∈ t.items, i.id ≠ d.slot.id)
    (hRest :
      Redates calm rest { run with failed := run.failed + 1 } t
        last t') :
    Redates calm (d :: rest) run t last t'

/- Writing dates never fails, and does just that. -/
theorem runs_writeDates
    {calm : Prop}
    {dated : List DatedSlot}
    {run : DateRun}
    {w w' : World}
    {r : Except Failure DateRun}
    (hCalm : calm → w.Calm)
    (hRun : (writeDates dated run).Runs w r w') :
    ∃ last, r = .ok last ∧ w.Held w' ∧
      Redates calm dated run w.tables last w'.tables := by
  induction dated generalizing run w with
  | nil =>
      rcases (runs_pure_iff _ _ _ _).mp hRun with ⟨rfl, rfl⟩
      exact ⟨run, rfl, (World.Kept.refl w').toHeld, .done run _⟩
  | cons d rest ih =>
      unfold writeDates at hRun
      have hGoing := (runs_get_bind_iff _ _ _ _).mp hRun
      split at hGoing
      · rename_i f hFailure
        rcases (runs_pure_iff _ _ _ _).mp hGoing with ⟨rfl, rfl⟩
        refine ⟨_, rfl, (World.Kept.refl w').toHeld,
          .stop d rest run _ f (Context.failure?_cases hFailure) ?_⟩
        intro h
        rw [(hCalm h).failure?_eq_none] at hFailure
        cases hFailure
      split at hGoing
      · rename_i hDay
        rcases ih hCalm hGoing with ⟨last, hOk, hHeld, hRest⟩
        exact ⟨last, hOk, hHeld, .skip hDay hRest⟩
      rename_i hDay
      have hOther : hasDay run.items d.slot.id d.date = false := by
        simpa using hDay
      rcases (runs_attempt_bind_iff _ _ _ _ _).mp hGoing with
        ⟨o, w₂, hSet, hGoing⟩
      rcases Records.runs_setItemDate hSet with
        ⟨f, rfl, hSame, hMissing⟩ | ⟨rfl, hWrote⟩
      · rcases runs_note_bind hGoing with ⟨w₃, hNoted, hGoing⟩
        have hThere := hSame.trans hNoted.wrote
        rcases ih (fun h => hThere.calm (hCalm h)) hGoing with
          ⟨last, hOk, hHeld, hRest⟩
        rw [hThere.tables, hSame.tables] at hRest
        exact ⟨last, hOk, hThere.toHeld.trans hHeld,
          .fail hOther (fun h => hMissing (hCalm h)) hRest⟩
      · rcases ih (fun h => hWrote.calm (hCalm h)) hGoing with
          ⟨last, hOk, hHeld, hRest⟩
        rw [hWrote.tables] at hRest
        exact ⟨last, hOk, hWrote.toHeld.trans hHeld,
          .write hOther hRest⟩

/-
  Dates of the slots are written and nothing else.  If the
  ids of the items in hand are distinct, these are answered as
  they then stand in the table.
-/
theorem Redates.writes
    {calm : Prop}
    {dated : List DatedSlot}
    {run last : DateRun}
    {t t' : Tables}
    (h : Redates calm dated run t last t') :
    ∃ writes : List (String × Timestamp),
      (∀ write ∈ writes, write.1 ∈ dated.map (·.slot.id)) ∧
      ((run.items.map (·.id)).Nodup →
        last.items = redateAll writes run.items) ∧
      t' = t.redated writes := by
  induction h with
  | done run t => exact ⟨[], by simp, fun _ => rfl, rfl⟩
  | stop d rest run t f _ _ => exact ⟨[], by simp, fun _ => rfl, rfl⟩
  | skip _ _ ih =>
      rcases ih with ⟨writes, hSlots, hItems, hTables⟩
      refine ⟨writes, ?_, hItems, hTables⟩
      intro write hWrite
      exact List.mem_cons_of_mem _ (hSlots write hWrite)
  | fail _ _ _ ih =>
      rcases ih with ⟨writes, hSlots, hItems, hTables⟩
      refine ⟨writes, ?_, hItems, hTables⟩
      intro write hWrite
      exact List.mem_cons_of_mem _ (hSlots write hWrite)
  | @write d rest run last t t' _ _ ih =>
      rcases ih with ⟨writes, hSlots, hItems, hTables⟩
      refine ⟨(d.slot.id, .ofDate d.date) :: writes, ?_, ?_, hTables⟩
      · intro write hWrite
        rcases List.mem_cons.mp hWrite with rfl | hWrite
        · simp
        · exact List.mem_cons_of_mem _ (hSlots write hWrite)
      · intro hNodup
        rw [dateItem_eq_redate _ _ _ hNodup] at hItems
        exact hItems (by rw [redate_ids]; exact hNodup)

/-
  Giving dates to items never fails.  It writes the days that
  their slots are assigned; if none can be assigned it stops
  at once.
-/
theorem runs_applyDates
    {calm : Prop}
    {plan : StudyPlan}
    {items : List ScheduleItem}
    {weekdays : List Int}
    {w w' : World}
    {r : Except Failure DateRun}
    (hCalm : calm → w.Calm)
    (hRun : (applyDates plan items weekdays).Runs w r w') :
    ∃ last, r = .ok last ∧ w.Held w' ∧
      ((∃ dated,
        assignDates (items.map slotOf) plan.startDate.date weekdays =
          .ok dated ∧
        Redates calm dated { items := items } w.tables last
          w'.tables) ∨
      ((∃ e,
        assignDates (items.map slotOf) plan.startDate.date weekdays =
          .error e) ∧
        last.items = items ∧ w'.tables = w.tables)) := by
  unfold applyDates at hRun
  split at hRun
  · rename_i e hError
    rcases (runs_pure_iff _ _ _ _).mp hRun with ⟨rfl, rfl⟩
    exact ⟨_, rfl, (World.Kept.refl w').toHeld,
      Or.inr ⟨⟨e, hError⟩, rfl, rfl⟩⟩
  · rename_i dated hDated
    rcases (runs_bind_iff _ _ _ _ _).mp hRun with
      ⟨f, hWrite, rfl⟩ | ⟨run, w₁, hWrite, hMeasuring⟩
    · rcases runs_writeDates hCalm hWrite with ⟨_, h, _⟩
      cases h
    rcases runs_writeDates hCalm hWrite with
      ⟨last, h, hHeld, hRedates⟩
    cases h
    rcases runs_measure_bind hMeasuring with
      ⟨w₂, hMeasured, hRest⟩
    rcases (runs_pure_iff _ _ _ _).mp hRest with ⟨rfl, rfl⟩
    refine ⟨run, rfl, hHeld.trans hMeasured.toHeld,
      Or.inl ⟨dated, hDated, ?_⟩⟩
    rw [show w'.tables = w₁.tables from hMeasured.tables]
    exact hRedates

/- Whatever days are assigned, dates of these items are written and nothing else. -/
theorem runs_applyDates_writes
    {plan : StudyPlan}
    {items : List ScheduleItem}
    {weekdays : List Int}
    {w w' : World}
    {r : Except Failure DateRun}
    (hRun : (applyDates plan items weekdays).Runs w r w') :
    ∃ last writes, r = .ok last ∧
      (∀ write ∈ writes, write.1 ∈ items.map (·.id)) ∧
      ((items.map (·.id)).Nodup →
        last.items = redateAll writes items) ∧
      w.Wrote (w.tables.redated writes) w' := by
  rcases runs_applyDates (fun h : False => h.elim) hRun with
    ⟨last, rfl, hHeld,
      ⟨dated, hDated, hRedates⟩ | ⟨_, hItems, hTables⟩⟩
  · rcases hRedates.writes with ⟨writes, hSlots, hItems, hTables⟩
    refine ⟨last, writes, rfl, ?_, hItems, hHeld, hTables⟩
    intro write hWrite
    have hIds := (assignDates_slots hDated).map (·.id)
    rw [List.map_map, List.map_map] at hIds
    exact hIds.subset (hSlots write hWrite)
  · exact ⟨last, [], rfl, by simp, fun _ => hItems, hHeld, hTables⟩

end Timetable.Service
