import Timetable.Proofs.Service.Changes
import Timetable.Proofs.Service.Generation

/-
  This file tells what is left in the tables when weekdays
  could not be chosen.  Choosing them is no transaction: they
  are stored before the items of the plan are read, and stay
  if these cannot be read.  No date is written by then.

  Key definitions include:
    * `afterLookup`

  Main theorems include:
    * `runs_setWeekdays_failed`
    * `setWeekdays_failed`
    * `setWeekdays_not_all_or_nothing`
-/

namespace Timetable.Service

open Plan Store Act

------------------------------------------------------------
-- Where Choosing Weekdays Fails
------------------------------------------------------------

/- Reading items fails with one message. -/
theorem runs_itemsOf_error
    {planId : String}
    {w w' : World}
    {f : Failure}
    (hRun : (itemsOf planId).Runs w (.error f) w') :
    ∃ g, f = .wrap .internal "failed to load schedule items" g := by
  rcases (runs_restating_iff _ _ _ _ _).mp hRun with ⟨o, _, hFailed⟩
  cases o with
  | ok items => cases hFailed
  | error g =>
      cases hFailed
      exact ⟨g, rfl⟩

/- Once the items of a plan are read nothing fails any more. -/
theorem runs_dating_ok
    {α : Type}
    {plan : StudyPlan}
    {items : List ScheduleItem}
    {weekdays : List Int}
    {answer : DateRun → α}
    {w w' : World}
    {r : Except Failure α}
    (hRun :
      (do
        let run ← applyDates plan items weekdays
        if run.stopped.isSome then
          Act.note .warn "date recalculation after weekday change failed"
        Act.note .info "weekday distribution updated"
        return answer run : Act α).Runs w r w') :
    ∃ a, r = .ok a := by
  rcases (runs_bind_iff _ _ _ _ _).mp hRun with
    ⟨f, hDates, _⟩ | ⟨run, w₁, _, hTelling⟩
  · rcases runs_applyDates_writes hDates with ⟨_, _, h, _⟩
    cases h
  have hAnswering :
      ∃ v, (Act.note .info "weekday distribution updated" >>= fun _ =>
        (pure (answer run) : Act α)).Runs v r w' := by
    simp only at hTelling
    split at hTelling
    · rcases runs_note_bind hTelling with ⟨w₂, _, hRest⟩
      exact ⟨w₂, hRest⟩
    · exact ⟨w₁, hTelling⟩
  rcases hAnswering with ⟨v, hAnswering⟩
  rcases runs_note_bind hAnswering with ⟨w₃, _, hPure⟩
  exact ⟨_, ((runs_pure_iff _ _ _ _).mp hPure).1⟩

/- The world in which a request has found the plan that it names. -/
def afterLookup
    (planId owner : String)
    (w : World) : World :=
  (limited (ownedPlan planId owner)).after w

/- A plan is looked up within the time limit of the request, which takes no time itself. -/
theorem clock_afterLookup
    {planId owner : String}
    {w v : World}
    {r : Except Failure StudyPlan}
    (hOwned :
      (ownedPlan planId owner).Runs
        { w with
          context := w.context.limited w.settings.requestTimeout } r v) :
    (afterLookup planId owner w).clock = v.clock := by
  have hLimited :
      (limited (ownedPlan planId owner)).Runs w r
        { v with context := w.context.taking v.context } :=
    (runs_limited_iff _ _ _ _).mpr
      ((runs_under_iff _ _ _ _ _).mpr ⟨v, hOwned, rfl⟩)
  unfold afterLookup
  rw [hLimited.after_eq]

/-
  Choosing weekdays that fails has written nothing, or it has
  stored the weekdays, with the time at which the plan was
  found, and then could not read the items.
-/
theorem runs_setWeekdays_failed
    {planId owner : String}
    {weekdays : List Int}
    {w w' : World}
    {f : Failure}
    (hRun : (setWeekdays planId owner weekdays).Runs w (.error f) w') :
    w'.tables = w.tables ∨
    ∃ days g,
      normalizeWeekdays weekdays = .ok days ∧
      f = .wrap .internal "failed to load schedule items" g ∧
      w'.tables =
        w.tables.chooseWeekdays
          ⟨planId, some days,
            Timestamp.ofInstant (afterLookup planId owner w).clock⟩ := by
  unfold setWeekdays at hRun
  rw [runs_limited_iff] at hRun
  rcases (runs_under_iff _ _ _ _ _).mp hRun with ⟨w₁, hInside, rfl⟩
  change w₁.tables = w.tables ∨
    ∃ days g,
      normalizeWeekdays weekdays = .ok days ∧
      f = .wrap .internal "failed to load schedule items" g ∧
      w₁.tables =
        w.tables.chooseWeekdays
          ⟨planId, some days,
            Timestamp.ofInstant (afterLookup planId owner w).clock⟩
  split at hInside
  · rcases (runs_throw_iff _ _ _ _).mp hInside with ⟨_, rfl⟩
    exact Or.inl rfl
  rename_i days hNormalized
  rcases (runs_bind_iff _ _ _ _ _).mp hInside with
    ⟨_, hOwned, _⟩ | ⟨plan, v, hOwned, hSaving⟩
  · exact Or.inl (ownedPlan_keeps _ _ _ _ _ hOwned).tables
  have hKept : v.tables = w.tables :=
    (ownedPlan_keeps _ _ _ _ _ hOwned).tables
  rcases runs_ownedPlan hOwned with ⟨p, _, hId, _, rfl⟩
  rcases (runs_restating_bind_iff _ _ _ _ _ _).mp hSaving with
    ⟨_, hSave, _⟩ | ⟨_, u, hSave, hListing⟩
  · rcases Records.runs_saveWeekdays_any hSave with hNothing | ⟨h, _⟩
    · exact Or.inl (hNothing.tables.trans hKept)
    · cases h
  rcases (runs_bind_iff _ _ _ _ _).mp hListing with
    ⟨_, hItems, hFailed⟩ | ⟨items, x, _, hDating⟩
  · cases hFailed
    have hRead := (itemsOf_keeps _ _ _ _ hItems).tables
    rcases runs_itemsOf_error hItems with ⟨g, hMessage⟩
    rcases Records.runs_saveWeekdays_any hSave with
      hNothing | ⟨_, hSaved⟩
    · exact Or.inl (hRead.trans (hNothing.tables.trans hKept))
    · refine Or.inr ⟨days, g, hNormalized, hMessage, ?_⟩
      have hStamped :
          w₁.tables =
            v.tables.chooseWeekdays
              ⟨p.id, some days, Timestamp.ofInstant v.clock⟩ :=
        hRead.trans hSaved.tables
      rw [hStamped, hKept, hId, clock_afterLookup hOwned]
  · rcases runs_dating_ok hDating with ⟨_, h⟩
    cases h

/-
  When weekdays could not be chosen, whatever went wrong, the
  items and with them their dates are as before.  So are all
  tables, unless the failure tells that the items could not be
  read: then the chosen weekdays, in order and each once, may
  have been stored before.  They have the time that the clock
  showed as soon as the plan was found.
-/
theorem setWeekdays_failed
    {planId owner : String}
    {weekdays : List Int}
    {w : World}
    {f : Failure}
    (hFailed : (setWeekdays planId owner weekdays).outcome w = .error f) :
    ((setWeekdays planId owner weekdays).after w).tables.items =
        w.tables.items ∧
    (((setWeekdays planId owner weekdays).after w).tables = w.tables ∨
    ∃ days g,
      normalizeWeekdays weekdays = .ok days ∧
      f = .wrap .internal "failed to load schedule items" g ∧
      ((setWeekdays planId owner weekdays).after w).tables =
        w.tables.chooseWeekdays
          ⟨planId, some days,
            Timestamp.ofInstant (afterLookup planId owner w).clock⟩) := by
  have hRun :=
    runs_outcome_after (setWeekdays planId owner weekdays) w
  rw [hFailed] at hRun
  have hCases := runs_setWeekdays_failed hRun
  refine ⟨?_, hCases⟩
  rcases hCases with hSame | ⟨_, _, _, _, hChosen⟩
  · rw [hSame]
  · rw [hChosen]
    rfl

------------------------------------------------------------
-- A Sample
------------------------------------------------------------

/- A plan has Mondays, and its items cannot be read once.  The year 2024 begins. -/
def unreadWorld : World :=
  { sampleWorld [] with
    clock := 1704067200000000000
    database :=
      { tables :=
          sampleTables.chooseWeekdays ⟨idOfNumber 1, some [1], .unset⟩
        rules :=
          [⟨"item_list", 0, 1, .fails (.plain "lost connection")⟩] } }

/- Tuesdays and Fridays are in the table, although choosing them has failed. -/
theorem unreadWorld_choices :
    (((setWeekdays (idOfNumber 1) "ann" [5, 2, 5]).after
        unreadWorld).tables.choicesOfPlan (idOfNumber 1)).map (·.weekdays) =
      [some [2, 5]] ∧
    (unreadWorld.tables.choicesOfPlan (idOfNumber 1)).map (·.weekdays) =
      [some [1]] := by
  decide +kernel

/-
  Items that cannot be read leave the weekdays that were stored
  just before, with the time at which the request came.
-/
theorem setWeekdays_failed_of_lost_connection :
    ∃ f,
      (setWeekdays (idOfNumber 1) "ann" [5, 2, 5]).outcome unreadWorld =
        .error f ∧
      ((setWeekdays (idOfNumber 1) "ann" [5, 2, 5]).after
        unreadWorld).tables.items = unreadWorld.tables.items ∧
      ((setWeekdays (idOfNumber 1) "ann" [5, 2, 5]).after
        unreadWorld).tables =
        unreadWorld.tables.chooseWeekdays
          ⟨idOfNumber 1, some [2, 5],
            Timestamp.ofInstant 1704067200000000000⟩ := by
  have hFails :
      ∃ f,
        (setWeekdays (idOfNumber 1) "ann" [5, 2, 5]).outcome unreadWorld =
          .error f :=
    ⟨_, rfl⟩
  rcases hFails with ⟨f, hFailed⟩
  rcases unreadWorld_choices with ⟨hAfter, hBefore⟩
  refine ⟨f, hFailed, ?_⟩
  rcases setWeekdays_failed hFailed with
    ⟨hItems, hSame | ⟨days, _, hDays, _, hChosen⟩⟩
  · rw [hSame, hBefore] at hAfter
    cases hAfter
  · cases hDays
    exact ⟨hItems, hChosen⟩

/-
  So choosing weekdays is not all or nothing, even if every
  statement that fails has no effect and tells so.
-/
theorem setWeekdays_not_all_or_nothing :
    ¬ ∀ (planId owner : String) (weekdays : List Int) (w : World)
        (f : Failure),
      w.Overt →
      (setWeekdays planId owner weekdays).outcome w = .error f →
        ((setWeekdays planId owner weekdays).after
            w).tables.choicesOfPlan planId =
          w.tables.choicesOfPlan planId ∧
        ((setWeekdays planId owner weekdays).after w).tables.items.map
            (·.scheduledDate) =
          w.tables.items.map (·.scheduledDate) := by
  intro hKeeps
  have hOvert : unreadWorld.Overt := by decide
  rcases unreadWorld_choices with ⟨hAfter, hBefore⟩
  have hSame :=
    (hKeeps (idOfNumber 1) "ann" [5, 2, 5] unreadWorld _ hOvert rfl).1
  rw [hSame, hBefore] at hAfter
  cases hAfter

end Timetable.Service
