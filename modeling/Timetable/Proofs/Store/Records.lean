import Timetable.Proofs.Store.Redating
import Timetable.Proofs.Store.Statements
import Timetable.Records.Items
import Timetable.Records.Weekdays

/-
  This file tells what the records of plans, items and
  weekdays do to the tables of an overt store.

  Main theorems include:
    * `Records.runs_prepared`
    * `Records.runs_patchPlan`
    * `Records.runs_setItemDate`
    * `Records.runs_saveWeekdays`
    * `Records.deletePlansOfOwner_advances`
    * `Records.insertItems_advances`
-/

namespace Timetable

namespace Store

/- A plan is another one with what is filled in when it is stored. -/
def StudyPlan.Restates (p plan : StudyPlan) : Prop :=
  ∃ created updated,
    p = { plan with
      vacations := some (plan.vacations.getD "[]")
      createdAt := created
      updatedAt := updated }

theorem StudyPlan.Restates.id
    {p plan : StudyPlan}
    (h : p.Restates plan) :
    p.id = plan.id := by
  rcases h with ⟨_, _, rfl⟩
  rfl

theorem StudyPlan.Restates.ownerId
    {p plan : StudyPlan}
    (h : p.Restates plan) :
    p.ownerId = plan.ownerId := by
  rcases h with ⟨_, _, rfl⟩
  rfl

theorem StudyPlan.Restates.trans
    {p q plan : StudyPlan}
    (h : p.Restates q)
    (hFirst : q.Restates plan) :
    p.Restates plan := by
  rcases hFirst with ⟨_, _, rfl⟩
  rcases h with ⟨created, updated, rfl⟩
  exact ⟨created, updated, rfl⟩

end Store

namespace Records

open Store Act

------------------------------------------------------------
-- Writing Plans
------------------------------------------------------------

/- A change behind a savepoint. -/
theorem runs_performBehindSavepoint
    {name label : String}
    {c : Change}
    {w w' : World}
    {r : Except Failure Unit}
    (hOvert : w.Overt)
    (hRun :
      (behindSavepoint .transaction name
        (restating (classify label)
          (discard (perform c)))).Runs w r w') :
    (r = .ok () ∧ w.Wrote (c.run w.tables) w') ∨
      ∃ f, r = .error f ∧ ¬ w.Calm ∧
        (w.database.rules = [] →
          f.hasSentinel .transient = false) ∧
        (w.Wrote w.tables w' ∨
          (f.hasSentinel .transient = false ∧
            w.Wrote (c.run w.tables) w')) := by
  refine runs_behindSavepoint ?_ hOvert hRun
  intro v r v' hOvert hRun
  rcases (runs_restating_iff _ _ _ _ _).mp hRun with
    ⟨o, hDiscard, rfl⟩
  rcases (runs_discard_iff _ _ _ _).mp hDiscard with
    ⟨o, hPerform, rfl⟩
  rcases runs_perform hOvert hPerform with
    ⟨f, rfl, hRefused⟩ | ⟨rfl, hWrote⟩
  · refine Or.inl ⟨_, rfl, hRefused.restless, ?_, hRefused.kept⟩
    intro hNone
    rcases hRefused.ended hNone with rfl | rfl <;> rfl
  · exact Or.inr ⟨rfl, hWrote⟩

/- A plan with an id and an owner is prepared by filling in the rest. -/
theorem runs_prepare
    {plan : StudyPlan}
    {w w' : World}
    {r : Except Failure StudyPlan}
    (hId : plan.id ≠ "")
    (hOwner : plan.ownerId ≠ "")
    (hRun : (prepare (some plan)).Runs w r w') :
    ∃ p, r = .ok p ∧ w.Kept w' ∧ p.Restates plan := by
  have hIdBeq : (plan.id == "") = false := by simpa using hId
  have hOwnerBeq : (plan.ownerId == "") = false := by
    simpa using hOwner
  simp only [prepare, hOwnerBeq, hIdBeq, Bool.false_eq_true,
    if_false, pure_bind] at hRun
  rcases (runs_bind_iff _ _ _ _ _).mp hRun with
    ⟨f, hNow, _⟩ | ⟨moment, w₁, hNow, hRest⟩
  · cases ((runs_now_iff _ _ _).mp hNow).1
  · rcases (runs_now_iff _ _ _).mp hNow with ⟨_, rfl⟩
    rcases (runs_pure_iff _ _ _ _).mp hRest with ⟨rfl, rfl⟩
    exact ⟨_, rfl, World.kept_clock w _, _, _, rfl⟩

/-
  Inserting a plan, in whole or in part: either the change is
  made, or the outcome tells that it was not.
-/
theorem runs_prepared
    {name label : String}
    {change : StudyPlan → Change}
    {plan : StudyPlan}
    {w w' : World}
    {r : Except Failure (StudyPlan × Except Failure Unit)}
    (hId : plan.id ≠ "")
    (hOwner : plan.ownerId ≠ "")
    (hOvert : w.Overt)
    (hRun :
      (do
        let plan ← prepare (some plan)
        let outcome ← Act.attempt
          (behindSavepoint .transaction name
            (restating (classify label)
              (discard (perform (change plan)))))
        return (plan, outcome)).Runs w r w') :
    ∃ p o, r = .ok (p, o) ∧ p.Restates plan ∧
      ((o = .ok () ∧ w.Wrote ((change p).run w.tables) w') ∨
        ∃ f, o = .error f ∧ ¬ w.Calm ∧
          (w.database.rules = [] →
            f.hasSentinel .transient = false) ∧
          (w.Wrote w.tables w' ∨
            (f.hasSentinel .transient = false ∧
              w.Wrote ((change p).run w.tables) w'))) := by
  rcases (runs_bind_iff _ _ _ _ _).mp hRun with
    ⟨f, hPrepare, _⟩ | ⟨p, w₁, hPrepare, hRest⟩
  · rcases runs_prepare hId hOwner hPrepare with ⟨p, h, _⟩
    cases h
  · rcases runs_prepare hId hOwner hPrepare with
      ⟨_, h, hKept, hRestates⟩
    cases h
    rcases (runs_attempt_bind_iff _ _ _ _ _).mp hRest with
      ⟨o, w₂, hInsert, hRest⟩
    rcases (runs_pure_iff _ _ _ _).mp hRest with ⟨rfl, rfl⟩
    have hOutcome :=
      runs_performBehindSavepoint (hKept.overt hOvert) hInsert
    refine ⟨p, o, rfl, hRestates, ?_⟩
    rw [show w₁.tables = w.tables from hKept.tables] at hOutcome
    rcases hOutcome with
      ⟨hOk, hWrote⟩ | ⟨f, hError, hRestless, hPlain, hOr⟩
    · exact Or.inl ⟨hOk, hKept.wrote.trans hWrote⟩
    · refine Or.inr ⟨f, hError, ?_, ?_, ?_⟩
      · exact fun hCalm => hRestless (hKept.calm hCalm)
      · exact fun hNone => hPlain (hKept.rules_nil hNone)
      · exact hOr.imp (fun h => hKept.wrote.trans h)
          (fun h => ⟨h.1, hKept.wrote.trans h.2⟩)

/- Writing the columns that the core insert leaves out. -/
theorem runs_patchPlan
    {plan : StudyPlan}
    {w w' : World}
    {r : Except Failure (StudyPlan × Except Failure Unit)}
    (hId : plan.id ≠ "")
    (hOvert : w.Overt)
    (hRun : (patchPlan .transaction (some plan)).Runs w r w') :
    ∃ moment o, r = .ok ({ plan with updatedAt := moment }, o) ∧
      (w.Wrote w.tables w' ∨
        w.Wrote
          (w.tables.patchPlan { plan with updatedAt := moment })
          w') := by
  have hIdBeq : (plan.id == "") = false := by simpa using hId
  simp only [patchPlan, hIdBeq, Bool.false_eq_true,
    if_false] at hRun
  rcases (runs_bind_iff _ _ _ _ _).mp hRun with
    ⟨f, hNow, _⟩ | ⟨moment, w₁, hNow, hRest⟩
  · cases ((runs_now_iff _ _ _).mp hNow).1
  · rcases (runs_now_iff _ _ _).mp hNow with ⟨_, rfl⟩
    have hKept := World.kept_clock w (w.clock + clockTick)
    rcases (runs_attempt_bind_iff _ _ _ _ _).mp hRest with
      ⟨o, w₂, hPatch, hRest⟩
    rcases (runs_pure_iff _ _ _ _).mp hRest with ⟨rfl, rfl⟩
    refine ⟨moment, o, rfl, ?_⟩
    rcases runs_performBehindSavepoint (hKept.overt hOvert)
        hPatch with
      ⟨_, hWrote⟩ | ⟨_, _, _, _, hSame | ⟨_, hWrote⟩⟩
    · exact Or.inr (hKept.wrote.trans hWrote)
    · exact Or.inl (hKept.wrote.trans hSame)
    · exact Or.inr (hKept.wrote.trans hWrote)

------------------------------------------------------------
-- Writing Items and Weekdays
------------------------------------------------------------

/- A change is refused or made, and its failures are restated. -/
theorem runs_restatedPerform
    {restate : Failure → Failure}
    {c : Change}
    {w w' : World}
    {r : Except Failure (Except Failure Nat)}
    (hOvert : w.Overt)
    (hRun : (restating restate (perform c)).Runs w r w') :
    (∃ f, r = .error f ∧ ¬ w.Calm ∧ w.Kept w') ∨
      (r = .ok (.ok (c.touched w.tables)) ∧
        w.Wrote (c.run w.tables) w') := by
  rcases (runs_restating_iff _ _ _ _ _).mp hRun with
    ⟨o, hPerform, rfl⟩
  rcases runs_perform hOvert hPerform with
    ⟨f, rfl, hRefused⟩ | ⟨rfl, hWrote⟩
  · exact Or.inl ⟨_, rfl, hRefused.restless, hRefused.kept⟩
  · exact Or.inr ⟨rfl, hWrote⟩

/- The number of touched rows is told if it is known. -/
theorem runs_touchedRows_ok
    {label : String}
    {n : Nat}
    {w w' : World}
    {r : Except Failure Nat}
    (hRun : (touchedRows label (.ok n)).Runs w r w') :
    r = .ok n ∧ w' = w := by
  rcases (runs_restating_iff _ _ _ _ _).mp hRun with
    ⟨o, hResume, rfl⟩
  rcases (runs_resume_iff _ _ _ _).mp hResume with ⟨rfl, rfl⟩
  exact ⟨rfl, rfl⟩

theorem restatedPerform_advances
    (restate : Failure → Failure)
    (c : Change)
    {w : World}
    (hOvert : w.Overt) :
    (restating restate (perform c)).Advances w
      (fun o v =>
        o = .ok (c.touched w.tables) ∧
          w.Wrote (c.run w.tables) v) := by
  intro r w' hRun
  rcases runs_restatedPerform hOvert hRun with
    ⟨f, rfl, hRestless, hKept⟩ | ⟨rfl, hWrote⟩
  · exact Or.inl ⟨f, rfl, hRestless, hKept.toHeld⟩
  · exact Or.inr ⟨_, rfl, rfl, hWrote⟩

/- The plans of an owner are deleted. -/
theorem deletePlansOfOwner_advances
    (owner : String)
    {w : World}
    (hOvert : w.Overt) :
    (deletePlansOfOwner owner).Advances w
      (fun _ v =>
        w.Wrote
          (w.tables.deletePlans (fun p => p.ownerId == owner))
          v) := by
  unfold deletePlansOfOwner
  apply (restatedPerform_advances _ _ hOvert).bind
  · intro o v hDone
    exact hDone.2.toHeld
  · rintro o v ⟨rfl, hWrote⟩ r w' hRun
    rcases runs_touchedRows_ok hRun with ⟨rfl, rfl⟩
    exact Or.inr ⟨_, rfl, hWrote⟩

/- Whatever fault a change meets, it is made or touches nothing. -/
theorem runs_perform_any
    {c : Change}
    {w w' : World}
    {r : Except Failure (Except Failure Nat)}
    (hRun : (perform c).Runs w r w') :
    (¬ w.Calm ∧ w.Kept w' ∧
      ((∃ f, r = .error f) ∨ r = .ok (.ok 0) ∨
        ∃ f, r = .ok (.error f))) ∨
      (r = .ok (.ok (c.touched w.tables)) ∧
        w.Wrote (c.run w.tables) w') := by
  by_cases hCalm : w.Calm
  · rcases runs_perform hCalm.overt hRun with
      ⟨_, _, hRefused⟩ | hMade
    · exact absurd hCalm hRefused.restless
    · exact Or.inr hMade
  · unfold Runs perform at hRun
    rw [exec_send] at hRun
    split at hRun
    · rename_i f _
      cases hRun
      exact Or.inl ⟨hCalm, World.Kept.refl w, Or.inl ⟨f, rfl⟩⟩
    · simp only at hRun
      rcases hFault : (w.database.submit (.change c)).1 with
        _ | (f | _ | text)
      · rw [hFault] at hRun
        cases hRun
        exact Or.inr ⟨rfl, wrote_sent _ w c.run⟩
      · rw [hFault] at hRun
        cases hRun
        exact Or.inl ⟨hCalm, kept_sent _ w, Or.inl ⟨f, rfl⟩⟩
      · rw [hFault] at hRun
        cases hRun
        exact Or.inl ⟨hCalm, kept_sent _ w, Or.inr (Or.inl rfl)⟩
      · rw [hFault] at hRun
        cases hRun
        exact Or.inl ⟨hCalm, kept_sent _ w,
          Or.inr (Or.inr ⟨_, rfl⟩)⟩

/-
  A change that has to touch a row, whatever fault it meets:
  it is made, or it fails.  When all is calm it fails only if
  there is no row to touch.
-/
theorem runs_touching
    {label count : String}
    {c : Change}
    {w w' : World}
    {r : Except Failure Unit}
    (hRun :
      (do
        let outcome ← restating (.during label) (perform c)
        let touched ← touchedRows count outcome
        if touched == 0 then
          throw (Failure.sentinel .noRows) : Act Unit).Runs w r w') :
    (∃ f, r = .error f ∧
      ((¬ w.Calm ∧ w.Kept w') ∨
        (c.touched w.tables = 0 ∧ w.Wrote (c.run w.tables) w'))) ∨
      (r = .ok () ∧ w.Wrote (c.run w.tables) w') := by
  rcases (runs_restating_bind_iff _ _ _ _ _ _).mp hRun with
    ⟨f, hPerform, rfl⟩ | ⟨o, w₁, hPerform, hRest⟩
  · rcases runs_perform_any hPerform with
      ⟨hRestless, hKept, _⟩ | ⟨h, _⟩
    · exact Or.inl ⟨_, rfl, Or.inl ⟨hRestless, hKept⟩⟩
    · cases h
  rcases (runs_bind_iff _ _ _ _ _).mp hRest with
    ⟨f, hTouched, rfl⟩ | ⟨n, w₂, hTouched, hEnd⟩
  · rcases (runs_restating_iff _ _ _ _ _).mp hTouched with
      ⟨_, hResume, _⟩
    rcases (runs_resume_iff _ _ _ _).mp hResume with ⟨_, rfl⟩
    rcases runs_perform_any hPerform with
      ⟨hRestless, hKept, _⟩ | ⟨hMade, _⟩
    · exact Or.inl ⟨f, rfl, Or.inl ⟨hRestless, hKept⟩⟩
    · cases hMade
      cases (runs_touchedRows_ok hTouched).1
  · rcases runs_perform_any hPerform with
      ⟨hRestless, hKept, ⟨f, h⟩ | h | ⟨f, h⟩⟩ | ⟨h, hWrote⟩
    · cases h
    · cases h
      rcases runs_touchedRows_ok hTouched with ⟨hn, rfl⟩
      cases hn
      rcases (runs_throw_iff _ _ _ _).mp hEnd with ⟨rfl, rfl⟩
      exact Or.inl ⟨_, rfl, Or.inl ⟨hRestless, hKept⟩⟩
    · cases h
      rcases (runs_restating_iff _ _ _ _ _).mp hTouched with
        ⟨_, hResume, hOk⟩
      rw [((runs_resume_iff _ _ _ _).mp hResume).1] at hOk
      cases hOk
    · cases h
      rcases runs_touchedRows_ok hTouched with ⟨hn, rfl⟩
      cases hn
      split at hEnd
      · rename_i hZero
        rcases (runs_throw_iff _ _ _ _).mp hEnd with ⟨rfl, rfl⟩
        exact Or.inl ⟨_, rfl,
          Or.inr ⟨by simpa using hZero, hWrote⟩⟩
      · rcases (runs_pure_iff _ _ _ _).mp hEnd with ⟨rfl, rfl⟩
        exact Or.inr ⟨rfl, hWrote⟩

/- A plan of an owner is deleted, or nothing is. -/
theorem runs_deletePlan
    {id owner : String}
    {w w' : World}
    {r : Except Failure Unit}
    (hRun : (deletePlan id owner).Runs w r w') :
    w.Kept w' ∨
      w.Wrote
        (w.tables.deletePlans
          (fun p => p.id == id && p.ownerId == owner))
        w' := by
  unfold deletePlan at hRun
  rcases runs_touching hRun with
    ⟨_, _, ⟨_, hKept⟩ | ⟨_, hWrote⟩⟩ | ⟨_, hWrote⟩
  · exact Or.inl hKept
  · exact Or.inr hWrote
  · exact Or.inr hWrote

/-
  The date of an item is written, or nothing is, whatever
  fault the statement meets.
-/
theorem runs_setItemDate
    {id : String}
    {date : Timestamp}
    {w w' : World}
    {r : Except Failure Unit}
    (hRun : (setItemDate id date).Runs w r w') :
    (∃ f, r = .error f ∧ w.Wrote w.tables w' ∧
      (w.Calm → ∀ i ∈ w.tables.items, i.id ≠ id)) ∨
      (r = .ok () ∧ w.Wrote (w.tables.setDate id date) w') := by
  unfold setItemDate at hRun
  rcases runs_touching hRun with
    ⟨f, rfl, ⟨hRestless, hKept⟩ | ⟨hNone, hWrote⟩⟩ | ⟨rfl, hWrote⟩
  · exact Or.inl ⟨f, rfl, hKept.wrote,
      fun hCalm => absurd hCalm hRestless⟩
  · have hMissing : ∀ i ∈ w.tables.items, i.id ≠ id := by
      intro i hi hId
      have hCount := List.countP_eq_zero.mp hNone i hi
      exact hCount (by simpa using hId)
    refine Or.inl ⟨f, rfl, ?_, fun _ => hMissing⟩
    have hItems : redate id date w.tables.items = w.tables.items :=
      redate_eq_self hMissing
    have hRun :
        (Change.setDate id date).run w.tables =
          { w.tables with
            items := redate id date w.tables.items } :=
      rfl
    rw [hRun, hItems] at hWrote
    exact hWrote
  · exact Or.inr ⟨rfl, hWrote⟩

/- Items that are complete need nothing. -/
theorem completeItems_eq
    (n : Nat)
    (items : List ScheduleItem)
    (hComplete : ∀ i ∈ items, i.id ≠ "" ∧ i.planId ≠ "") :
    completeItems n items = pure items := by
  induction items generalizing n with
  | nil => rfl
  | cons item rest ih =>
      rcases hComplete item (by simp) with ⟨hId, hPlan⟩
      have hRest : ∀ i ∈ rest, i.id ≠ "" ∧ i.planId ≠ "" :=
        fun i hi => hComplete i (by simp [hi])
      simp [completeItems, hId, hPlan, ih (n + 1) hRest]

/- The batches of a list make up the list. -/
theorem flatten_batches
    {α : Type}
    (xs : List α) :
    (batches xs).flatten = xs := by
  induction xs using batches.induct with
  | case1 => simp [batches]
  | case2 x rest ih =>
      rw [batches, List.flatten_cons, ih]
      exact List.take_append_drop batchSize (x :: rest)

/- All batches are inserted, one after the other. -/
theorem insertBatches_advances
    (parts : List (List ScheduleItem))
    {w : World}
    (hOvert : w.Overt) :
    (insertBatches parts).Advances w
      (fun _ v =>
        w.Wrote (w.tables.insertItems parts.flatten) v) := by
  induction parts generalizing w with
  | nil =>
      intro r w' hRun
      rcases (runs_pure_iff _ _ _ _).mp hRun with ⟨rfl, rfl⟩
      refine Or.inr ⟨(), rfl, ?_⟩
      have hWrote := (World.Kept.refl w').wrote
      simpa [Tables.insertItems] using hWrote
  | cons part rest ih =>
      have hPart :=
        (restatedPerform_advances (classify "insert schedule items")
          (.insertItems part) hOvert).mono
            (fun _ _ hDone => hDone.2)
      apply hPart.discard.bind
      · intro _ v hWrote
        exact hWrote.toHeld
      · intro _ v hWrote
        apply (ih (hWrote.overt hOvert)).mono
        intro _ u hRest
        have hAll := hWrote.trans hRest
        rw [hWrote.tables] at hAll
        simpa [Tables.insertItems, Change.run,
          List.append_assoc] using hAll

/- Complete items are inserted as they are. -/
theorem insertItems_advances
    {items : List ScheduleItem}
    {w : World}
    (hComplete : ∀ i ∈ items, i.id ≠ "" ∧ i.planId ≠ "")
    (hOvert : w.Overt) :
    (insertItems items).Advances w
      (fun stored v =>
        stored = items ∧
          w.Wrote (w.tables.insertItems items) v) := by
  unfold insertItems
  rw [completeItems_eq 0 items hComplete, pure_bind]
  apply (insertBatches_advances (batches items) hOvert).bind
  · intro _ v hWrote
    exact hWrote.toHeld
  · intro _ v hWrote r w' hRun
    rcases (runs_pure_iff _ _ _ _).mp hRun with ⟨rfl, rfl⟩
    rw [flatten_batches] at hWrote
    exact Or.inr ⟨items, rfl, rfl, hWrote⟩

/- The weekdays of a plan are stored, or nothing is. -/
theorem runs_saveWeekdays
    {choice : WeekdayChoice}
    {w w' : World}
    {r : Except Failure Unit}
    (hPlan : choice.planId ≠ "")
    (hOvert : w.Overt)
    (hRun : (saveWeekdays (some choice)).Runs w r w') :
    (∃ f, r = .error f ∧ ¬ w.Calm ∧ w.Kept w') ∨
      (r = .ok () ∧ ∃ moment,
        w.Wrote
          (w.tables.chooseWeekdays
            { choice with updatedAt := moment })
          w') := by
  have hPlanBeq : (choice.planId == "") = false := by
    simpa using hPlan
  simp only [saveWeekdays, hPlanBeq, Bool.false_eq_true,
    if_false] at hRun
  rcases (runs_bind_iff _ _ _ _ _).mp hRun with
    ⟨f, hNow, _⟩ | ⟨moment, w₁, hNow, hRest⟩
  · cases ((runs_now_iff _ _ _).mp hNow).1
  · rcases (runs_now_iff _ _ _).mp hNow with ⟨_, rfl⟩
    have hKept := World.kept_clock w (w.clock + clockTick)
    rcases (runs_discard_iff _ _ _ _).mp hRest with
      ⟨o, hPerform, rfl⟩
    rcases runs_restatedPerform (hKept.overt hOvert)
        hPerform with
      ⟨f, rfl, hRestless, hRefused⟩ | ⟨rfl, hWrote⟩
    · refine Or.inl ⟨f, rfl, ?_, hKept.trans hRefused⟩
      exact fun hCalm => hRestless (hKept.calm hCalm)
    · exact Or.inr ⟨rfl, moment, hKept.wrote.trans hWrote⟩

/-
  Whatever faults there are, weekdays are stored with the time
  at which this began, or nothing is written.
-/
theorem runs_saveWeekdays_any
    {choice : WeekdayChoice}
    {w w' : World}
    {r : Except Failure Unit}
    (hRun : (saveWeekdays (some choice)).Runs w r w') :
    w.Kept w' ∨
      (r = .ok () ∧
        w.Wrote
          (w.tables.chooseWeekdays
            { choice with updatedAt := Timestamp.ofInstant w.clock })
          w') := by
  unfold saveWeekdays at hRun
  simp only at hRun
  split at hRun
  · rcases (runs_bind_iff _ _ _ _ _).mp hRun with
      ⟨f, hThrow, _⟩ | ⟨_, _, hThrow, _⟩
    · rcases (runs_throw_iff _ _ _ _).mp hThrow with ⟨_, rfl⟩
      exact Or.inl (World.Kept.refl _)
    · cases ((runs_throw_iff _ _ _ _).mp hThrow).1
  rcases (runs_bind_iff _ _ _ _ _).mp hRun with
    ⟨f, hNow, _⟩ | ⟨moment, w₁, hNow, hSaving⟩
  · cases ((runs_now_iff _ _ _).mp hNow).1
  rcases (runs_now_iff _ _ _).mp hNow with ⟨hMoment, rfl⟩
  cases hMoment
  have hKept := World.kept_clock w (w.clock + clockTick)
  rcases (runs_discard_iff _ _ _ _).mp hSaving with ⟨o, hSave, rfl⟩
  rcases (runs_restating_iff _ _ _ _ _).mp hSave with
    ⟨o, hPerform, rfl⟩
  rcases runs_perform_any hPerform with
    ⟨_, hNothing, _⟩ | ⟨rfl, hWrote⟩
  · exact Or.inl (hKept.trans hNothing)
  · exact Or.inr ⟨rfl, hKept.wrote.trans hWrote⟩

theorem saveWeekdays_advances
    {choice : WeekdayChoice}
    {w : World}
    (hPlan : choice.planId ≠ "")
    (hOvert : w.Overt) :
    (saveWeekdays (some choice)).Advances w
      (fun _ v => ∃ moment,
        w.Wrote
          (w.tables.chooseWeekdays
            { choice with updatedAt := moment })
          v) := by
  intro r w' hRun
  rcases runs_saveWeekdays hPlan hOvert hRun with
    ⟨f, rfl, hRestless, hKept⟩ | ⟨rfl, hSaved⟩
  · exact Or.inl ⟨f, rfl, hRestless, hKept.toHeld⟩
  · exact Or.inr ⟨(), rfl, hSaved⟩

end Records

end Timetable
