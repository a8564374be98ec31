import Timetable.Proofs.Service.Atomicity

/-
  This file shows that a plan whose row is refused for unknown
  columns is stored all the same.

  The refused insert stands behind a savepoint, to which the
  transaction returns.  The core columns are then inserted and
  the others are written after them, each behind a savepoint of
  its own; together they leave the row that a single insert
  would have left, up to the time of its last change.

  Key definitions include:
    * `Records.Behind`
    * `Records.IsUndone`
    * `Records.prepared`
  Main theorems include:
    * `Records.wrote_of_undone`
    * `Records.runs_changeBehindSavepoint`
    * `Service.createPlan_reduces`
-/

namespace Timetable

namespace Records

open Store Act

------------------------------------------------------------
-- Savepoints
------------------------------------------------------------

/- How an action behind a savepoint can go. -/
inductive Behind (name : String) (act : Act Unit) (w : World) :
    Except Failure Unit → World → Prop
| unmarked
    {g : Failure}
    {w' : World}
    (hMark : (mark name).Runs w (.error g) w') :
    Behind name act w (.error (.during ("savepoint " ++ name) g)) w'
| released
    {w₁ w₂ w' : World}
    (hMark : (mark name).Runs w (.ok ()) w₁)
    (hAct : act.Runs w₁ (.ok ()) w₂)
    (hRelease : (release name).Runs w₂ (.ok ()) w') :
    Behind name act w (.ok ()) w'
| unreleased
    {g : Failure}
    {w₁ w₂ w' : World}
    (hMark : (mark name).Runs w (.ok ()) w₁)
    (hAct : act.Runs w₁ (.ok ()) w₂)
    (hRelease : (release name).Runs w₂ (.error g) w') :
    Behind name act w (.error (.during ("release savepoint " ++ name) g)) w'
| returned
    {f : Failure}
    {w₁ w₂ w' : World}
    (hMark : (mark name).Runs w (.ok ()) w₁)
    (hAct : act.Runs w₁ (.error f) w₂)
    (hReturn : (returnTo name).Runs w₂ (.ok ()) w') :
    Behind name act w (.error f) w'
/- The transaction cannot return to the savepoint. -/
| stranded
    {f g : Failure}
    {w₁ w₂ w' : World}
    (hMark : (mark name).Runs w (.ok ()) w₁)
    (hAct : act.Runs w₁ (.error f) w₂)
    (hReturn : (returnTo name).Runs w₂ (.error g) w') :
    Behind name act w
      (.error (.joined f (.during ("rollback to savepoint " ++ name) g))) w'

theorem behind_of_runs
    {name : String}
    {act : Act Unit}
    {w w' : World}
    {r : Except Failure Unit}
    (hRun : (behindSavepoint .transaction name act).Runs w r w') :
    Behind name act w r w' := by
  unfold behindSavepoint at hRun
  rcases (runs_restating_bind_iff _ _ _ _ _ _).mp hRun with
    ⟨g, hMark, rfl⟩ | ⟨_, w₁, hMark, hRest⟩
  · exact .unmarked hMark
  rcases (runs_attempt_bind_iff _ _ _ _ _).mp hRest with
    ⟨o, w₂, hAct, hRest⟩
  cases o with
  | ok u =>
      rcases (runs_restating_iff _ _ _ _ _).mp hRest with
        ⟨o, hRelease, rfl⟩
      cases o with
      | ok u => exact .released hMark hAct hRelease
      | error g => exact .unreleased hMark hAct hRelease
  | error f =>
      rcases (runs_attempt_bind_iff _ _ _ _ _).mp hRest with
        ⟨o, w₃, hReturn, hRest⟩
      cases o with
      | ok u =>
          rcases (runs_throw_iff _ _ _ _).mp hRest with ⟨rfl, rfl⟩
          exact .returned hMark hAct hReturn
      | error g =>
          rcases (runs_throw_iff _ _ _ _).mp hRest with ⟨rfl, rfl⟩
          exact .stranded hMark hAct hReturn

/-
  What failed behind a savepoint was undone: the failure is
  neither that the savepoint could not be forgotten nor that
  the transaction could not return to it.
-/
def IsUndone
    (name : String)
    (f : Failure) : Prop :=
  (∀ g, f ≠ .during ("release savepoint " ++ name) g) ∧
    ∀ e g, f ≠ .joined e (.during ("rollback to savepoint " ++ name) g)

/-
  Whatever an action wrote before it failed, the transaction
  is as it was at the savepoint once that was undone.
-/
theorem wrote_of_undone
    {name : String}
    {act : Act Unit}
    {f : Failure}
    {w w' : World}
    (hAct :
      ∀ v r v', act.Runs v r v' →
        v.Held v' ∧ v'.database.savepoints = v.database.savepoints)
    (hOvert : w.Overt)
    (hRun : (behindSavepoint .transaction name act).Runs w (.error f) w')
    (hUndone : IsUndone name f) :
    w.Wrote w.tables w' := by
  cases behind_of_runs hRun with
  | unmarked hMark =>
      rcases runs_mark hOvert hMark with
        ⟨_, _, hRefused⟩ | ⟨hOk, _⟩
      · exact hRefused.kept.wrote
      · cases hOk
  | unreleased hMark hDone hRelease => exact absurd rfl (hUndone.1 _)
  | returned hMark hFailed hReturn =>
      rcases runs_mark hOvert hMark with
        ⟨_, hError, _⟩ | ⟨_, hMarked, hSavepoints⟩
      · cases hError
      rcases hAct _ _ _ hFailed with
        ⟨hHeld, hSame⟩
      have hYoungest := hSame.trans hSavepoints
      have hOvert₂ := hHeld.overt (hMarked.overt hOvert)
      rcases runs_returnTo hOvert₂ hYoungest hReturn with
        ⟨_, hError, _⟩ | ⟨_, hReturned⟩
      · cases hError
      · exact ⟨(hMarked.toHeld.trans hHeld).trans hReturned.toHeld, hReturned.tables⟩
  | stranded hMark hFailed hReturn => exact absurd rfl (hUndone.2 _ _)

/- A failure seems to be transient just when the store did not know a column or a table. -/
theorem classify_transient_iff
    {label : String}
    {f : Failure}
    (hPlain : f.hasSentinel .transient = false) :
    (classify label f).hasSentinel .transient = true ↔
      f.state? = some "42703" ∨ f.state? = some "42P01" := by
  unfold classify
  cases hState : f.state? with
  | none => simp [Failure.hasSentinel, hPlain]
  | some state =>
      by_cases hDuplicate : state = "23505"
      · subst hDuplicate
        simp [sentinelOfState, Failure.hasSentinel, hPlain]
      · by_cases hUnknown : state = "42703" ∨ state = "42P01"
        · rcases hUnknown with rfl | rfl <;>
            simp [sentinelOfState, Failure.hasSentinel]
        · rw [not_or] at hUnknown
          simp [sentinelOfState, Failure.hasSentinel, hPlain, hDuplicate, hUnknown.1, hUnknown.2]

/- The failure is that the store did not know a column or a table. -/
def IsUnknownColumn
    (name label : String)
    (f : Failure) : Prop :=
  ∃ raw, (raw.state? = some "42703" ∨ raw.state? = some "42P01") ∧
    (f = classify label raw ∨
      ∃ g, f = .joined (classify label raw) (.during ("rollback to savepoint " ++ name) g))

/- A change with its failures classified is refused or made. -/
theorem runs_classified
    {label : String}
    {c : Change}
    {w w' : World}
    {r : Except Failure Unit}
    (hOvert : w.Overt)
    (hRun : (restating (classify label) (discard (perform c))).Runs w r w') :
    (∃ raw, r = .error (classify label raw) ∧ w.Refused raw w') ∨
      (r = .ok () ∧ w.Wrote (c.run w.tables) w') := by
  rcases (runs_restating_iff _ _ _ _ _).mp hRun with
    ⟨o, hDiscard, rfl⟩
  rcases (runs_discard_iff _ _ _ _).mp hDiscard with
    ⟨o, hPerform, rfl⟩
  rcases runs_perform hOvert hPerform with
    ⟨raw, rfl, hRefused⟩ | ⟨rfl, hWrote⟩
  · exact .inl ⟨raw, rfl, hRefused⟩
  · exact .inr ⟨rfl, hWrote⟩

theorem marked_of_runs
    {name : String}
    {w w₁ : World}
    (hOvert : w.Overt)
    (hMark : (mark name).Runs w (.ok ()) w₁) :
    w.Wrote w.tables w₁ ∧ w₁.database.savepoints = (name, w.tables) :: w.database.savepoints := by
  rcases runs_mark hOvert hMark with
    ⟨_, hError, _⟩ | ⟨_, hMarked⟩
  · cases hError
  · exact hMarked

/- A change that is refused after a savepoint leaves the tables and the savepoint. -/
theorem refused_of_runs
    {name label : String}
    {c : Change}
    {f : Failure}
    {w w₁ w₂ : World}
    (hOvert : w.Overt)
    (hMark : (mark name).Runs w (.ok ()) w₁)
    (hRun : (restating (classify label) (discard (perform c))).Runs w₁ (.error f) w₂) :
    ∃ raw, f = classify label raw ∧ raw.hasSentinel .transient = false ∧ w.Wrote w.tables w₂ ∧
      w₂.database.savepoints = (name, w.tables) :: w.database.savepoints := by
  rcases marked_of_runs hOvert hMark with
    ⟨hMarked, hSavepoints⟩
  rcases runs_classified (hMarked.overt hOvert) hRun with
    ⟨raw, hError, hRefused⟩ | ⟨hOk, _⟩
  · cases hError
    have hThere := hMarked.trans hRefused.kept.wrote
    rw [hMarked.tables] at hThere
    exact ⟨raw, rfl, hRefused.plain, hThere, hRefused.kept.savepoints.trans hSavepoints⟩
  · cases hOk

theorem made_of_runs
    {name label : String}
    {c : Change}
    {w w₁ w₂ : World}
    (hOvert : w.Overt)
    (hMark : (mark name).Runs w (.ok ()) w₁)
    (hRun : (restating (classify label) (discard (perform c))).Runs w₁ (.ok ()) w₂) :
    w.Wrote (c.run w.tables) w₂ := by
  rcases marked_of_runs hOvert hMark with
    ⟨hMarked, -⟩
  rcases runs_classified (hMarked.overt hOvert) hRun with
    ⟨_, hError, _⟩ | ⟨_, hWrote⟩
  · cases hError
  · have hThere := hMarked.trans hWrote
    rwa [hMarked.tables] at hThere

/-
  A change behind a savepoint is made, or leaves the tables
  alone, unless the savepoint could not be forgotten after it.
  What seems to be transient is a refusal of the change itself.
-/
theorem runs_changeBehindSavepoint
    {name label : String}
    {c : Change}
    {w w' : World}
    {r : Except Failure Unit}
    (hOvert : w.Overt)
    (hRun :
      (behindSavepoint .transaction name
        (restating (classify label) (discard (perform c)))).Runs w r w') :
    (r = .ok () ∧ w.Wrote (c.run w.tables) w') ∨
      ∃ f, r = .error f ∧
        (f.hasSentinel .transient = true → IsUnknownColumn name label f ∧ w.Wrote w.tables w') ∧
        ((∀ g, f ≠ .during ("release savepoint " ++ name) g) → w.Wrote w.tables w') := by
  cases behind_of_runs hRun with
  | unmarked hMark =>
      rcases runs_mark hOvert hMark with
        ⟨g, hError, hRefused⟩ | ⟨hOk, _⟩
      · cases hError
        refine .inr ⟨_, rfl, fun hTransient => ?_, fun _ => hRefused.kept.wrote⟩
        simp [Failure.hasSentinel, hRefused.plain] at hTransient
      · cases hOk
  | released hMark hAct hRelease =>
      have hMade := made_of_runs hOvert hMark hAct
      rcases runs_release (hMade.overt hOvert) hRelease with
        ⟨_, hError, _⟩ | ⟨_, hReleased⟩
      · cases hError
      · have hThere := hMade.trans hReleased
        rw [hMade.tables] at hThere
        exact .inl ⟨rfl, hThere⟩
  | unreleased hMark hAct hRelease =>
      have hMade := made_of_runs hOvert hMark hAct
      rcases runs_release (hMade.overt hOvert) hRelease with
        ⟨g, hError, hRefused⟩ | ⟨hOk, _⟩
      · cases hError
        refine .inr ⟨_, rfl, fun hTransient => ?_, fun hOther => absurd rfl (hOther _)⟩
        simp [Failure.hasSentinel, hRefused.plain] at hTransient
      · cases hOk
  | returned hMark hAct hReturn =>
      rcases refused_of_runs hOvert hMark hAct with
        ⟨raw, rfl, hPlain, hThere, hYoungest⟩
      rcases runs_returnTo (hThere.overt hOvert) hYoungest hReturn with
        ⟨_, hError, _⟩ | ⟨_, hReturned⟩
      · cases hError
      · have hBack := hThere.trans hReturned
        refine .inr ⟨_, rfl, fun hTransient => ⟨⟨raw, ?_, .inl rfl⟩, hBack⟩, fun _ => hBack⟩
        exact (classify_transient_iff hPlain).mp hTransient
  | stranded hMark hAct hReturn =>
      rcases refused_of_runs hOvert hMark hAct with
        ⟨raw, rfl, hPlain, hThere, hYoungest⟩
      rcases runs_returnTo (hThere.overt hOvert) hYoungest hReturn with
        ⟨_, hError, hRefused⟩ | ⟨hOk, _⟩
      · cases hError
        have hBack := hThere.trans hRefused.kept.wrote
        rw [hThere.tables] at hBack
        refine .inr ⟨_, rfl, fun hTransient => ⟨⟨raw, ?_, .inr ⟨_, rfl⟩⟩, hBack⟩, fun _ => hBack⟩
        apply (classify_transient_iff hPlain).mp
        simpa [Failure.hasSentinel, hRefused.plain] using hTransient
      · cases hOk

------------------------------------------------------------
-- What Is Sent
------------------------------------------------------------

/- A plan as it is sent to the store. -/
def prepared
    (w : World)
    (plan : StudyPlan) : StudyPlan :=
  let moment := Timestamp.ofInstant w.clock
  { plan with
    id := if plan.id = "" then idOfNumber (w.issued + 1) else plan.id
    vacations := some (plan.vacations.getD "[]")
    createdAt := if plan.createdAt.isUnset then moment else plan.createdAt
    updatedAt := moment }

/- What becomes of the preparation of a plan that has an owner. -/
theorem exec_prepare
    {plan : StudyPlan}
    (hOwner : plan.ownerId ≠ "")
    (w : World) :
    (prepare (some plan)).exec w =
      (.ok (prepared w plan),
        { w with
          clock := w.clock + clockTick
          issued := if plan.id = "" then w.issued + 1 else w.issued }) := by
  have hOwnerBeq : (plan.ownerId == "") = false := by simpa using hOwner
  by_cases hId : plan.id = ""
  · simp only [prepare, prepared, hOwnerBeq, hId, beq_self_eq_true, Bool.false_eq_true, ↓reduceIte]
    rfl
  · have hIdBeq : (plan.id == "") = false := by simpa using hId
    simp only [prepare, prepared, hOwnerBeq, hIdBeq, hId, Bool.false_eq_true, ↓reduceIte]
    rfl

theorem runs_prepare_ok
    {plan p : StudyPlan}
    {w w' : World}
    (hRun : (prepare (some plan)).Runs w (.ok p) w') :
    p = prepared w plan ∧ plan.ownerId ≠ "" ∧ w.Kept w' := by
  have hOwner : plan.ownerId ≠ "" := by
    intro hNone
    simp only [prepare, hNone, beq_self_eq_true, ↓reduceIte] at hRun
    rcases (runs_bind_ok_iff _ _ _ _ _).mp hRun with
      ⟨_, _, hThrow, _⟩
    cases ((runs_throw_iff _ _ _ _).mp hThrow).1
  rcases (runs_iff_of_exec (exec_prepare hOwner w)).mp hRun with
    ⟨hPlan, rfl⟩
  cases hPlan
  refine ⟨rfl, hOwner, World.Alike.kept ?_ rfl⟩
  refine ⟨rfl, ?_, rfl, fun _ => rfl, rfl⟩
  show w.issued ≤ if plan.id = "" then w.issued + 1 else w.issued
  split <;> omega

/- Inserting a plan, in whole or in part, sends the prepared plan behind a savepoint. -/
theorem runs_inserting
    {name label : String}
    {change : StudyPlan → Change}
    {plan p : StudyPlan}
    {w w' : World}
    {o : Except Failure Unit}
    (hRun :
      (do
        let plan ← prepare (some plan)
        let outcome ← Act.attempt
          (behindSavepoint .transaction name
            (restating (classify label) (discard (perform (change plan)))))
        return (plan, outcome)).Runs w (.ok (p, o)) w') :
    p = prepared w plan ∧ plan.ownerId ≠ "" ∧
      ∃ w₁, w.Kept w₁ ∧
        (behindSavepoint .transaction name
          (restating (classify label) (discard (perform (change p))))).Runs w₁ o w' := by
  rcases (runs_bind_ok_iff _ _ _ _ _).mp hRun with
    ⟨p', w₁, hPrepare, hRest⟩
  rcases runs_prepare_ok hPrepare with
    ⟨rfl, hOwner, hKept⟩
  rcases (runs_attempt_bind_iff _ _ _ _ _).mp hRest with
    ⟨o', w₂, hInsert, hRest⟩
  rcases (runs_pure_iff _ _ _ _).mp hRest with
    ⟨hAnswer, rfl⟩
  cases hAnswer
  exact ⟨rfl, hOwner, w₁, hKept, hInsert⟩

/- What is inserted, in whole or in part, is the prepared plan. -/
theorem wrote_of_inserted
    {name label : String}
    {change : StudyPlan → Change}
    {plan p : StudyPlan}
    {w w' : World}
    (hOvert : w.Overt)
    (hRun :
      (do
        let plan ← prepare (some plan)
        let outcome ← Act.attempt
          (behindSavepoint .transaction name
            (restating (classify label) (discard (perform (change plan)))))
        return (plan, outcome)).Runs w (.ok (p, .ok ())) w') :
    p = prepared w plan ∧ w.Wrote ((change p).run w.tables) w' := by
  rcases runs_inserting hRun with
    ⟨hPlan, -, w₁, hKept, hInsert⟩
  rcases runs_changeBehindSavepoint (hKept.overt hOvert) hInsert with
    ⟨_, hWrote⟩ | ⟨_, hError, _⟩
  · have hThere := hKept.wrote.trans hWrote
    rw [show w₁.tables = w.tables from hKept.tables] at hThere
    exact ⟨hPlan, hThere⟩
  · cases hError

/- A row that is refused as transient has an unknown column, and nothing is written. -/
theorem wrote_of_transient
    {name label : String}
    {change : StudyPlan → Change}
    {plan p : StudyPlan}
    {f : Failure}
    {w w' : World}
    (hOvert : w.Overt)
    (hTransient : f.hasSentinel .transient = true)
    (hRun :
      (do
        let plan ← prepare (some plan)
        let outcome ← Act.attempt
          (behindSavepoint .transaction name
            (restating (classify label) (discard (perform (change plan)))))
        return (plan, outcome)).Runs w (.ok (p, .error f)) w') :
    IsUnknownColumn name label f ∧ w.Wrote w.tables w' := by
  rcases runs_inserting hRun with
    ⟨_, _, w₁, hKept, hInsert⟩
  rcases runs_changeBehindSavepoint (hKept.overt hOvert) hInsert with
    ⟨hOk, _⟩ | ⟨_, hError, hUnknown, _⟩
  · cases hOk
  · cases hError
    have hThere := hKept.wrote.trans (hUnknown hTransient).2
    rw [show w₁.tables = w.tables from hKept.tables] at hThere
    exact ⟨(hUnknown hTransient).1, hThere⟩

/- A patch is sent behind a savepoint, whether or not it is taken. -/
theorem runs_patching
    {plan : StudyPlan}
    (hId : plan.id ≠ "")
    (w : World) :
    ∃ moment o w', (patchPlan .transaction (some plan)).Runs w
        (.ok ({ plan with updatedAt := moment }, o)) w' ∧
      ∃ w₁, w.Kept w₁ ∧
        (behindSavepoint .transaction "study_plan_patch"
          (restating (classify "patch study plan")
            (discard (perform (.patchPlan { plan with updatedAt := moment }))))).Runs w₁ o w' := by
  have hIdBeq : (plan.id == "") = false := by simpa using hId
  have hRun := runs_outcome_after (patchPlan .transaction (some plan)) w
  simp only [patchPlan, hIdBeq, Bool.false_eq_true, if_false] at hRun ⊢
  rcases (runs_bind_iff _ _ _ _ _).mp hRun with
    ⟨f, hNow, _⟩ | ⟨moment, w₁, hNow, hRest⟩
  · cases ((runs_now_iff _ _ _).mp hNow).1
  rcases (runs_now_iff _ _ _).mp hNow with
    ⟨_, hClock⟩
  rcases (runs_attempt_bind_iff _ _ _ _ _).mp hRest with
    ⟨o, w₂, hPatch, hAnswer⟩
  rcases (runs_pure_iff _ _ _ _).mp hAnswer with
    ⟨hOutcome, hAfter⟩
  rw [hOutcome, hAfter] at hRun
  refine ⟨moment, o, w₂, hRun, w₁, ?_, hPatch⟩
  rw [hClock]
  exact World.kept_clock w _

end Records

namespace Service

open Store Act

------------------------------------------------------------
-- The Reduced Plan
------------------------------------------------------------

/- The core insert and the patch together leave all columns of a plan. -/
theorem patchPlan_insertCore
    {p : StudyPlan}
    {t : Tables}
    (moment : Timestamp)
    (hVacations : p.vacations.isSome = true)
    (hNew : ∀ row ∈ t.plans, row.id ≠ p.id) :
    (t.insertCore p).patchPlan { p with updatedAt := moment } =
      t.insertPlan { p with updatedAt := moment } := by
  have hRow :
      Tables.patchRow { p with updatedAt := moment } (Tables.corePlan p) =
        { p with updatedAt := moment } := by
    rcases Option.isSome_iff_exists.mp hVacations with
      ⟨text, hText⟩
    simp [Tables.patchRow, Tables.corePlan, hText]
  rw [← hRow]
  exact Tables.patchPlan_insertPlan hNew rfl

theorem prepared_id_ne_empty
    (w : World)
    (plan : StudyPlan) :
    (Records.prepared w plan).id ≠ "" := by
  show (if plan.id = "" then idOfNumber (w.issued + 1) else plan.id) ≠ ""
  split
  · exact idOfNumber_ne_empty _
  · assumption

/- A plan that was prepared before is prepared anew but for the time of its last change. -/
theorem prepared_prepared
    {plan : StudyPlan}
    {w v : World}
    (hClock : (Timestamp.ofInstant w.clock).isUnset = false) :
    Records.prepared v (Records.prepared w plan) =
      { Records.prepared w plan with updatedAt := Timestamp.ofInstant v.clock } := by
  have hId := prepared_id_ne_empty w plan
  have hCreated : (Records.prepared w plan).createdAt.isUnset = false := by
    show (if plan.createdAt.isUnset then Timestamp.ofInstant w.clock else plan.createdAt).isUnset =
      false
    split
    · exact hClock
    · simp_all
  have hVacations :
      (Records.prepared w plan).vacations = some (plan.vacations.getD "[]") := rfl
  generalize Records.prepared w plan = p at hId hCreated hVacations ⊢
  simp [Records.prepared, hId, hCreated, hVacations]

/- The core columns of a plan that was prepared twice, and then the others, make its row. -/
theorem patchPlan_insertCore_prepared
    {plan : StudyPlan}
    {w v : World}
    {t : Tables}
    (moment : Timestamp)
    (hClock : (Timestamp.ofInstant w.clock).isUnset = false)
    (hNew : ∀ row ∈ t.plans, row.id ≠ (Records.prepared w plan).id) :
    (t.insertCore (Records.prepared v (Records.prepared w plan))).patchPlan
        { Records.prepared v (Records.prepared w plan) with updatedAt := moment } =
      t.insertPlan { Records.prepared w plan with updatedAt := moment } := by
  rw [patchPlan_insertCore moment rfl (by rw [prepared_prepared hClock]; exact hNew),
    prepared_prepared hClock]

/- A plan whose core columns are taken is created, whatever becomes of the others. -/
theorem runs_createReducedPlan_of_core
    {plan p₂ p₃ : StudyPlan}
    {o : Except Failure Unit}
    {w₂ w₃ w₄ : World}
    (hCore : (Records.createCorePlan .transaction (some plan)).Runs w₂ (.ok (p₂, .ok ())) w₃)
    (hPatch : (Records.patchPlan .transaction (some p₂)).Runs w₃ (.ok (p₃, o)) w₄) :
    ∃ w₅, (createReducedPlan plan).Runs w₂ (.ok p₃) w₅ ∧ w₄.Kept w₅ := by
  have hRun := runs_outcome_after (createReducedPlan plan) w₂
  refine ⟨(createReducedPlan plan).after w₂, ?_⟩
  -- The parts of the run are those given, since an action runs in one way only.
  rcases (runs_restating_bind_iff _ _ _ _ _ _).mp hRun with
    ⟨_, hOther, _⟩ | ⟨_, _, hSame, hAnswer⟩
  · cases hCore.symm.trans hOther
  cases hCore.symm.trans hSame
  rcases (runs_restating_bind_iff _ _ _ _ _ _).mp hAnswer with
    ⟨_, hResume, _⟩ | ⟨_, _, hResume, hPatching⟩
  · cases ((runs_resume_iff _ _ _ _).mp hResume).1
  rcases (runs_resume_iff _ _ _ _).mp hResume with
    ⟨_, rfl⟩
  rcases (runs_attempt_bind_iff _ _ _ _ _).mp hPatching with
    ⟨_, _, hSame, hRest⟩
  cases hPatch.symm.trans hSame
  cases o with
  | ok u =>
      rcases (runs_pure_iff _ _ _ _).mp hRest with
        ⟨hAnswer, hAfter⟩
      rw [hAnswer] at hRun
      exact ⟨hRun, hAfter ▸ World.Kept.refl _⟩
  | error g =>
      rcases runs_note_bind hRest with
        ⟨w₅, hNoted, hRest⟩
      rcases (runs_pure_iff _ _ _ _).mp hRest with
        ⟨hAnswer, hAfter⟩
      rw [hAnswer] at hRun
      exact ⟨hRun, hAfter ▸ hNoted⟩

/- A plan whose row is refused for an unknown column is reduced. -/
theorem runs_createPlan_of_refused
    {plan p₁ p₃ : StudyPlan}
    {f : Failure}
    {w w₁ w₂ w₅ : World}
    (hInsert : (Records.createPlan .transaction (some plan)).Runs w (.ok (p₁, .error f)) w₁)
    (hTransient : f.hasSentinel .transient = true)
    (hNote :
      (note .warn "study plan insert rejected, retrying with core columns").Runs w₁ (.ok ()) w₂)
    (hReduced : (createReducedPlan p₁).Runs w₂ (.ok p₃) w₅) :
    (createPlan plan).Runs w (.ok p₃) w₅ := by
  unfold createPlan
  refine (runs_restating_bind_iff _ _ _ _ _ _).mpr (.inr ⟨_, w₁, hInsert, ?_⟩)
  simp only [hTransient, ↓reduceIte]
  exact (runs_bind_iff _ _ _ _ _).mpr (.inr ⟨(), w₂, hNote, hReduced⟩)

------------------------------------------------------------
-- Reduced and Whole Plans
------------------------------------------------------------

/-
  Savepoints undo whatever failed behind them.  Let the clock
  show a time, and let no other plan have the id of the new
  one.  A row that is refused for an unknown column leaves the
  transaction as it was.  If the core columns are then taken, the plan is created
  in any case: with the patch the tables are those that the
  whole row would have left, but for the time of the last
  change of that row; without it they are those that the core
  columns left.
-/
theorem createPlan_reduces
    {plan p₁ : StudyPlan}
    {f : Failure}
    {w w₁ : World}
    (hOvert : w.Overt)
    (hClock : (Timestamp.ofInstant w.clock).isUnset = false)
    (hInsert : (Records.createPlan .transaction (some plan)).Runs w (.ok (p₁, .error f)) w₁)
    (hTransient : f.hasSentinel .transient = true)
    (hKey : ∀ row ∈ w.tables.plans, row.id ≠ p₁.id) :
    (∀ name act g v v', v.Overt →
      (∀ u r u', Act.Runs act u r u' →
        u.Held u' ∧ u'.database.savepoints = u.database.savepoints) →
      (Records.behindSavepoint .transaction name act).Runs v (.error g) v' →
      Records.IsUndone name g →
      v'.tables = v.tables ∧ v'.database.origin = v.database.origin) ∧
    Records.IsUnknownColumn "study_plan_insert" "insert study plan" f ∧
    w₁.tables = w.tables ∧ w₁.database.origin = w.database.origin ∧
    ∀ w₂ p₂ w₃,
      (note .warn "study plan insert rejected, retrying with core columns").Runs w₁ (.ok ()) w₂ →
      (Records.createCorePlan .transaction (some p₁)).Runs w₂ (.ok (p₂, .ok ())) w₃ →
      ∃ p₃ o w₄ w₅,
        (Records.patchPlan .transaction (some p₂)).Runs w₃ (.ok (p₃, o)) w₄ ∧
        (createPlan plan).Runs w (.ok p₃) w₅ ∧ w₅.tables = w₄.tables ∧
        (o = .ok () →
          ∀ v q v', v.Overt → v.tables = w.tables → v.clock = w.clock → v.issued = w.issued →
            (Records.createPlan .transaction (some plan)).Runs v (.ok (q, .ok ())) v' →
            ∃ row moment, v'.tables = w.tables.insertPlan row ∧
              w₄.tables = w.tables.insertPlan { row with updatedAt := moment }) ∧
        (∀ g, o = .error g → Records.IsUndone "study_plan_patch" g → w₄.tables = w₃.tables) := by
  have hPlan := (Records.runs_inserting hInsert).1
  rcases Records.wrote_of_transient hOvert hTransient hInsert with
    ⟨hUnknown, hBack⟩
  refine ⟨?_, hUnknown, hBack.tables, hBack.origin, ?_⟩
  · intro name act g v v' hOvert hAct hRun hUndone
    have hWrote := Records.wrote_of_undone hAct hOvert hRun hUndone
    exact ⟨hWrote.tables, hWrote.origin⟩
  · intro w₂ p₂ w₃ hNote hCore
    have hNoted := (Aside.note _ _).keeps _ _ _ hNote
    have hThere := hBack.trans hNoted.wrote
    rw [show w₁.tables = w.tables from hBack.tables] at hThere
    rcases Records.wrote_of_inserted (hThere.overt hOvert) hCore with
      ⟨hSent, hInserted⟩
    have hIdSome : p₂.id ≠ "" := by
      rw [hSent]
      exact prepared_id_ne_empty w₂ p₁
    rcases Records.runs_patching hIdSome w₃ with
      ⟨moment, o, w₄, hPatch, w₃', hTick, hPatching⟩
    rcases runs_createReducedPlan_of_core hCore hPatch with
      ⟨w₅, hReduced, hEnd⟩
    have hCreated := runs_createPlan_of_refused hInsert hTransient hNote hReduced
    have hOvert₃ := (hThere.trans hInserted).overt hOvert
    have hPatched := Records.runs_changeBehindSavepoint (hTick.overt hOvert₃) hPatching
    rw [show w₃'.tables = w₃.tables from hTick.tables] at hPatched
    refine ⟨_, o, w₄, w₅, hPatch, hCreated, hEnd.tables, ?_, ?_⟩
    · intro hOk v q v' hOvert' hTables hSameClock hIssued hWhole
      rcases Records.wrote_of_inserted hOvert' hWhole with
        ⟨hRow, hWrote⟩
      have hSameRow : q = p₁ := by
        rw [hRow, hPlan]
        simp [Records.prepared, hSameClock, hIssued]
      refine ⟨p₁, moment, ?_, ?_⟩
      · rw [hWrote.tables, hTables, hSameRow]
        rfl
      · subst hOk
        rcases hPatched with
          ⟨_, hWhole⟩ | ⟨_, hError, _⟩
        · have hLeft : w₃.tables = w.tables.insertCore p₂ := by
            rw [hInserted.tables, hThere.tables]
            rfl
          subst hPlan hSent
          rw [hWhole.tables, hLeft]
          exact patchPlan_insertCore_prepared moment hClock hKey
        · cases hError
    · rintro g rfl hUndone
      rcases hPatched with
        ⟨hOk, _⟩ | ⟨_, hError, _, hSame⟩
      · cases hOk
      · cases hError
        exact (hSame hUndone.1).tables

/- A plan that needs all columns. -/
def widePlan : StudyPlan :=
  { StudyPlan.blank with
    ownerId := "cid", courseId := some "maths", name := "summer", minPriority := 3,
    frontOrder := some ["algebra"], moduleIds := some ["groups"], excludeCompleted := true }

/- A transaction in a store that does not know all columns of an insert. -/
def olderTransaction : World :=
  { olderStore with database := { olderStore.database with origin := some sampleTables } }

/- The world after the whole row was refused there. -/
def refusedWorld : World :=
  (Records.createPlan .transaction (some widePlan)).after olderTransaction

/- The world in which the core columns are sent. -/
def notedWorld : World :=
  (note .warn "study plan insert rejected, retrying with core columns").after refusedWorld

theorem createPlan_reduces_sample :
    let plan := Records.prepared olderTransaction widePlan
    let core := Records.prepared notedWorld plan
    ∃ p₃ w₄ w₅, refusedWorld.tables = sampleTables ∧
      (Records.patchPlan .transaction (some core)).Runs
        ((Records.createCorePlan .transaction (some plan)).after notedWorld)
        (.ok (p₃, .ok ())) w₄ ∧
      (createPlan widePlan).Runs olderTransaction (.ok p₃) w₅ ∧ w₅.tables = w₄.tables ∧
      ∃ row moment,
        ((Records.createPlan .transaction (some widePlan)).after
          { olderTransaction with database := { tables := sampleTables } }).tables =
            sampleTables.insertPlan row ∧
        w₄.tables = sampleTables.insertPlan { row with updatedAt := moment } := by
  intro plan core
  have hOvert : olderTransaction.Overt := by decide
  have hInsert :
      (Records.createPlan .transaction (some widePlan)).Runs olderTransaction
        (.ok (plan, .error (Records.classify "insert study plan"
          (.refused "42703" "no such column")))) refusedWorld :=
    rfl
  have hKey : ∀ row ∈ olderTransaction.tables.plans, row.id ≠ plan.id := by
    decide +kernel
  rcases createPlan_reduces hOvert (by decide +kernel) hInsert rfl hKey with
    ⟨-, -, hBack, -, hReduced⟩
  have hCore :
      (Records.createCorePlan .transaction (some plan)).Runs notedWorld (.ok (core, .ok ()))
        ((Records.createCorePlan .transaction (some plan)).after notedWorld) :=
    rfl
  rcases hReduced notedWorld core _ rfl hCore with
    ⟨p₃, o, w₄, w₅, hPatch, hCreated, hSame, hWhole, -⟩
  have hTaken :
      ((Records.patchPlan .transaction (some core)).outcome
        ((Records.createCorePlan .transaction (some plan)).after notedWorld)).map (·.2) =
          .ok (.ok ()) :=
    rfl
  rw [hPatch.outcome_eq] at hTaken
  cases hTaken
  exact ⟨p₃, w₄, w₅, hBack, hPatch, hCreated, hSame,
    hWhole rfl { olderTransaction with database := { tables := sampleTables } } plan _
      (by intro rule hRule; cases hRule) rfl rfl rfl rfl⟩

end Service

end Timetable
