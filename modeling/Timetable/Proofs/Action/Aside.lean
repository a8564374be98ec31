import Timetable.Proofs.Action.Runs

/-
  This file describes actions that leave the store alone.

  `World.Kept w w'` says that between two worlds nothing was
  written: the tables, the open transaction and its
  savepoints are the same, and faults were at most used up.
  `World.Held w w'` allows for changed tables, `World.Later`
  also for another transaction.  `Act.Keeps` holds of an
  action that never writes, and `Act.Aside` of an action that
  does not even look at the store.

  Key definitions include:
    * `World.Alike`
    * `World.Later`
    * `World.Held`
    * `World.Kept`
    * `Act.Keeps`
    * `Act.Aside`
-/

namespace Timetable

------------------------------------------------------------
-- Contexts
------------------------------------------------------------

/- A change of the context that cancels nothing. -/
def Context.PassesCancellation (change : Context → Context) : Prop :=
  ∀ c, (change c).canceled = c.canceled ∧
    (change c).cancelOn = c.cancelOn

theorem Context.limited_passesCancellation
    (timeout : Int) :
    Context.PassesCancellation (Context.limited timeout) :=
  fun _ => ⟨rfl, rfl⟩

theorem Context.detached_passesCancellation
    (timeout : Int) :
    Context.PassesCancellation
      (fun c => Context.limited timeout { c with detached := true }) :=
  fun _ => ⟨rfl, rfl⟩

------------------------------------------------------------
-- Worlds in Which Nothing was Written
------------------------------------------------------------

namespace World

/- The queue, the jobs it took and those it was offered. -/
def desk (w : World) : QueueMode × List DateJob × List JobOffer :=
  (w.queue, w.jobs, w.offers)

/-
  Outside the store, nothing changed that later actions
  depend on: ids are only handed out, a request is canceled
  only if that was called for, and no job is offered.
-/
structure Alike (w w' : World) : Prop where
  settings : w'.settings = w.settings
  issued : w.issued ≤ w'.issued
  context : w'.context.taking w.context = w.context
  canceled :
    w.context.cancelOn = none →
      w'.context.canceled = w.context.canceled
  desk : w'.desk = w.desk

theorem Alike.refl
    (w : World) :
    w.Alike w :=
  ⟨rfl, Nat.le_refl _, rfl, fun _ => rfl, rfl⟩

theorem Alike.cancelOn
    {w w' : World}
    (h : w.Alike w') :
    w'.context.cancelOn = w.context.cancelOn := by
  have hContext := congrArg Context.cancelOn h.context
  exact hContext

theorem Alike.expired
    {w w' : World}
    (h : w.Alike w') :
    w'.context.expired = w.context.expired := by
  have hContext := congrArg Context.expired h.context
  exact hContext

theorem Alike.jobs
    {w w' : World}
    (h : w.Alike w') :
    w'.jobs = w.jobs :=
  congrArg (fun desk => desk.2.1) h.desk

theorem Alike.offers
    {w w' : World}
    (h : w.Alike w') :
    w'.offers = w.offers :=
  congrArg (fun desk => desk.2.2) h.desk

theorem Alike.queue
    {w w' : World}
    (h : w.Alike w') :
    w'.queue = w.queue :=
  congrArg (fun desk => desk.1) h.desk

theorem Alike.trans
    {w₁ w₂ w₃ : World}
    (h₁ : w₁.Alike w₂)
    (h₂ : w₂.Alike w₃) :
    w₁.Alike w₃ where
  settings := h₂.settings.trans h₁.settings
  issued := Nat.le_trans h₁.issued h₂.issued
  context := by
    have hLater :
        w₃.context.taking w₁.context = w₂.context.taking w₁.context := by
      rw [← h₂.context]
      rfl
    rw [hLater, h₁.context]
  canceled := by
    intro hNone
    rw [h₂.canceled (h₁.cancelOn.trans hNone),
      h₁.canceled hNone]
  desk := h₂.desk.trans h₁.desk

/-
  What is alike in a changed context is alike in the context
  around it.
-/
theorem Alike.of_under
    {change : Context → Context}
    (hChange : Context.PassesCancellation change)
    {w w₁ : World}
    (h : ({ w with context := change w.context } : World).Alike w₁) :
    w.Alike
      { w₁ with context := w.context.taking w₁.context } where
  settings := h.settings
  issued := h.issued
  context := rfl
  canceled := by
    intro hNone
    rcases hChange w.context with ⟨hCanceled, hCancelOn⟩
    exact (h.canceled (hCancelOn.trans hNone)).trans hCanceled
  desk := h.desk

/- Besides, faults are at most used up. -/
structure Later (w w' : World) : Prop extends w.Alike w' where
  rules :
    ∀ rule ∈ w'.database.rules,
      ∃ old ∈ w.database.rules,
        rule.label = old.label ∧ rule.fault = old.fault

theorem Later.trans
    {w₁ w₂ w₃ : World}
    (h₁ : w₁.Later w₂)
    (h₂ : w₂.Later w₃) :
    w₁.Later w₃ where
  toAlike := h₁.toAlike.trans h₂.toAlike
  rules := by
    intro rule hRule
    rcases h₂.rules rule hRule with ⟨middle, hMiddle, hLabel, hFault⟩
    rcases h₁.rules middle hMiddle with ⟨old, hOld, hSameLabel, hSame⟩
    exact ⟨old, hOld, hLabel.trans hSameLabel, hFault.trans hSame⟩

/- The open transaction goes on. -/
structure Held (w w' : World) : Prop extends w.Later w' where
  origin : w'.database.origin = w.database.origin

theorem Held.trans
    {w₁ w₂ w₃ : World}
    (h₁ : w₁.Held w₂)
    (h₂ : w₂.Held w₃) :
    w₁.Held w₃ where
  toLater := h₁.toLater.trans h₂.toLater
  origin := h₂.origin.trans h₁.origin

/- Nothing was written to the store either. -/
structure Kept (w w' : World) : Prop extends w.Held w' where
  tables : w'.database.tables = w.database.tables
  savepoints :
    w'.database.savepoints = w.database.savepoints

/- Worlds that are alike and have the same store. -/
theorem Alike.kept
    {w w' : World}
    (h : w.Alike w')
    (hDatabase : w'.database = w.database) :
    w.Kept w' where
  toAlike := h
  tables := by rw [hDatabase]
  origin := by rw [hDatabase]
  savepoints := by rw [hDatabase]
  rules := by
    intro rule hRule
    rw [hDatabase] at hRule
    exact ⟨rule, hRule, rfl, rfl⟩

theorem Kept.refl
    (w : World) :
    w.Kept w :=
  (Alike.refl w).kept rfl

theorem Kept.trans
    {w₁ w₂ w₃ : World}
    (h₁ : w₁.Kept w₂)
    (h₂ : w₂.Kept w₃) :
    w₁.Kept w₃ where
  toHeld := h₁.toHeld.trans h₂.toHeld
  tables := h₂.tables.trans h₁.tables
  savepoints := h₂.savepoints.trans h₁.savepoints

/- Time passes. -/
theorem kept_clock
    (w : World)
    (clock : Int) :
    w.Kept { w with clock := clock } := by
  have hAlike : w.Alike { w with clock := clock } :=
    ⟨rfl, Nat.le_refl _, rfl, fun _ => rfl, rfl⟩
  exact hAlike.kept rfl

end World

------------------------------------------------------------
-- Actions that Do Not Write
------------------------------------------------------------

namespace Act

variable {α β : Type}

/- An action never writes. -/
def Keeps (act : Act α) : Prop :=
  ∀ w r w', act.Runs w r w' → w.Kept w'

namespace Keeps

theorem of_runs_iff
    {act : Act α}
    {outcome : World → Except Failure α}
    {after : World → World}
    (hRuns :
      ∀ w r w', act.Runs w r w' ↔ r = outcome w ∧ w' = after w)
    (hKept : ∀ w : World, w.Kept (after w)) :
    act.Keeps := by
  intro w r w' hRun
  rcases (hRuns w r w').mp hRun with ⟨_, rfl⟩
  exact hKept w

theorem pure
    (a : α) :
    (Pure.pure a : Act α).Keeps :=
  of_runs_iff (fun w r w' => runs_pure_iff a w w' r) World.Kept.refl

theorem throw
    (f : Failure) :
    (MonadExcept.throw f : Act α).Keeps :=
  of_runs_iff (fun w r w' => runs_throw_iff f w w' r) World.Kept.refl

theorem bind
    {x : Act α}
    {k : α → Act β}
    (hx : x.Keeps)
    (hk : ∀ a, (k a).Keeps) :
    (x >>= k).Keeps := by
  intro w r w' hRun
  rcases (runs_bind_iff x k w w' r).mp hRun with
    ⟨f, hFirst, _⟩ | ⟨a, w₁, hFirst, hSecond⟩
  · exact hx w _ w' hFirst
  · exact (hx w _ w₁ hFirst).trans (hk a w₁ r w' hSecond)

theorem attempt
    {act : Act α}
    (h : act.Keeps) :
    (Act.attempt act).Keeps := by
  intro w r w' hRun
  rcases (runs_attempt_iff act w w' r).mp hRun with
    ⟨o, hAct, _⟩
  exact h w o w' hAct

theorem resume
    (o : Except Failure α) :
    (Act.resume o).Keeps :=
  of_runs_iff (fun w r w' => runs_resume_iff o r w w') World.Kept.refl

theorem restating
    (restate : Failure → Failure)
    {act : Act α}
    (h : act.Keeps) :
    (Act.restating restate act).Keeps := by
  intro w r w' hRun
  rcases (runs_restating_iff restate act w w' r).mp hRun with
    ⟨o, hAct, _⟩
  exact h w o w' hAct

theorem timed
    {act : Act α}
    (h : act.Keeps) :
    (Act.timed act).Keeps := by
  intro w r w' hRun
  have hStart := World.kept_clock w (w.clock + clockTick)
  rcases (runs_timed_iff act w w' r).mp hRun with
    ⟨f, hAct, _⟩ | ⟨a, w₁, hAct, rfl, _⟩
  · exact hStart.trans (h _ _ w' hAct)
  · exact (hStart.trans (h _ _ w₁ hAct)).trans
      (World.kept_clock w₁ _)

theorem under
    {change : Context → Context}
    (hChange : Context.PassesCancellation change)
    {act : Act α}
    (h : act.Keeps) :
    (Act.under change act).Keeps := by
  intro w r w' hRun
  rcases (runs_under_iff change act w w' r).mp hRun with
    ⟨w₁, hAct, rfl⟩
  have hKept := h _ _ w₁ hAct
  exact
    { toAlike := hKept.toAlike.of_under hChange
      rules := hKept.rules
      origin := hKept.origin
      tables := hKept.tables
      savepoints := hKept.savepoints }

theorem settings :
    Act.settings.Keeps :=
  of_runs_iff (fun w r w' => runs_settings_iff w w' r) World.Kept.refl

theorem checkContext :
    Act.checkContext.Keeps := by
  intro w r w' hRun
  rw [((runs_checkContext_iff w w' r).mp hRun).1]
  exact World.Kept.refl w

end Keeps

------------------------------------------------------------
-- Actions that Do Not Look at the Store
------------------------------------------------------------

/-
  An action that goes on beside the store: with any other
  store it does the same, and the store stays as it is.
-/
structure Aside (act : Act α) : Prop where
  exec_database :
    ∀ (w : World) (db : Store.Database),
      act.exec { w with database := db } =
        (act.outcome w, { act.after w with database := db })
  alike : ∀ w : World, w.Alike (act.after w)

namespace Aside

theorem after_database
    {act : Act α}
    (h : act.Aside)
    (w : World) :
    (act.after w).database = w.database := by
  have hExec := h.exec_database w w.database
  exact congrArg (fun p => p.2.database) hExec

theorem database_of_runs
    {act : Act α}
    {w w' : World}
    {o : Except Failure α}
    (h : act.Aside)
    (hRun : act.Runs w o w') :
    w'.database = w.database := by
  rw [← hRun.after_eq]
  exact h.after_database w

theorem keeps
    {act : Act α}
    (h : act.Aside) :
    act.Keeps := by
  intro w r w' hRun
  have hKept := (h.alike w).kept (h.after_database w)
  rw [hRun.after_eq] at hKept
  exact hKept

/- An action that leaves the world as it is. -/
theorem of_unchanged
    {act : Act α}
    (o : Except Failure α)
    (hExec : ∀ w, act.exec w = (o, w)) :
    act.Aside where
  exec_database := by
    intro w db
    unfold outcome after
    rw [hExec, hExec]
  alike := by
    intro w
    unfold after
    rw [hExec]
    exact World.Alike.refl w

theorem pure
    (a : α) :
    (Pure.pure a : Act α).Aside :=
  of_unchanged (.ok a) (fun _ => rfl)

theorem throw
    (f : Failure) :
    (MonadExcept.throw f : Act α).Aside :=
  of_unchanged (.error f) (fun _ => rfl)

/- What stands behind a failure is not reached. -/
theorem throw_bind
    (f : Failure)
    (k : α → Act β) :
    ((MonadExcept.throw f : Act α) >>= k).Aside :=
  of_unchanged (.error f) (fun _ => rfl)

theorem bind
    {x : Act α}
    {k : α → Act β}
    (hx : x.Aside)
    (hk : ∀ a, (k a).Aside) :
    (x >>= k).Aside where
  exec_database := by
    intro w db
    have hFirst := hx.exec_database w db
    have hHere := exec_bind x k w
    have hThere := exec_bind x k { w with database := db }
    unfold outcome after at hFirst ⊢
    rw [hThere, hFirst, hHere]
    rcases x.exec w with ⟨o, w₁⟩
    cases o with
    | error f => rfl
    | ok a => exact (hk a).exec_database w₁ db
  alike := by
    intro w
    have hFirst := hx.alike w
    have hHere := exec_bind x k w
    unfold after at hFirst ⊢
    rw [hHere]
    rcases hExec : x.exec w with ⟨o, w₁⟩
    rw [hExec] at hFirst
    cases o with
    | error f => exact hFirst
    | ok a => exact hFirst.trans ((hk a).alike w₁)

theorem map
    (g : α → β)
    {x : Act α}
    (hx : x.Aside) :
    (g <$> x).Aside := by
  rw [← bind_pure_comp]
  exact hx.bind (fun a => pure (g a))

theorem attempt
    {act : Act α}
    (h : act.Aside) :
    (Act.attempt act).Aside where
  exec_database := by
    intro w db
    have hAct := h.exec_database w db
    have hExec :
        (Act.attempt act).exec { w with database := db } =
          (.ok (act.exec { w with database := db }).1,
            (act.exec { w with database := db }).2) :=
      rfl
    rw [hExec, hAct]
    rfl
  alike := h.alike

theorem resume
    (o : Except Failure α) :
    (Act.resume o).Aside := by
  cases o with
  | error f => exact throw f
  | ok a => exact pure a

theorem restating
    (restate : Failure → Failure)
    {act : Act α}
    (h : act.Aside) :
    (Act.restating restate act).Aside := by
  unfold Act.restating
  apply h.attempt.bind
  intro o
  cases o with
  | error f => exact throw (restate f)
  | ok a => exact pure a

/- A look at the world that does not depend on the store. -/
theorem get_bind
    {k : World → Act β}
    (hDatabase :
      ∀ (w : World) (db : Store.Database),
        k { w with database := db } = k w)
    (hk : ∀ w, (k w).Aside) :
    ((MonadState.get : Act World) >>= k).Aside where
  exec_database := by
    intro w db
    unfold outcome after
    rw [exec_get_bind, exec_get_bind, hDatabase]
    exact (hk w).exec_database w db
  alike := fun w => (hk w).alike w

/- A change of the world that does not depend on the store. -/
theorem of_change
    {act : Act α}
    (o : World → Except Failure α)
    (change : World → World)
    (hExec : ∀ w, act.exec w = (o w, change w))
    (hOutcome :
      ∀ (w : World) (db : Store.Database),
        o { w with database := db } = o w)
    (hDatabase :
      ∀ (w : World) (db : Store.Database),
        change { w with database := db } =
          { change w with database := db })
    (hAlike : ∀ w : World, w.Alike (change w)) :
    act.Aside where
  exec_database := by
    intro w db
    unfold outcome after
    rw [hExec, hExec, hOutcome, hDatabase]
  alike := by
    intro w
    unfold after
    rw [hExec]
    exact hAlike w

theorem settings :
    Act.settings.Aside :=
  of_change (fun w => .ok w.settings) id (fun _ => rfl)
    (fun _ _ => rfl) (fun _ _ => rfl) World.Alike.refl

theorem now :
    Act.now.Aside :=
  of_change (fun w => .ok (Timestamp.ofInstant w.clock))
    (fun w => { w with clock := w.clock + clockTick })
    (fun _ => rfl) (fun _ _ => rfl) (fun _ _ => rfl)
    (fun w => (World.kept_clock w _).toAlike)

theorem stopwatch :
    Act.stopwatch.Aside :=
  now.bind (fun _ => pure _)

theorem newId :
    Act.newId.Aside :=
  of_change (fun w => .ok (idOfNumber (w.issued + 1)))
    (fun w => { w with issued := w.issued + 1 })
    (fun _ => rfl) (fun _ _ => rfl) (fun _ _ => rfl)
    (fun _ => ⟨rfl, Nat.le_succ _, rfl, fun _ => rfl, rfl⟩)

theorem logEntry
    (e : LogEntry) :
    (Act.logEntry e).Aside :=
  of_change (fun _ => .ok ())
    (fun w => { w with logs := w.logs ++ [e] })
    (fun _ => rfl) (fun _ _ => rfl) (fun _ _ => rfl)
    (fun _ => ⟨rfl, Nat.le_refl _, rfl, fun _ => rfl, rfl⟩)

theorem log
    (level : Level)
    (message : String) :
    (Act.log level message).Aside :=
  logEntry _

theorem measure
    (change : Metrics → Metrics) :
    (Act.measure change).Aside :=
  of_change (fun _ => .ok ())
    (fun w => { w with metrics := w.metrics.map change })
    (fun _ => rfl) (fun _ _ => rfl) (fun _ _ => rfl)
    (fun _ => ⟨rfl, Nat.le_refl _, rfl, fun _ => rfl, rfl⟩)

theorem note
    (level : Level)
    (message : String) :
    (Act.note level message).Aside := by
  unfold Act.note
  apply settings.bind
  intro s
  split
  · exact pure ()
  · exact log level message

theorem checkContext :
    Act.checkContext.Aside := by
  unfold Act.checkContext
  apply get_bind
  · intro w db
    rfl
  · intro w
    split
    · exact pure ()
    · exact throw _

theorem timed
    {act : Act α}
    (h : act.Aside) :
    (Act.timed act).Aside := by
  unfold Act.timed
  apply stopwatch.bind
  intro started
  apply h.bind
  intro a
  apply stopwatch.bind
  intro ended
  exact pure _

end Aside

------------------------------------------------------------
-- Notes on the Way
------------------------------------------------------------

/- Writing to the log holds nothing up. -/
theorem runs_note_bind
    {level : Level}
    {message : String}
    {k : Unit → Act β}
    {w w' : World}
    {r : Except Failure β}
    (hRun : (note level message >>= k).Runs w r w') :
    ∃ w₁, w.Kept w₁ ∧ (k ()).Runs w₁ r w' := by
  rcases (runs_bind_iff _ _ _ _ _).mp hRun with
    ⟨f, hNote, _⟩ | ⟨_, w₁, hNote, hRest⟩
  · cases ((runs_note_iff _ _ _ _ _).mp hNote).1
  · exact ⟨w₁, (Aside.note level message).keeps _ _ _ hNote, hRest⟩

/- Keeping figures holds nothing up. -/
theorem runs_measure_bind
    {change : Metrics → Metrics}
    {k : Unit → Act β}
    {w w' : World}
    {r : Except Failure β}
    (hRun : (measure change >>= k).Runs w r w') :
    ∃ w₁, w.Kept w₁ ∧ (k ()).Runs w₁ r w' := by
  rcases (runs_bind_iff _ _ _ _ _).mp hRun with
    ⟨f, hMeasure, _⟩ | ⟨_, w₁, hMeasure, hRest⟩
  · cases ((runs_measure_iff _ _ _ _).mp hMeasure).1
  · exact ⟨w₁, (Aside.measure change).keeps _ _ _ hMeasure, hRest⟩

end Act

end Timetable
