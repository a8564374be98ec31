import Timetable.World.Act

/-
  This file tells what actions do.  `Act.Runs act w r w'`
  says that an action started in the world `w` has the
  outcome `r` and leaves the world `w'` behind.

  For every way of building actions there is a lemma that
  reads a run of the whole as runs of its parts; what is
  proved about actions is proved by reading their runs in
  this way.

  Key definitions include:
    * `Act.exec`
    * `Act.outcome`
    * `Act.after`
    * `Act.Runs`
-/

namespace Timetable

namespace Act

variable {α β : Type}

------------------------------------------------------------
-- Runs
------------------------------------------------------------

/- What an action makes of a world. -/
def exec
    (act : Act α)
    (w : World) : Except Failure α × World :=
  act.run.run w

/- The outcome of an action. -/
def outcome
    (act : Act α)
    (w : World) : Except Failure α :=
  (act.exec w).1

/- The world after an action. -/
def after
    (act : Act α)
    (w : World) : World :=
  (act.exec w).2

/- An action has an outcome and leaves a world behind. -/
def Runs
    (act : Act α)
    (w : World)
    (r : Except Failure α)
    (w' : World) : Prop :=
  act.exec w = (r, w')

/- Actions that do the same in every world are the same. -/
theorem ext_exec
    {x y : Act α}
    (h : ∀ w, x.exec w = y.exec w) :
    x = y :=
  funext h

/- Every action runs. -/
theorem runs_outcome_after
    (act : Act α)
    (w : World) :
    act.Runs w (act.outcome w) (act.after w) :=
  rfl

/- A run determines the outcome. -/
theorem Runs.outcome_eq
    {act : Act α}
    {w w' : World}
    {r : Except Failure α}
    (hRun : act.Runs w r w') :
    act.outcome w = r :=
  congrArg Prod.fst hRun

/- A run determines the world that is left. -/
theorem Runs.after_eq
    {act : Act α}
    {w w' : World}
    {r : Except Failure α}
    (hRun : act.Runs w r w') :
    act.after w = w' :=
  congrArg Prod.snd hRun

/- An action whose execution is known runs in one way only. -/
theorem runs_iff_of_exec
    {act : Act α}
    {w w₀ w' : World}
    {r₀ r : Except Failure α}
    (hExec : act.exec w = (r₀, w₀)) :
    act.Runs w r w' ↔ r = r₀ ∧ w' = w₀ := by
  unfold Runs
  rw [hExec]
  constructor
  · intro h
    cases h
    exact ⟨rfl, rfl⟩
  · rintro ⟨rfl, rfl⟩
    rfl

------------------------------------------------------------
-- Sequences
------------------------------------------------------------

@[simp] theorem runs_pure_iff
    (a : α)
    (w w' : World)
    (r : Except Failure α) :
    (pure a : Act α).Runs w r w' ↔
      r = .ok a ∧ w' = w :=
  runs_iff_of_exec rfl

@[simp] theorem runs_throw_iff
    (f : Failure)
    (w w' : World)
    (r : Except Failure α) :
    (throw f : Act α).Runs w r w' ↔
      r = .error f ∧ w' = w :=
  runs_iff_of_exec rfl

/- How two actions in sequence are carried out. -/
theorem exec_bind
    (x : Act α)
    (k : α → Act β)
    (w : World) :
    (x >>= k).exec w =
      match x.exec w with
      | (.ok a, w₁) => (k a).exec w₁
      | (.error f, w₁) => (.error f, w₁) := by
  change
    (match x.exec w with
      | (o, w₁) => (ExceptT.bindCont k o).run w₁) = _
  rcases x.exec w with ⟨o, w₁⟩
  cases o <;> rfl

/- What looks at the world first is given the world. -/
theorem exec_get_bind
    (k : World → Act β)
    (w : World) :
    ((MonadState.get : Act World) >>= k).exec w = (k w).exec w :=
  exec_bind _ _ _

/- After a look at the world an action goes on in the same world. -/
theorem runs_get_bind_iff
    (k : World → Act β)
    (w w' : World)
    (r : Except Failure β) :
    ((MonadState.get : Act World) >>= k).Runs w r w' ↔
      (k w).Runs w r w' := by
  unfold Runs
  rw [exec_get_bind]

/-
  A sequence fails where its first part fails; otherwise the
  second part starts in the world that the first part left.
-/
theorem runs_bind_iff
    (x : Act α)
    (k : α → Act β)
    (w w' : World)
    (r : Except Failure β) :
    (x >>= k).Runs w r w' ↔
      (∃ f, x.Runs w (.error f) w' ∧ r = .error f) ∨
        ∃ a w₁, x.Runs w (.ok a) w₁ ∧
          (k a).Runs w₁ r w' := by
  unfold Runs
  rw [exec_bind]
  rcases x.exec w with ⟨o, w₁⟩
  cases o with
  | error f =>
      constructor
      · intro h
        cases h
        exact Or.inl ⟨f, rfl, rfl⟩
      · rintro (⟨g, h, rfl⟩ | ⟨a, w₂, h, _⟩)
        · cases h
          rfl
        · cases h
  | ok a =>
      constructor
      · intro h
        exact Or.inr ⟨a, w₁, rfl, h⟩
      · rintro (⟨g, h, _⟩ | ⟨b, w₂, h, hRest⟩)
        · cases h
        · cases h
          exact hRest

/- A sequence that succeeds does so in both of its parts. -/
theorem runs_bind_ok_iff
    (x : Act α)
    (k : α → Act β)
    (w w' : World)
    (b : β) :
    (x >>= k).Runs w (.ok b) w' ↔
      ∃ a w₁, x.Runs w (.ok a) w₁ ∧
        (k a).Runs w₁ (.ok b) w' := by
  rw [runs_bind_iff]
  constructor
  · rintro (⟨f, _, h⟩ | h)
    · cases h
    · exact h
  · exact Or.inr

/- An action whose answer is changed on the way. -/
@[simp] theorem runs_map_iff
    (g : α → β)
    (x : Act α)
    (w w' : World)
    (r : Except Failure β) :
    (g <$> x).Runs w r w' ↔
      ∃ o, x.Runs w o w' ∧ r = o.map g := by
  have hBind : g <$> x = x >>= fun a => pure (g a) := by
    rw [bind_pure_comp]
  rw [hBind, runs_bind_iff]
  simp only [runs_pure_iff]
  constructor
  · rintro (⟨f, hRun, rfl⟩ | ⟨a, w₁, hRun, rfl, rfl⟩)
    · exact ⟨.error f, hRun, rfl⟩
    · exact ⟨.ok a, hRun, rfl⟩
  · rintro ⟨o, hRun, rfl⟩
    cases o with
    | error f => exact Or.inl ⟨f, hRun, rfl⟩
    | ok a => exact Or.inr ⟨a, w', hRun, rfl, rfl⟩

/- An action whose answer does not matter. -/
@[simp] theorem runs_discard_iff
    (x : Act α)
    (w w' : World)
    (r : Except Failure PUnit) :
    (discard x).Runs w r w' ↔
      ∃ o, x.Runs w o w' ∧
        r = o.map (fun _ => PUnit.unit) :=
  runs_map_iff (fun _ => PUnit.unit) x w w' r

------------------------------------------------------------
-- Outcomes
------------------------------------------------------------

/- An attempt always succeeds, with the outcome as its answer. -/
@[simp] theorem runs_attempt_iff
    (act : Act α)
    (w w' : World)
    (r : Except Failure (Except Failure α)) :
    (attempt act).Runs w r w' ↔
      ∃ o, act.Runs w o w' ∧ r = .ok o := by
  have hExec :
      (attempt act).exec w = (.ok (act.outcome w), act.after w) :=
    rfl
  rw [runs_iff_of_exec hExec]
  constructor
  · rintro ⟨rfl, rfl⟩
    exact ⟨_, runs_outcome_after act w, rfl⟩
  · rintro ⟨o, hRun, rfl⟩
    exact ⟨by rw [hRun.outcome_eq], hRun.after_eq.symm⟩

@[simp] theorem runs_resume_iff
    (o r : Except Failure α)
    (w w' : World) :
    (resume o).Runs w r w' ↔ r = o ∧ w' = w := by
  cases o with
  | error f => exact runs_throw_iff f w w' r
  | ok a => exact runs_pure_iff a w w' r

/- A restated action differs in how a failure is worded. -/
@[simp] theorem runs_restating_iff
    (restate : Failure → Failure)
    (act : Act α)
    (w w' : World)
    (r : Except Failure α) :
    (restating restate act).Runs w r w' ↔
      ∃ o, act.Runs w o w' ∧
        r = o.mapError restate := by
  unfold restating
  rw [runs_bind_iff]
  simp only [runs_attempt_iff]
  constructor
  · rintro (⟨f, ⟨o, _, h⟩, _⟩ | ⟨o, w₁, ⟨_, hRun, h⟩, hRest⟩)
    · cases h
    · cases h
      cases o with
      | error f =>
          rcases (runs_throw_iff _ _ _ _).mp hRest with
            ⟨rfl, rfl⟩
          exact ⟨.error f, hRun, rfl⟩
      | ok a =>
          rcases (runs_pure_iff _ _ _ _).mp hRest with
            ⟨rfl, rfl⟩
          exact ⟨.ok a, hRun, rfl⟩
  · rintro ⟨o, hRun, rfl⟩
    refine Or.inr ⟨o, w', ⟨o, hRun, rfl⟩, ?_⟩
    cases o with
    | error f => exact (runs_throw_iff _ _ _ _).mpr ⟨rfl, rfl⟩
    | ok a => exact (runs_pure_iff _ _ _ _).mpr ⟨rfl, rfl⟩

/- After an attempt the outcome decides how to go on. -/
theorem runs_attempt_bind_iff
    (act : Act α)
    (k : Except Failure α → Act β)
    (w w' : World)
    (r : Except Failure β) :
    (attempt act >>= k).Runs w r w' ↔
      ∃ o w₁, act.Runs w o w₁ ∧ (k o).Runs w₁ r w' := by
  rw [runs_bind_iff]
  simp only [runs_attempt_iff]
  constructor
  · rintro (⟨f, ⟨o, _, h⟩, _⟩ | ⟨o, w₁, ⟨_, hRun, h⟩, hRest⟩)
    · cases h
    · cases h
      exact ⟨o, w₁, hRun, hRest⟩
  · rintro ⟨o, w₁, hRun, hRest⟩
    exact Or.inr ⟨o, w₁, ⟨o, hRun, rfl⟩, hRest⟩

/- A sequence whose first part has its failures restated. -/
theorem runs_restating_bind_iff
    (restate : Failure → Failure)
    (act : Act α)
    (k : α → Act β)
    (w w' : World)
    (r : Except Failure β) :
    (restating restate act >>= k).Runs w r w' ↔
      (∃ f, act.Runs w (.error f) w' ∧
        r = .error (restate f)) ∨
        ∃ a w₁, act.Runs w (.ok a) w₁ ∧
          (k a).Runs w₁ r w' := by
  rw [runs_bind_iff]
  simp only [runs_restating_iff]
  constructor
  · rintro (⟨_, ⟨o, hRun, h⟩, rfl⟩ | ⟨a, w₁, ⟨o, hRun, h⟩, hRest⟩)
    · cases o with
      | error f =>
          cases h
          exact Or.inl ⟨f, hRun, rfl⟩
      | ok a => cases h
    · cases o with
      | error f => cases h
      | ok b =>
          cases h
          exact Or.inr ⟨a, w₁, hRun, hRest⟩
  · rintro (⟨f, hRun, rfl⟩ | ⟨a, w₁, hRun, hRest⟩)
    · exact Or.inl ⟨_, ⟨.error f, hRun, rfl⟩, rfl⟩
    · exact Or.inr ⟨a, w₁, ⟨.ok a, hRun, rfl⟩, hRest⟩

------------------------------------------------------------
-- The World
------------------------------------------------------------

@[simp] theorem runs_get_iff
    (w w' : World)
    (r : Except Failure World) :
    (get : Act World).Runs w r w' ↔
      r = .ok w ∧ w' = w :=
  runs_iff_of_exec rfl

@[simp] theorem runs_modify_iff
    (change : World → World)
    (w w' : World)
    (r : Except Failure PUnit) :
    (modify change : Act PUnit).Runs w r w' ↔
      r = .ok () ∧ w' = change w :=
  runs_iff_of_exec rfl

@[simp] theorem runs_settings_iff
    (w w' : World)
    (r : Except Failure Settings) :
    settings.Runs w r w' ↔
      r = .ok w.settings ∧ w' = w :=
  runs_iff_of_exec rfl

@[simp] theorem runs_now_iff
    (w w' : World)
    (r : Except Failure Timestamp) :
    now.Runs w r w' ↔
      r = .ok (Timestamp.ofInstant w.clock) ∧
        w' = { w with clock := w.clock + clockTick } :=
  runs_iff_of_exec rfl

@[simp] theorem runs_stopwatch_iff
    (w w' : World)
    (r : Except Failure Int) :
    stopwatch.Runs w r w' ↔
      r = .ok (Timestamp.ofInstant w.clock).instant ∧
        w' = { w with clock := w.clock + clockTick } :=
  runs_iff_of_exec rfl

@[simp] theorem runs_newId_iff
    (w w' : World)
    (r : Except Failure String) :
    newId.Runs w r w' ↔
      r = .ok (idOfNumber (w.issued + 1)) ∧
        w' = { w with issued := w.issued + 1 } :=
  runs_iff_of_exec rfl

@[simp] theorem runs_logEntry_iff
    (e : LogEntry)
    (w w' : World)
    (r : Except Failure Unit) :
    (logEntry e).Runs w r w' ↔
      r = .ok () ∧ w' = { w with logs := w.logs ++ [e] } :=
  runs_iff_of_exec rfl

@[simp] theorem runs_measure_iff
    (change : Metrics → Metrics)
    (w w' : World)
    (r : Except Failure Unit) :
    (measure change).Runs w r w' ↔
      r = .ok () ∧
        w' = { w with metrics := w.metrics.map change } :=
  runs_iff_of_exec rfl

/- The log of the service may be thrown away. -/
@[simp] theorem runs_note_iff
    (level : Level)
    (message : String)
    (w w' : World)
    (r : Except Failure Unit) :
    (note level message).Runs w r w' ↔
      r = .ok () ∧
        w' = { w with
          logs :=
            if w.settings.silent then w.logs
            else w.logs ++
              [{ level := level, message := message }] } := by
  apply runs_iff_of_exec
  change
    (if w.settings.silent then pure () else log level message :
      Act Unit).exec w = _
  cases w.settings.silent with
  | false => rfl
  | true => rfl

/- A request that has ended fails, and any other goes on. -/
theorem exec_checkContext
    (w : World) :
    checkContext.exec w =
      match w.context.failure? with
      | none => (.ok (), w)
      | some f => (.error f, w) := by
  unfold checkContext
  rw [exec_bind]
  change (match w.context.failure? with
    | none => _
    | some f => _ : Act Unit).exec w = _
  cases w.context.failure? <;> rfl

@[simp] theorem runs_checkContext_iff
    (w w' : World)
    (r : Except Failure Unit) :
    checkContext.Runs w r w' ↔
      w' = w ∧
        r = (match w.context.failure? with
          | none => .ok ()
          | some f => .error f) := by
  rw [runs_iff_of_exec (exec_checkContext w)]
  cases w.context.failure? <;> simp [and_comm]

------------------------------------------------------------
-- Surroundings of an Action
------------------------------------------------------------

/- A timed action runs between two looks at the clock. -/
theorem runs_timed_iff
    (act : Act α)
    (w w' : World)
    (r : Except Failure (α × Int)) :
    (timed act).Runs w r w' ↔
      (∃ f, act.Runs
          { w with clock := w.clock + clockTick }
          (.error f) w' ∧
        r = .error f) ∨
      ∃ a w₁, act.Runs
          { w with clock := w.clock + clockTick }
          (.ok a) w₁ ∧
        w' = { w₁ with clock := w₁.clock + clockTick } ∧
        r = .ok (a,
          (Timestamp.ofInstant w₁.clock).instant -
            (Timestamp.ofInstant w.clock).instant) := by
  unfold timed
  simp [runs_bind_iff, and_assoc, Except.map]

/- A timed attempt always succeeds. -/
theorem runs_timed_attempt_bind
    {act : Act α}
    {k : Except Failure α × Int → Act β}
    {w w' : World}
    {r : Except Failure β}
    (hRun : (timed (attempt act) >>= k).Runs w r w') :
    ∃ o nanos w₁,
      act.Runs { w with clock := w.clock + clockTick } o w₁ ∧
      (k (o, nanos)).Runs
        { w₁ with clock := w₁.clock + clockTick } r w' := by
  rw [runs_bind_iff] at hRun
  simp only [runs_timed_iff, runs_attempt_iff] at hRun
  rcases hRun with
    ⟨f, ⟨_, ⟨_, _, h⟩, _⟩ | ⟨_, _, _, _, h⟩, _⟩ |
      ⟨a, w₂, ⟨_, _, h⟩ | ⟨o, w₁, ⟨_, hAct, h⟩, rfl, hTimed⟩,
        hRest⟩
  · cases h
  · cases h
  · cases h
  · cases h
    cases hTimed
    exact ⟨o, _, w₁, hAct, hRest⟩

/-
  An action in a changed context has its own outcome; of the
  changed context only a cancellation is left.
-/
theorem runs_under_iff
    (change : Context → Context)
    (act : Act α)
    (w w' : World)
    (r : Except Failure α) :
    (under change act).Runs w r w' ↔
      ∃ w₁,
        act.Runs { w with context := change w.context }
          r w₁ ∧
        w' = { w₁ with
          context := w.context.taking w₁.context } := by
  unfold under
  simp only [runs_bind_iff, runs_get_iff, reduceCtorEq,
    false_and, exists_const, Except.ok.injEq,
    runs_modify_iff, true_and, runs_attempt_iff, and_false,
    exists_eq_right', runs_resume_iff, exists_eq_left,
    false_or, and_assoc, exists_and_left]
  constructor
  · rintro ⟨o, w₁, hRun, rfl, rfl⟩
    exact ⟨w₁, hRun, rfl⟩
  · rintro ⟨w₁, hRun, rfl⟩
    exact ⟨r, w₁, hRun, rfl, rfl⟩

theorem runs_limited_iff
    (act : Act α)
    (w w' : World)
    (r : Except Failure α) :
    (limited act).Runs w r w' ↔
      (under (Context.limited w.settings.requestTimeout)
        act).Runs w r w' := by
  unfold limited
  simp [runs_bind_iff, and_assoc]

end Act

end Timetable
