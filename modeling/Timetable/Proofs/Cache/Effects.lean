import Timetable.Proofs.Service.Content

/-
  This file tells what actions do to the content of the
  cache.  A look into it and the statements to the store add
  nothing, keeping a value adds this value alone, and
  forgetting a pattern takes values away.

  Key definitions include:
    * `World.Gains`
    * `Act.Adds`

  Main theorems include:
    * `Cache.Server.get?_put`: a stored value stands under its
      own key
    * `Cache.storeValue_adds`: only a value that can be written
      is stored
    * `Cache.forget_adds`: forgetting adds nothing
-/

namespace Timetable

open Act

------------------------------------------------------------
-- The Server
------------------------------------------------------------

namespace Cache.Server

theorem find?_insertEntry
    (e : Entry)
    (key : String)
    (entries : List Entry) :
    (insertEntry e entries).find? (fun old => old.key == key) =
      if e.key = key then some e else entries.find? (fun old => old.key == key) := by
  induction entries with
  | nil => by_cases h : e.key = key <;> simp [insertEntry, h]
  | cons old rest ih =>
      rw [insertEntry]
      split
      · rename_i hSame
        have hKey : e.key = old.key := by simpa using hSame
        by_cases h : e.key = key <;> simp_all
      · rename_i hOther
        have hKey : e.key ≠ old.key := by simpa using hOther
        split
        · by_cases h : e.key = key <;> simp [List.find?_cons, h]
        · by_cases h : e.key = key
          · have hPassed : old.key ≠ key := fun hOld => hKey (h.trans hOld.symm)
            simp [hPassed, ih, h]
          · simp [List.find?_cons, ih, h]

/- A stored value stands under its own key, and changes no other. -/
theorem get?_put
    (key value : String)
    (lifetime : Lifetime)
    (s : Server)
    (other : String) :
    (s.put key value lifetime).get? other =
      if key = other then some value else s.get? other := by
  simp only [get?, find?, put, find?_insertEntry]
  split <;> rfl

/- What is found after a key was removed was there before. -/
theorem get?_of_delete
    {key other text : String}
    {s : Server}
    (hFound : (s.delete key).get? other = some text) :
    s.get? other = some text := by
  have hRemoved : (s.delete key).get? key = none := by
    simp [get?, find?, delete]
  have hOther : other ≠ key := by
    rintro rfl
    rw [hRemoved] at hFound
    cases hFound
  rw [← hFound]
  simp only [get?, find?, delete, List.find?_filter]
  congr 2
  funext e
  by_cases h : e.key = other <;> simp [h, hOther]

end Cache.Server

------------------------------------------------------------
-- Actions and What They Add
------------------------------------------------------------

/-
  A value in the cache was there before, or is one of those
  that may be added in the key space.
-/
structure World.Gains
    (allowed : String → String → String → Prop)
    (w w' : World) : Prop where
  keySpace : w'.settings.keySpace = w.settings.keySpace
  values :
    ∀ key text,
      w'.cache.get? key = some text →
        w.cache.get? key = some text ∨ allowed w.settings.keySpace key text

namespace Act

variable {α β : Type} {allowed : String → String → String → Prop}

/- An action adds no other values to the cache. -/
def Adds
    (allowed : String → String → String → Prop)
    (act : Act α) : Prop :=
  ∀ w r w', act.Runs w r w' → w.Gains allowed w'

end Act

theorem World.Gains.of_same
    {allowed : String → String → String → Prop}
    {w w' : World}
    (hSettings : w'.settings = w.settings)
    (hCache : w'.cache = w.cache) :
    w.Gains allowed w' :=
  ⟨by rw [hSettings], fun key text hFound => .inl (by rwa [← hCache])⟩

theorem World.Gains.trans
    {allowed : String → String → String → Prop}
    {w₁ w₂ w₃ : World}
    (h₁ : w₁.Gains allowed w₂)
    (h₂ : w₂.Gains allowed w₃) :
    w₁.Gains allowed w₃ where
  keySpace := h₂.keySpace.trans h₁.keySpace
  values := by
    intro key text hFound
    rcases h₂.values key text hFound with hBefore | hAdded
    · exact h₁.values key text hBefore
    · exact .inr (by rwa [← h₁.keySpace])

/- Only the settings and the cache matter. -/
theorem World.Gains.congr
    {allowed : String → String → String → Prop}
    {v v' w w' : World}
    (h : v.Gains allowed v')
    (hBefore : v.settings = w.settings ∧ v.cache = w.cache)
    (hAfter : w'.settings = v'.settings ∧ w'.cache = v'.cache) :
    w.Gains allowed w' :=
  ((World.Gains.of_same hBefore.1 hBefore.2).trans h).trans (.of_same hAfter.1 hAfter.2)

namespace Act.Adds

variable {α β : Type} {allowed : String → String → String → Prop}

theorem of_runs_iff
    {act : Act α}
    {outcome : World → Except Failure α}
    {after : World → World}
    (hRuns :
      ∀ w r w', act.Runs w r w' ↔ r = outcome w ∧ w' = after w)
    (hGains : ∀ w : World, w.Gains allowed (after w)) :
    act.Adds allowed := by
  intro w r w' hRun
  rcases (hRuns w r w').mp hRun with ⟨_, rfl⟩
  exact hGains w

theorem pure
    (a : α) :
    (Pure.pure a : Act α).Adds allowed :=
  of_runs_iff (fun w r w' => runs_pure_iff a w w' r) (fun _ => .of_same rfl rfl)

theorem throw
    (f : Failure) :
    (MonadExcept.throw f : Act α).Adds allowed :=
  of_runs_iff (fun w r w' => runs_throw_iff f w w' r) (fun _ => .of_same rfl rfl)

/- What stands behind a failure is not reached. -/
theorem throw_bind
    (f : Failure)
    (k : α → Act β) :
    ((MonadExcept.throw f : Act α) >>= k).Adds allowed :=
  of_runs_iff (fun _ _ _ => runs_iff_of_exec rfl) (fun _ => .of_same rfl rfl)

theorem bind
    {x : Act α}
    {k : α → Act β}
    (hx : x.Adds allowed)
    (hk : ∀ a, (k a).Adds allowed) :
    (x >>= k).Adds allowed := by
  intro w r w' hRun
  rcases (runs_bind_iff x k w w' r).mp hRun with
    ⟨f, hFirst, _⟩ | ⟨a, w₁, hFirst, hSecond⟩
  · exact hx w _ w' hFirst
  · exact (hx w _ w₁ hFirst).trans (hk a w₁ r w' hSecond)

theorem attempt
    {act : Act α}
    (h : act.Adds allowed) :
    (Act.attempt act).Adds allowed := by
  intro w r w' hRun
  rcases (runs_attempt_iff act w w' r).mp hRun with
    ⟨o, hAct, _⟩
  exact h w o w' hAct

theorem restating
    (restate : Failure → Failure)
    {act : Act α}
    (h : act.Adds allowed) :
    (Act.restating restate act).Adds allowed := by
  intro w r w' hRun
  rcases (runs_restating_iff restate act w w' r).mp hRun with
    ⟨o, hAct, _⟩
  exact h w o w' hAct

theorem resume
    (o : Except Failure α) :
    (Act.resume o).Adds allowed :=
  of_runs_iff (fun w r w' => runs_resume_iff o r w w') (fun _ => .of_same rfl rfl)

/- A success is passed on to what follows. -/
theorem resume_ok_bind
    {a : α}
    {k : α → Act β}
    (hk : (k a).Adds allowed) :
    (Act.resume (.ok a) >>= k).Adds allowed :=
  hk

theorem checkContext :
    Act.checkContext.Adds allowed := by
  intro w r w' hRun
  rw [((runs_checkContext_iff w w' r).mp hRun).1]
  exact .of_same rfl rfl

theorem now :
    Act.now.Adds allowed :=
  of_runs_iff (fun w r w' => runs_now_iff w w' r) (fun _ => .of_same rfl rfl)

theorem timed
    {act : Act α}
    (h : act.Adds allowed) :
    (Act.timed act).Adds allowed := by
  have hStopwatch : Act.stopwatch.Adds allowed :=
    now.bind (fun _ => pure _)
  exact hStopwatch.bind (fun _ => h.bind (fun _ => hStopwatch.bind (fun _ => pure _)))

theorem get :
    (MonadState.get : Act World).Adds allowed :=
  of_runs_iff (fun w r w' => runs_get_iff w w' r) (fun _ => .of_same rfl rfl)

theorem settings :
    Act.settings.Adds allowed :=
  of_runs_iff (fun w r w' => runs_settings_iff w w' r) (fun _ => .of_same rfl rfl)

theorem measure
    (change : Metrics → Metrics) :
    (Act.measure change).Adds allowed :=
  of_runs_iff (fun w r w' => runs_measure_iff change w w' r) (fun _ => .of_same rfl rfl)

theorem log
    (level : Level)
    (message : String) :
    (Act.log level message).Adds allowed :=
  of_runs_iff (fun w r w' => runs_logEntry_iff _ w w' r) (fun _ => .of_same rfl rfl)

end Act.Adds

namespace Records

variable {allowed : String → String → String → Prop}

/- Statements go to the store, not to the cache. -/
theorem fetch_adds
    (l : Store.Lookup) :
    (fetch l).Adds allowed := by
  intro w r w' hRun
  unfold Runs fetch at hRun
  rw [exec_send] at hRun
  split at hRun
  · cases hRun
    exact .of_same rfl rfl
  · simp only at hRun
    split at hRun <;> cases hRun <;> exact .of_same rfl rfl

theorem listLessons_adds
    (f : Store.LessonFilter) :
    (listLessons f).Adds allowed := by
  unfold listLessons
  split
  · exact Adds.pure _
  · exact (fetch_adds _).restating _

end Records

------------------------------------------------------------
-- The Actions on the Cache
------------------------------------------------------------

namespace Cache

variable {α : Type} {allowed : String → String → String → Prop}

theorem isConnected_adds : isConnected.Adds allowed :=
  Adds.settings.bind (fun _ => Adds.pure _)

theorem isEnabled_adds : isEnabled.Adds allowed :=
  Adds.settings.bind (fun _ => Adds.pure _)

theorem defaultTtl_adds : defaultTtl.Adds allowed :=
  Adds.settings.bind (fun _ => Adds.pure _)

theorem command_adds
    (c : Command) :
    (command c).Adds allowed := by
  intro w r w' hRun
  rw [runs_command hRun]
  exact .of_same rfl rfl

theorem fetchSnapshot_adds
    (key : String)
    (decode : Json → Except String α) :
    (fetchSnapshot key decode).Adds allowed := by
  unfold fetchSnapshot
  apply isConnected_adds.bind
  intro connected
  split
  · apply ((command_adds .get).restating _).bind
    intro _
    apply Adds.get.bind
    intro w
    split
    · exact Adds.throw _
    · simp only
      split
      · exact Adds.throw _
      · split
        · exact Adds.pure _
        · exact Adds.throw _
  · exact Adds.throw_bind _ _

theorem lookUp_adds
    (key : String)
    (decode : Json → Except String α) :
    (lookUp key decode).Adds allowed := by
  unfold lookUp
  apply isEnabled_adds.bind
  intro enabled
  split
  · apply ((fetchSnapshot_adds key decode).attempt.timed).bind
    rintro ⟨outcome, nanos⟩
    apply (Adds.measure _).bind
    intro _
    cases outcome with
    | ok a => exact Adds.pure _
    | error f =>
        simp only
        split
        · exact Adds.pure _
        · exact (Adds.log _ _).bind (fun _ => Adds.throw f)
  · exact Adds.pure _

theorem storeSnapshot_adds
    {key text : String}
    (hAllowed : ∀ space, allowed space (fullKey space key) text)
    (ttl : Int) :
    (storeSnapshot key text ttl).Adds allowed := by
  unfold storeSnapshot
  apply isConnected_adds.bind
  intro connected
  split
  · apply ((command_adds .set).restating _).bind
    intro _
    refine Adds.of_runs_iff (fun w r w' => runs_modify_iff _ w w' r) (fun w => ⟨rfl, ?_⟩)
    intro other found hFound
    rw [Server.get?_put] at hFound
    split at hFound
    · rename_i hKey
      cases hFound
      exact .inr (hKey ▸ hAllowed w.settings.keySpace)
    · exact .inl hFound
  · exact Adds.pure ()

/- Only a value that can be written is stored. -/
theorem storeValue_adds
    {key : String}
    {v : Json}
    (hAllowed : v.refusal? = none → ∀ space, allowed space (fullKey space key) v.render)
    (ttl : Int) :
    (storeValue key v ttl).Adds allowed := by
  unfold storeValue
  apply isConnected_adds.bind
  intro connected
  split
  · split
    · exact Adds.throw _
    · rename_i hNone
      exact storeSnapshot_adds (hAllowed hNone) ttl
  · exact Adds.pure ()

theorem storeFor_adds
    (ttl : Int)
    {store : Int → Act Unit}
    (hStore : ∀ ttl, (store ttl).Adds allowed) :
    (storeFor ttl store).Adds allowed := by
  have hMeasured : ∀ ttl, (storeMeasured (store ttl)).Adds allowed := by
    intro ttl
    apply ((hStore ttl).attempt.timed).bind
    rintro ⟨outcome, nanos⟩
    apply (Adds.measure _).bind
    intro _
    cases outcome with
    | ok a => exact Adds.pure _
    | error f => exact (Adds.log _ _).bind (fun _ => Adds.throw f)
  unfold storeFor
  apply isEnabled_adds.bind
  intro enabled
  split
  · by_cases hTtl : 0 < ttl
    · simp only [hTtl, if_true]
      exact (Adds.pure ttl).bind hMeasured
    · simp only [hTtl, if_false]
      exact defaultTtl_adds.bind hMeasured
  · exact Adds.pure _

theorem byCommands_scan_adds
    (pattern : String) :
    (byCommands.scan pattern).Adds allowed :=
  (command_adds .scan).bind fun _ =>
    Adds.get.bind (fun _ => Adds.pure _)

theorem byCommands_del_adds
    (key : String) :
    (byCommands.del key).Adds allowed := by
  have hDelete :
      (modify (fun w : World =>
        { w with cache := w.cache.delete key }) : Act Unit).Adds allowed :=
    Adds.of_runs_iff (fun w r w' => runs_modify_iff _ w w' r)
      (fun _ => ⟨rfl, fun _ _ hFound => .inl (Server.get?_of_delete hFound)⟩)
  exact (command_adds .del).bind (fun _ => hDelete)

theorem deleteKeys_adds
    (keys : List String) :
    (byCommands.deleteKeys keys).Adds allowed := by
  induction keys with
  | nil => exact Adds.pure ()
  | cons key rest ih =>
      exact ((byCommands_del_adds key).restating _).bind (fun _ => ih)

/- Forgetting adds nothing, however far it comes. -/
theorem forget_adds
    (pattern : String) :
    (forget pattern).Adds allowed := by
  have hDrop : (byCommands.dropSnapshots pattern).Adds allowed := by
    unfold Removal.dropSnapshots
    apply isConnected_adds.bind
    intro connected
    split
    · apply Adds.settings.bind
      intro settings
      apply ((byCommands_scan_adds _).restating _).bind
      intro keys
      exact (deleteKeys_adds keys).bind (fun _ => Adds.log _ _)
    · exact Adds.pure ()
  unfold forget Removal.forget
  apply isEnabled_adds.bind
  intro enabled
  split
  · apply hDrop.attempt.bind
    intro o
    cases o with
    | ok _ => exact Adds.pure ()
    | error f => exact (Adds.log _ _).bind (fun _ => Adds.throw f)
  · exact Adds.pure ()

end Cache

end Timetable
