import Timetable.Proofs.Store.Statements
import Timetable.Service.Content

/-
  This file tells what the content of a plan is gathered from.
  Gathering it writes nothing to the store.  When the cache
  tells the truth it yields the lessons of the catalog that
  are eligible, and in a calm world it does not fail.

  Key definitions include:
    * `Service.CacheTruthful`
    * `Service.completedOf`
    * `Service.eligibleLessons`

  Main theorems include:
    * `Service.loadContent_keeps`
    * `Service.runs_loadContent`
    * `Service.runs_loadContent_calm`
-/

namespace Timetable

open Store Act

------------------------------------------------------------
-- The Cache
------------------------------------------------------------

namespace Cache

variable {α : Type}

theorem isConnected_aside : isConnected.Aside :=
  Aside.settings.bind (fun _ => Aside.pure _)

theorem isEnabled_aside : isEnabled.Aside :=
  Aside.settings.bind (fun _ => Aside.pure _)

/- What asks first whether there is a connection goes on with the answer. -/
theorem runs_isConnected_bind_iff
    {β : Type}
    (k : Bool → Act β)
    (w w' : World)
    (o : Except Failure β) :
    (isConnected >>= k).Runs w o w' ↔
      (k (w.settings.cacheMode == .connected)).Runs w o w' := by
  unfold Runs
  rw [exec_bind]
  rfl

theorem runs_isEnabled_bind_iff
    {β : Type}
    (k : Bool → Act β)
    (w w' : World)
    (o : Except Failure β) :
    (isEnabled >>= k).Runs w o w' ↔
      (k (w.settings.cacheMode == .connected ||
        w.settings.cacheMode == .unconnected)).Runs w o w' := by
  unfold Runs
  rw [exec_bind]
  rfl

theorem command_aside
    (c : Command) :
    (command c).Aside := by
  unfold command
  apply Aside.checkContext.bind
  intro _
  apply Aside.get_bind
  · intro w db
    rfl
  · intro w
    split
    · exact Aside.throw _
    · exact Aside.pure _

/- Sending a command to the server leaves the world as it is. -/
theorem runs_command
    {c : Command}
    {w w' : World}
    {r : Except Failure Unit}
    (hRun : (command c).Runs w r w') :
    w' = w := by
  unfold command at hRun
  rcases (runs_bind_iff _ _ _ _ _).mp hRun with
    ⟨f, hCheck, _⟩ | ⟨_, w₁, hCheck, hAsking⟩
  · exact ((runs_checkContext_iff _ _ _).mp hCheck).1
  · rcases (runs_checkContext_iff _ _ _).mp hCheck with ⟨rfl, _⟩
    rcases (runs_bind_iff _ _ _ _ _).mp hAsking with
      ⟨f, hGet, _⟩ | ⟨_, w₂, hGet, hAsked⟩
    · cases ((runs_get_iff _ _ _).mp hGet).1
    · rcases (runs_get_iff _ _ _).mp hGet with ⟨_, rfl⟩
      split at hAsked
      · exact ((runs_throw_iff _ _ _ _).mp hAsked).2
      · exact ((runs_pure_iff _ _ _ _).mp hAsked).2

theorem fetchSnapshot_aside
    (key : String)
    (decode : Json → Except String α) :
    (fetchSnapshot key decode).Aside := by
  unfold fetchSnapshot
  apply isConnected_aside.bind
  intro connected
  split
  · apply ((command_aside .get).restating _).bind
    intro _
    apply Aside.get_bind
    · intro w db
      rfl
    · intro w
      split
      · exact Aside.throw _
      · simp only
        split
        · exact Aside.throw _
        · split
          · exact Aside.pure _
          · exact Aside.throw _
  · exact Aside.throw_bind _ _

theorem storeSnapshot_aside
    (key text : String)
    (ttl : Int) :
    (storeSnapshot key text ttl).Aside := by
  unfold storeSnapshot
  apply isConnected_aside.bind
  intro connected
  split
  · apply ((command_aside .set).restating _).bind
    intro _
    exact Aside.of_change (fun _ => .ok ())
      (fun w =>
        { w with
          cache :=
            w.cache.put (fullKey w.settings.keySpace key) text
              (.ofNanos ttl) })
      (fun _ => rfl) (fun _ _ => rfl) (fun _ _ => rfl)
      (fun _ => ⟨rfl, Nat.le_refl _, rfl, fun _ => rfl, rfl⟩)
  · exact Aside.pure ()

theorem storeValue_aside
    (key : String)
    (v : Json)
    (ttl : Int) :
    (storeValue key v ttl).Aside := by
  unfold storeValue
  apply isConnected_aside.bind
  intro connected
  split
  · split
    · exact Aside.throw _
    · exact storeSnapshot_aside key v.render ttl
  · exact Aside.pure ()

theorem lookUp_aside
    (key : String)
    (decode : Json → Except String α) :
    (lookUp key decode).Aside := by
  unfold lookUp
  apply isEnabled_aside.bind
  intro enabled
  split
  · apply ((fetchSnapshot_aside key decode).attempt.timed).bind
    rintro ⟨outcome, nanos⟩
    apply (Aside.measure _).bind
    intro _
    cases outcome with
    | ok a => exact Aside.pure _
    | error f =>
        simp only
        split
        · exact Aside.pure _
        · exact (Aside.log _ _).bind (fun _ => Aside.throw f)
  · exact Aside.pure _

theorem defaultTtl_aside : defaultTtl.Aside :=
  Aside.settings.bind (fun _ => Aside.pure _)

theorem storeMeasured_aside
    {store : Act Unit}
    (hStore : store.Aside) :
    (storeMeasured store).Aside := by
  unfold storeMeasured
  apply (hStore.attempt.timed).bind
  rintro ⟨outcome, nanos⟩
  apply (Aside.measure _).bind
  intro _
  cases outcome with
  | ok a => exact Aside.pure _
  | error f => exact (Aside.log _ _).bind (fun _ => Aside.throw f)

theorem storeFor_aside
    (ttl : Int)
    {store : Int → Act Unit}
    (hStore : ∀ ttl, (store ttl).Aside) :
    (storeFor ttl store).Aside := by
  have hMeasured := fun ttl => storeMeasured_aside (hStore ttl)
  unfold storeFor
  apply isEnabled_aside.bind
  intro enabled
  split
  · by_cases hTtl : 0 < ttl
    · simp only [hTtl, if_true]
      exact (Aside.pure ttl).bind hMeasured
    · simp only [hTtl, if_false]
      exact defaultTtl_aside.bind hMeasured
  · exact Aside.pure _

theorem rememberValue_aside
    (key : String)
    (v : Json)
    (ttl : Int) :
    (rememberValue key v ttl).Aside :=
  storeFor_aside ttl (storeValue_aside key v)

theorem byCommands_scan_aside
    (pattern : String) :
    (byCommands.scan pattern).Aside :=
  (command_aside .scan).bind fun _ =>
    Aside.get_bind (fun _ _ => rfl) (fun _ => Aside.pure _)

theorem byCommands_del_aside
    (key : String) :
    (byCommands.del key).Aside := by
  have hDelete :
      (modify (fun w : World =>
        { w with cache := w.cache.delete key }) : Act Unit).Aside :=
    Aside.of_change (fun _ => .ok ())
      (fun w => { w with cache := w.cache.delete key })
      (fun _ => rfl) (fun _ _ => rfl) (fun _ _ => rfl)
      (fun _ => ⟨rfl, Nat.le_refl _, rfl, fun _ => rfl, rfl⟩)
  exact (command_aside .del).bind (fun _ => hDelete)

theorem deleteKeys_aside
    (keys : List String) :
    (byCommands.deleteKeys keys).Aside := by
  induction keys with
  | nil => exact Aside.pure ()
  | cons key rest ih =>
      exact ((byCommands_del_aside key).restating _).bind (fun _ => ih)

theorem dropSnapshots_aside
    (pattern : String) :
    (byCommands.dropSnapshots pattern).Aside := by
  unfold Removal.dropSnapshots
  apply isConnected_aside.bind
  intro connected
  split
  · apply Aside.settings.bind
    intro settings
    apply ((byCommands_scan_aside _).restating _).bind
    intro keys
    apply (deleteKeys_aside keys).bind
    intro _
    exact Aside.log _ _
  · exact Aside.pure ()

theorem forget_aside
    (pattern : String) :
    (forget pattern).Aside := by
  unfold forget Removal.forget
  apply isEnabled_aside.bind
  intro enabled
  split
  · apply (dropSnapshots_aside pattern).attempt.bind
    intro o
    cases o with
    | ok _ => exact Aside.pure ()
    | error f => exact (Aside.log _ _).bind (fun _ => Aside.throw f)
  · exact Aside.pure ()

theorem ping_aside : ping.Aside := by
  unfold ping
  apply isConnected_aside.bind
  intro connected
  split
  · exact command_aside .ping
  · exact Aside.pure ()

end Cache

namespace Service

open Plan

------------------------------------------------------------
-- Reading Writes Nothing
------------------------------------------------------------

theorem cachedLessons_aside
    (f : LessonFilter) :
    (cachedLessons f).Aside := by
  unfold cachedLessons
  apply (Cache.lookUp_aside _ _).attempt.bind
  intro o
  cases o with
  | ok found => exact Aside.pure _
  | error f => exact Aside.pure _

theorem listLessons_keeps
    (f : LessonFilter) :
    (Records.listLessons f).Keeps := by
  unfold Records.listLessons
  split
  · exact Keeps.pure _
  · exact (Records.fetch_keeps _ (fun _ => rfl)).restating _

theorem loadLessons_keeps
    (f : LessonFilter) :
    (loadLessons f).Keeps := by
  unfold loadLessons
  apply ((listLessons_keeps f).attempt.timed).bind
  rintro ⟨o, nanos⟩
  apply (Aside.measure _).keeps.bind
  intro _
  apply (Keeps.resume o).bind
  intro lessons
  apply Keeps.settings.bind
  intro settings
  apply ((Cache.rememberValue_aside _ _ _).attempt.keeps).bind
  intro _
  exact Keeps.pure lessons

theorem lessons_keeps
    (f : LessonFilter) :
    (lessons f).Keeps := by
  unfold lessons
  apply (cachedLessons_aside f).keeps.bind
  intro found
  cases found with
  | some found => exact Keeps.pure found
  | none =>
      apply Keeps.settings.bind
      intro settings
      have hLoad :=
        (loadLessons_keeps f).under
          (Context.detached_passesCancellation
            settings.requestTimeout)
      apply hLoad.attempt.bind
      intro o
      apply Keeps.checkContext.bind
      intro _
      exact Keeps.resume o

theorem completedBefore_keeps
    (owner : String)
    (r : GenerateRequest) :
    (completedBefore owner r).Keeps := by
  unfold completedBefore
  split
  · unfold Records.completedLessons
    exact ((Records.fetch_keeps _ (fun _ => rfl)).restating
      _).restating _
  · exact Keeps.pure _

/- Gathering the content of a plan writes nothing. -/
theorem loadContent_keeps
    (owner : String)
    (r : GenerateRequest)
    (speed : Float) :
    (loadContent owner r speed).Keeps := by
  unfold loadContent
  apply ((lessons_keeps _).restating _).attempt.bind
  intro found
  apply (completedBefore_keeps owner r).attempt.bind
  intro completed
  apply (Keeps.resume found).bind
  intro found
  apply (Keeps.resume completed).bind
  intro completed
  apply Keeps.settings.bind
  intro settings
  exact Keeps.pure _

------------------------------------------------------------
-- What the Catalog Answers
------------------------------------------------------------

/- What is cached for a filter, if anything, is what the catalog answers. -/
def CacheTruthful
    (f : LessonFilter)
    (w : World) : Prop :=
  w.settings.cacheMode = .connected →
    ∀ text v found,
      w.cache.get?
        (Cache.fullKey w.settings.keySpace (catalogKey f)) =
          some text →
      Json.whole text = .ok v →
      decodeSnapshot v = .ok found →
      found = w.tables.chosenLessons f

/- What a look into the cache finds was decoded from its content. -/
theorem runs_fetchSnapshot_ok
    {α : Type}
    {key : String}
    {decode : Json → Except String α}
    {a : α}
    {w w' : World}
    (hRun : (Cache.fetchSnapshot key decode).Runs w (.ok a) w') :
    w.settings.cacheMode = .connected ∧
      ∃ text v,
        w.cache.get? (Cache.fullKey w.settings.keySpace key) =
          some text ∧
        Json.whole text = .ok v ∧ decode v = .ok a := by
  have hGoing := (Cache.runs_isConnected_bind_iff _ _ _ _).mp hRun
  split at hGoing
  · rename_i hMode
    refine ⟨by simpa using hMode, ?_⟩
    rw [runs_bind_ok_iff] at hGoing
    rcases hGoing with ⟨_, w₂, hCommand, hReading⟩
    have hSame : w₂ = w := by
      rcases (runs_restating_iff _ _ _ _ _).mp hCommand with
        ⟨o, hCommand, _⟩
      exact Cache.runs_command hCommand
    subst hSame
    rw [runs_bind_ok_iff] at hReading
    rcases hReading with ⟨_, w₃, hGet, hDecoding⟩
    rcases (runs_get_iff _ _ _).mp hGet with ⟨hHere, rfl⟩
    cases hHere
    split at hDecoding
    · cases ((runs_throw_iff _ _ _ _).mp hDecoding).1
    · rename_i text hText
      simp only at hDecoding
      split at hDecoding
      · cases ((runs_throw_iff _ _ _ _).mp hDecoding).1
      · rename_i v hWhole
        split at hDecoding
        · rename_i b hDecoded
          cases ((runs_pure_iff _ _ _ _).mp hDecoding).1
          exact ⟨text, v, hText, hWhole, hDecoded⟩
        · cases ((runs_throw_iff _ _ _ _).mp hDecoding).1
  · rw [runs_bind_ok_iff] at hGoing
    rcases hGoing with ⟨_, _, hThrow, _⟩
    cases ((runs_throw_iff _ _ _ _).mp hThrow).1

/- A look that finds a value found it in the content of the cache. -/
theorem runs_lookUp_found
    {α : Type}
    {key : String}
    {decode : Json → Except String α}
    {a : α}
    {w w' : World}
    (hRun : (Cache.lookUp key decode).Runs w (.ok (some a)) w') :
    w.settings.cacheMode = .connected ∧
      ∃ text v,
        w.cache.get? (Cache.fullKey w.settings.keySpace key) =
          some text ∧
        Json.whole text = .ok v ∧ decode v = .ok a := by
  have hLooking := (Cache.runs_isEnabled_bind_iff _ _ _ _).mp hRun
  split at hLooking
  · rcases runs_timed_attempt_bind hLooking with
      ⟨o, nanos, w₃, hFetch, hMeasuring⟩
    rcases runs_measure_bind hMeasuring with
      ⟨w₄, _, hDeciding⟩
    cases o with
    | error g =>
        simp only at hDeciding
        split at hDeciding
        · cases ((runs_pure_iff _ _ _ _).mp hDeciding).1
        · rw [runs_bind_ok_iff] at hDeciding
          rcases hDeciding with ⟨_, _, _, hThrow⟩
          cases ((runs_throw_iff _ _ _ _).mp hThrow).1
    | ok b =>
        cases ((runs_pure_iff _ _ _ _).mp hDeciding).1
        have hFound := runs_fetchSnapshot_ok hFetch
        exact hFound
  · cases ((runs_pure_iff _ _ _ _).mp hLooking).1

/- Whatever happens, a look for the lessons of a filter is answered. -/
theorem runs_cachedLessons_ok
    {f : LessonFilter}
    {w w' : World}
    {r : Except Failure (Option (List (Lesson Float)))}
    (hRun : (cachedLessons f).Runs w r w') :
    r = .ok none ∨
      ∃ found w₁,
        r = .ok (some found) ∧
        (Cache.lookUp (catalogKey f) decodeSnapshot).Runs w (.ok (some found)) w₁ := by
  unfold cachedLessons at hRun
  rcases (runs_attempt_bind_iff _ _ _ _ _).mp hRun with
    ⟨o, w₁, hLookUp, hAnswer⟩
  cases o with
  | error g => exact Or.inl ((runs_pure_iff _ _ _ _).mp hAnswer).1
  | ok found =>
      rcases (runs_pure_iff _ _ _ _).mp hAnswer with ⟨rfl, _⟩
      cases found with
      | none => exact Or.inl rfl
      | some found => exact Or.inr ⟨found, w₁, rfl, hLookUp⟩

/- A look into a cache that tells the truth finds the truth. -/
theorem runs_cachedLessons
    {f : LessonFilter}
    {w w' : World}
    {r : Except Failure (Option (List (Lesson Float)))}
    (hTruthful : CacheTruthful f w)
    (hRun : (cachedLessons f).Runs w r w') :
    r = .ok none ∨ r = .ok (some (w.tables.chosenLessons f)) := by
  rcases runs_cachedLessons_ok hRun with hNone | ⟨found, w₁, rfl, hLookUp⟩
  · exact Or.inl hNone
  · rcases runs_lookUp_found hLookUp with
      ⟨hConnected, text, v, hText, hWhole, hDecoded⟩
    rw [hTruthful hConnected text v found hText hWhole hDecoded]
    exact Or.inr rfl

/- A lookup is answered, unless not all is calm. -/
theorem runs_fetch_answered
    {l : Lookup}
    {w w' : World}
    {r : Except Failure (List l.Row)}
    (hOvert : w.Overt)
    (hRun : (Records.fetch l).Runs w r w') :
    (∃ g, r = .error g ∧ ¬ w.Calm) ∨
      r = .ok (l.rows (l.after w.tables)) := by
  rcases Records.runs_fetch hOvert hRun with
    ⟨g, hError, hRefused⟩ | ⟨hOk, _⟩
  · exact Or.inl ⟨g, hError, hRefused.restless⟩
  · exact Or.inr hOk

/- The catalog answers, unless not all is calm. -/
theorem runs_listLessons
    {f : LessonFilter}
    {w w' : World}
    {r : Except Failure (List (Lesson Float))}
    (hOvert : w.Overt)
    (hRun : (Records.listLessons f).Runs w r w') :
    (∃ g, r = .error g ∧ ¬ w.Calm) ∨
      r = .ok (w.tables.chosenLessons f) := by
  unfold Records.listLessons at hRun
  split at hRun
  · rename_i hEmpty
    rcases (runs_pure_iff _ _ _ _).mp hRun with ⟨rfl, _⟩
    have hNone : f.subjectIds = [] := by simpa using hEmpty
    exact Or.inr
      (by simp [Tables.chosenLessons, LessonFilter.chooses, hNone])
  · rcases (runs_restating_iff _ _ _ _ _).mp hRun with
      ⟨o, hFetch, rfl⟩
    rcases runs_fetch_answered hOvert hFetch with
      ⟨g, rfl, hRestless⟩ | rfl
    · exact Or.inl ⟨_, rfl, hRestless⟩
    · exact Or.inr rfl

theorem runs_loadLessons
    {f : LessonFilter}
    {w w' : World}
    {r : Except Failure (List (Lesson Float))}
    (hOvert : w.Overt)
    (hRun : (loadLessons f).Runs w r w') :
    (∃ g, r = .error g ∧ ¬ w.Calm) ∨
      r = .ok (w.tables.chosenLessons f) := by
  rcases runs_timed_attempt_bind hRun with
    ⟨o, nanos, w₁, hList, hMeasuring⟩
  have hStart := World.kept_clock w (w.clock + clockTick)
  rcases runs_measure_bind hMeasuring with ⟨w₂, _, hResuming⟩
  rcases (runs_bind_iff _ _ _ _ _).mp hResuming with
    ⟨g, hResume, rfl⟩ | ⟨found, w₃, hResume, hRemembering⟩
  · rcases runs_listLessons (by exact hStart.overt hOvert) hList with
      ⟨g, rfl, hRestless⟩ | rfl
    · exact Or.inl ⟨_, rfl, fun hCalm => hRestless (hStart.calm hCalm)⟩
    · cases ((runs_resume_iff _ _ _ _).mp hResume).1
  · rcases runs_listLessons (by exact hStart.overt hOvert) hList with
      ⟨g, rfl, _⟩ | rfl
    · cases ((runs_resume_iff _ _ _ _).mp hResume).1
    cases ((runs_resume_iff _ _ _ _).mp hResume).1
    rcases (runs_bind_iff _ _ _ _ _).mp hRemembering with
      ⟨g, hSettings, _⟩ | ⟨settings, w₄, _, hKeeping⟩
    · cases ((runs_settings_iff _ _ _).mp hSettings).1
    rcases (runs_attempt_bind_iff _ _ _ _ _).mp hKeeping with
      ⟨_, w₅, _, hAnswer⟩
    exact Or.inr ((runs_pure_iff _ _ _ _).mp hAnswer).1

/- Through a truthful cache the catalog answers, unless not all is calm. -/
theorem runs_lessons
    {f : LessonFilter}
    {w w' : World}
    {r : Except Failure (List (Lesson Float))}
    (hOvert : w.Overt)
    (hTruthful : CacheTruthful f w)
    (hRun : (lessons f).Runs w r w') :
    (∃ g, r = .error g ∧ ¬ w.Calm) ∨
      r = .ok (w.tables.chosenLessons f) := by
  unfold lessons at hRun
  rcases (runs_bind_iff _ _ _ _ _).mp hRun with
    ⟨g, hCached, _⟩ | ⟨found, w₁, hCached, hGoing⟩
  · rcases runs_cachedLessons hTruthful hCached with h | h <;>
      cases h
  have hKept := (cachedLessons_aside f).keeps _ _ _ hCached
  have hThere : w₁.tables = w.tables := hKept.tables
  rcases runs_cachedLessons hTruthful hCached with h | h
  · cases h
    rcases (runs_bind_iff _ _ _ _ _).mp hGoing with
      ⟨g, hSettings, _⟩ | ⟨settings, w₂, hSettings, hLoading⟩
    · cases ((runs_settings_iff _ _ _).mp hSettings).1
    rcases (runs_settings_iff _ _ _).mp hSettings with ⟨hOk, rfl⟩
    cases hOk
    rcases (runs_attempt_bind_iff _ _ _ _ _).mp hLoading with
      ⟨o, w₃, hUnder, hChecking⟩
    have hLoaded :=
      (loadLessons_keeps f).under
        (Context.detached_passesCancellation
          w₂.settings.requestTimeout) _ _ _ hUnder
    rcases (runs_under_iff _ _ _ _ _).mp hUnder with
      ⟨w₄, hLoad, _⟩
    rcases (runs_bind_iff _ _ _ _ _).mp hChecking with
      ⟨g, hCheck, rfl⟩ | ⟨_, w₅, _, hResume⟩
    · refine Or.inl ⟨g, rfl, fun hCalm => ?_⟩
      have hFailure := ((runs_checkContext_iff _ _ _).mp hCheck).2
      rw [(hLoaded.calm (hKept.calm hCalm)).failure?_eq_none]
        at hFailure
      cases hFailure
    · rw [((runs_resume_iff _ _ _ _).mp hResume).1, ← hThere]
      rcases runs_loadLessons (by exact hKept.overt hOvert) hLoad with
        ⟨g, rfl, hRestless⟩ | rfl
      · exact Or.inl ⟨g, rfl, fun hCalm =>
          hRestless ((hKept.calm hCalm).limited true)⟩
      · exact Or.inr rfl
  · cases h
    exact Or.inr ((runs_pure_iff _ _ _ _).mp hGoing).1

/- The lessons that an owner has completed, if these are to be left out. -/
def completedOf
    (owner : String)
    (r : GenerateRequest)
    (t : Tables) : List String :=
  if r.excludeCompleted then t.completedLessons owner r.courseId
  else []

/-
  The lessons that a request is about: those that the catalog
  answers with and that are eligible.
-/
def eligibleLessons
    (owner : String)
    (r : GenerateRequest)
    (t : Tables) : List (Lesson Float) :=
  (t.chosenLessons r.filter).filter
    (eligible r.minPriority (completedOf owner r t))

theorem runs_completedBefore
    {owner : String}
    {req : GenerateRequest}
    {w w' : World}
    {r : Except Failure (List String)}
    (hOvert : w.Overt)
    (hRun : (completedBefore owner req).Runs w r w') :
    (∃ g, r = .error g ∧ ¬ w.Calm) ∨
      r = .ok (completedOf owner req w.tables) := by
  unfold completedBefore at hRun
  unfold completedOf
  split at hRun
  · rename_i hExclude
    unfold Records.completedLessons at hRun
    rcases (runs_restating_iff _ _ _ _ _).mp hRun with
      ⟨_, hRecords, rfl⟩
    rcases (runs_restating_iff _ _ _ _ _).mp hRecords with
      ⟨o, hFetch, rfl⟩
    rw [if_pos hExclude]
    rcases runs_fetch_answered hOvert hFetch with
      ⟨g, rfl, hRestless⟩ | rfl
    · exact Or.inl ⟨_, rfl, hRestless⟩
    · exact Or.inr rfl
  · rename_i hKeep
    rw [((runs_pure_iff _ _ _ _).mp hRun).1, if_neg hKeep]
    exact Or.inr rfl

/-
  The content of a plan is made of the eligible lessons, in
  the order of study and with their costs, unless not all is
  calm.
-/
theorem runs_loadContent
    {owner : String}
    {req : GenerateRequest}
    {speed : Float}
    {w w' : World}
    {r : Except Failure (List (CostedLesson Float))}
    (hOvert : w.Overt)
    (hTruthful : CacheTruthful req.filter w)
    (hRun : (loadContent owner req speed).Runs w r w') :
    (∃ g, r = .error g ∧ ¬ w.Calm) ∨
      r = .ok
        (applyCost
          (sortLessons w.settings.locale
            (eligibleLessons owner req w.tables) w.settings.collator)
          speed) := by
  unfold loadContent at hRun
  rcases (runs_attempt_bind_iff _ _ _ _ _).mp hRun with
    ⟨o, w₁, hLessons, hCompleting⟩
  have hKept₁ :=
    ((lessons_keeps req.filter).restating _) _ _ _ hLessons
  rcases (runs_restating_iff _ _ _ _ _).mp hLessons with
    ⟨o, hInner, rfl⟩
  rcases (runs_attempt_bind_iff _ _ _ _ _).mp hCompleting with
    ⟨o', w₂, hCompleted, hResuming⟩
  have hKept₂ :=
    hKept₁.trans (completedBefore_keeps owner req _ _ _ hCompleted)
  rcases runs_lessons hOvert hTruthful hInner with
    ⟨g, rfl, hRestless⟩ | rfl
  · rcases (runs_bind_iff _ _ _ _ _).mp hResuming with
      ⟨h, _, rfl⟩ | ⟨found, w₃, hFound, _⟩
    · exact Or.inl ⟨h, rfl, hRestless⟩
    · cases ((runs_resume_iff _ _ _ _).mp hFound).1
  rcases (runs_bind_iff _ _ _ _ _).mp hResuming with
    ⟨g, hFound, _⟩ | ⟨found, w₃, hFound, hResuming⟩
  · cases ((runs_resume_iff _ _ _ _).mp hFound).1
  rcases (runs_resume_iff _ _ _ _).mp hFound with ⟨hOk, rfl⟩
  cases hOk
  rcases runs_completedBefore (hKept₁.overt hOvert) hCompleted with
    ⟨g, rfl, hRestless⟩ | rfl
  · rcases (runs_bind_iff _ _ _ _ _).mp hResuming with
      ⟨h, _, rfl⟩ | ⟨before, w₄, hBefore, _⟩
    · exact Or.inl ⟨h, rfl, fun hCalm => hRestless (hKept₁.calm hCalm)⟩
    · cases ((runs_resume_iff _ _ _ _).mp hBefore).1
  rw [show w₁.tables = w.tables from hKept₁.tables] at hResuming
  rcases (runs_bind_iff _ _ _ _ _).mp hResuming with
    ⟨g, hBefore, _⟩ | ⟨before, w₄, hBefore, hSorting⟩
  · cases ((runs_resume_iff _ _ _ _).mp hBefore).1
  rcases (runs_resume_iff _ _ _ _).mp hBefore with ⟨hOk, rfl⟩
  cases hOk
  rcases (runs_bind_iff _ _ _ _ _).mp hSorting with
    ⟨g, hSettings, _⟩ | ⟨settings, w₅, hSettings, hAnswer⟩
  · cases ((runs_settings_iff _ _ _).mp hSettings).1
  rcases (runs_settings_iff _ _ _).mp hSettings with ⟨hOk, rfl⟩
  cases hOk
  rw [((runs_pure_iff _ _ _ _).mp hAnswer).1, hKept₂.settings]
  exact Or.inr rfl

/- In a calm world this is the content. -/
theorem runs_loadContent_calm
    {owner : String}
    {req : GenerateRequest}
    {speed : Float}
    {w w' : World}
    {r : Except Failure (List (CostedLesson Float))}
    (hCalm : w.Calm)
    (hTruthful : CacheTruthful req.filter w)
    (hRun : (loadContent owner req speed).Runs w r w') :
    r = .ok
      (applyCost
        (sortLessons w.settings.locale
          (eligibleLessons owner req w.tables) w.settings.collator)
        speed) := by
  rcases runs_loadContent hCalm.overt hTruthful hRun with
    ⟨_, _, hRestless⟩ | hOk
  · exact absurd hCalm hRestless
  · exact hOk

end Service

end Timetable
