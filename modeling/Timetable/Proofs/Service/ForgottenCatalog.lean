import Timetable.Proofs.Cache.Forgetting
import Timetable.Proofs.Store.Lookups

/-
  This file shows what it means to forget the catalog's
  answers: their keys are gone from the cache, every other
  key stands as before, and the next time that lessons are
  wanted they are asked of the store, whatever the filter.

  The keys are made in one place and the pattern that they
  are forgotten by in another; what ties them together is
  that both start with the same mark in the same key space.

  Key definitions include:
    * `catalogSpace`
    * `AsksStore`

  Main theorems include:
    * `catalogKey_in_catalogSpace`
    * `asksStore_of_absent`
    * `forget_catalog`
-/

namespace Timetable

open Act

------------------------------------------------------------
-- What is Sent for Lessons
------------------------------------------------------------

namespace Records

/- Lessons of some subjects are asked of the store with one lookup. -/
theorem journal_listLessons
    {f : Store.LessonFilter}
    {w w' : World}
    {o : Except Failure (List (Plan.Lesson Float))}
    (hSubjects : f.subjectIds ≠ [])
    (hGoing : w.context.failure? = none)
    (hRun : (listLessons f).Runs w o w') :
    w'.database.journal = w.database.journal ++ [.lookup (.lessons f)] := by
  unfold listLessons at hRun
  rw [if_neg (by simpa using hSubjects)] at hRun
  rcases (runs_restating_iff _ _ _ _ _).mp hRun with ⟨_, hFetch, _⟩
  exact journal_fetch hGoing hFetch

end Records

namespace Service

open Plan Store

------------------------------------------------------------
-- Keys of the Catalog
------------------------------------------------------------

/- What the keys of the catalog's answers start with on the server. -/
def catalogSpace (s : Settings) : String :=
  Cache.fullKey s.keySpace catalogMark

theorem catalogMark_plain : Cache.Glob.Plain catalogMark :=
  .of_all rfl

/- The key of every filter lies in this space. -/
theorem catalogKey_in_catalogSpace
    (s : Settings)
    (f : LessonFilter) :
    (catalogSpace s).toList <+: (Cache.fullKey s.keySpace (catalogKey f)).toList := by
  unfold catalogSpace Cache.fullKey catalogKey
  split
  · rw [String.toList_append]
    exact List.prefix_append _ _
  · simp only [String.toList_append, ← List.append_assoc]
    exact List.prefix_append _ _

/- So nothing is found for a filter once this space was emptied. -/
theorem find?_catalogKey_withoutPrefix
    (s : Settings)
    (f : LessonFilter)
    (c : Cache.Server) :
    (c.withoutPrefix (catalogSpace s)).find?
      (Cache.fullKey s.keySpace (catalogKey f)) = none := by
  rw [Cache.Server.withoutPrefix, Cache.Server.find?_keeping]
  simp [List.isPrefixOf_iff_prefix.mpr (catalogKey_in_catalogSpace s f)]

------------------------------------------------------------
-- Lessons that are Asked of the Store
------------------------------------------------------------

/-
  The lessons for a filter are not found in the cache.  The
  store is asked for them: what it answers is the answer,
  unless the request was canceled meanwhile.
-/
structure AsksStore
    (f : LessonFilter)
    (v : World) : Prop where
  absent :
    v.settings.cacheMode = .connected →
      v.cache.find? (Cache.fullKey v.settings.keySpace (catalogKey f)) = none
  missed : (cachedLessons f).outcome v = .ok none
  asked :
    ∃ u o u',
      u.database = v.database ∧
      (Records.listLessons f).Runs u o u' ∧
      ((lessons f).after v).database = u'.database ∧
      (lessons f).outcome v =
        match ((lessons f).after v).context.failure? with
        | none => o
        | some g => .error g
  /- Without subjects the catalog answers with no lessons, and sends nothing. -/
  sent :
    f.subjectIds ≠ [] →
      (Context.limited v.settings.requestTimeout v.context).expired = false →
        ((lessons f).after v).database.journal =
          v.database.journal ++ [.lookup (.lessons f)]

/- What is not in the cache is not found there. -/
theorem outcome_cachedLessons_of_absent
    {f : LessonFilter}
    {v : World}
    (hAbsent :
      v.settings.cacheMode = .connected →
        v.cache.find? (Cache.fullKey v.settings.keySpace (catalogKey f)) = none) :
    (cachedLessons f).outcome v = .ok none := by
  rcases runs_cachedLessons_ok (runs_outcome_after (cachedLessons f) v) with
    hNone | ⟨found, w₁, _, hLookUp⟩
  · exact hNone
  · rcases runs_lookUp_found hLookUp with ⟨hConnected, text, _, hText, _⟩
    rw [Cache.Server.get?, hAbsent hConnected] at hText
    cases hText

/- Loading lessons asks the store, and keeps its answer in the cache if it can. -/
theorem runs_loadLessons_asks
    {f : LessonFilter}
    {w w' : World}
    {o : Except Failure (List (Lesson Float))}
    (hRun : (loadLessons f).Runs w o w') :
    ∃ u', (Records.listLessons f).Runs { w with clock := w.clock + clockTick } o u' ∧
      w'.database = u'.database := by
  rcases runs_timed_attempt_bind hRun with ⟨o₁, nanos, u', hList, hMeasuring⟩
  refine ⟨u', ?_⟩
  rcases (runs_bind_iff _ _ _ _ _).mp hMeasuring with
    ⟨g, hMeasure, _⟩ | ⟨_, w₂, hMeasure, hResuming⟩
  · cases ((runs_measure_iff _ _ _ _).mp hMeasure).1
  have hSame := (Aside.measure _).database_of_runs hMeasure
  rcases (runs_bind_iff _ _ _ _ _).mp hResuming with
    ⟨g, hResume, rfl⟩ | ⟨found, w₃, hResume, hKeeping⟩
  · rcases (runs_resume_iff _ _ _ _).mp hResume with ⟨rfl, rfl⟩
    exact ⟨hList, hSame⟩
  rcases (runs_resume_iff _ _ _ _).mp hResume with ⟨rfl, rfl⟩
  rcases (runs_bind_iff _ _ _ _ _).mp hKeeping with
    ⟨g, hSettings, _⟩ | ⟨settings, w₄, hSettings, hRemembering⟩
  · cases ((runs_settings_iff _ _ _).mp hSettings).1
  rcases (runs_settings_iff _ _ _).mp hSettings with ⟨_, rfl⟩
  rcases (runs_attempt_bind_iff _ _ _ _ _).mp hRemembering with
    ⟨_, w₅, hRemember, hAnswer⟩
  have hKept : w₅.database = w₄.database :=
    (Cache.rememberValue_aside _ _ _).database_of_runs hRemember
  rcases (runs_pure_iff _ _ _ _).mp hAnswer with ⟨rfl, rfl⟩
  exact ⟨hList, hKept.trans hSame⟩

/-
  Lessons that were missed are asked of the store, in a
  context that has ended only if the time of requests is over.
-/
theorem runs_lessons_missed
    {f : LessonFilter}
    {v v' : World}
    {o : Except Failure (List (Lesson Float))}
    (hMissed : (cachedLessons f).outcome v = .ok none)
    (hRun : (lessons f).Runs v o v') :
    ∃ u o₁ u',
      u.database = v.database ∧
      u.context.detached = true ∧
      u.context.expired = (Context.limited v.settings.requestTimeout v.context).expired ∧
      (Records.listLessons f).Runs u o₁ u' ∧
      v'.database = u'.database ∧
      o = match v'.context.failure? with
        | none => o₁
        | some g => .error g := by
  rcases (runs_bind_iff _ _ _ _ _).mp hRun with
    ⟨g, hLook, _⟩ | ⟨found, w₁, hLook, hGoing⟩
  · cases hLook.outcome_eq.symm.trans hMissed
  have hAlike : v.Alike w₁ := by
    rw [← hLook.after_eq]
    exact (cachedLessons_aside f).alike v
  have hThere := (cachedLessons_aside f).database_of_runs hLook
  cases hLook.outcome_eq.symm.trans hMissed
  rcases (runs_bind_iff _ _ _ _ _).mp hGoing with
    ⟨g, hSettings, _⟩ | ⟨settings, w₂, hSettings, hLoading⟩
  · cases ((runs_settings_iff _ _ _).mp hSettings).1
  rcases (runs_settings_iff _ _ _).mp hSettings with ⟨hHere, rfl⟩
  cases hHere
  rcases (runs_attempt_bind_iff _ _ _ _ _).mp hLoading with
    ⟨o₁, w₃, hUnder, hChecking⟩
  rcases (runs_under_iff _ _ _ _ _).mp hUnder with ⟨w₄, hLoad, rfl⟩
  rcases runs_loadLessons_asks hLoad with ⟨u', hList, hSame⟩
  refine ⟨_, o₁, u', ?_, ?_, ?_, hList, ?_⟩
  · exact hThere
  · rfl
  · simp only [Context.limited, hAlike.expired, hAlike.settings]
  rcases (runs_bind_iff _ _ _ _ _).mp hChecking with
    ⟨g, hCheck, rfl⟩ | ⟨_, w₅, hCheck, hResume⟩
  · rcases (runs_checkContext_iff _ _ _).mp hCheck with ⟨rfl, hEnded⟩
    refine ⟨hSame, ?_⟩
    split at hEnded
    · cases hEnded
    · cases hEnded
      simp only [*]
  · rcases (runs_checkContext_iff _ _ _).mp hCheck with ⟨rfl, hOpen⟩
    rcases (runs_resume_iff _ _ _ _).mp hResume with ⟨rfl, rfl⟩
    refine ⟨hSame, ?_⟩
    split at hOpen
    · simp only [*]
    · cases hOpen

/- Lessons that are not in the cache are asked of the store. -/
theorem asksStore_of_absent
    {f : LessonFilter}
    {v : World}
    (hAbsent :
      v.settings.cacheMode = .connected →
        v.cache.find? (Cache.fullKey v.settings.keySpace (catalogKey f)) = none) :
    AsksStore f v := by
  have hMissed := outcome_cachedLessons_of_absent hAbsent
  rcases runs_lessons_missed hMissed (runs_outcome_after (lessons f) v) with
    ⟨u, o, u', hBefore, hDetached, hExpired, hList, hAfter, hOutcome⟩
  refine ⟨hAbsent, hMissed, ⟨u, o, u', hBefore, hList, hAfter, hOutcome⟩, ?_⟩
  intro hSubjects hInTime
  have hGoing : u.context.failure? = none := by
    simp [Context.failure?, hDetached, hExpired, hInTime]
  rw [hAfter, ← hBefore]
  exact Records.journal_listLessons hSubjects hGoing hList

------------------------------------------------------------
-- Forgetting the Catalog
------------------------------------------------------------

/- The filter of an acceptable request names a subject. -/
theorem subjects_of_accepted
    {r : GenerateRequest}
    (hAccepted : r.complaints = []) :
    r.filter.subjectIds ≠ [] := by
  unfold GenerateRequest.complaints at hAccepted
  simp only [List.append_eq_nil_iff, and_assoc] at hAccepted
  obtain ⟨_, _, _, _, hSubjects, _⟩ := hAccepted
  unfold GenerateRequest.filter
  rcases hIds : r.subjectIds with _ | (_ | ⟨id, ids⟩)
  · rw [hIds] at hSubjects
    exact absurd hSubjects (by decide)
  · rw [hIds] at hSubjects
    exact absurd hSubjects (by decide)
  · exact List.cons_ne_nil id ids

/-
  A forgetting of the catalog's answers that succeeds takes
  exactly the keys of their space from a cache that is
  connected; every other key stands with its value.  After
  that lessons are asked of the store, whatever the filter.
  An acceptable request sends a lookup for them.  A filter
  without subjects, which no such request has, is answered
  with no lessons, and nothing is sent for it.

  If the deletion of a key is refused after others went
  through, its failure is returned.  Whatever a forgetting
  fails from, only keys of this space are gone.
-/
theorem forget_catalog
    (r : Cache.Remover)
    {w w' : World}
    {o : Except Failure Unit}
    (hSpace : Cache.Glob.Plain w.settings.keySpace)
    (hRun : (r.forget catalogPattern).Runs w o w') :
    Cache.Remover.plain.forget catalogPattern = Cache.forget catalogPattern ∧
    (o = .ok () →
      w'.settings = w.settings ∧
      w'.cache =
        (if w.settings.cacheMode = .connected then
          w.cache.withoutPrefix (catalogSpace w.settings)
        else w.cache) ∧
      ∀ v, v.settings = w'.settings → v.cache = w'.cache →
        (∀ f, AsksStore f v) ∧
        ∀ request : GenerateRequest, request.complaints = [] →
          (Context.limited v.settings.requestTimeout v.context).expired = false →
            ((lessons request.filter).after v).database.journal =
              v.database.journal ++ [.lookup (.lessons request.filter)]) ∧
    (∀ key g, w.settings.cacheMode = .connected → r.BreaksAt catalogPattern w key g →
      o = .error (.during ("redis delete " ++ key) g)) ∧
    (∀ g, o = .error g →
      ∃ removed : List String,
        (∀ key ∈ removed, (catalogSpace w.settings).toList <+: key.toList) ∧
        Cache.Remover.Deleted removed w w') := by
  refine ⟨Cache.Remover.plain_forget _, ?_, ?_, ?_⟩
  · rintro rfl
    have hLeft := Cache.Remover.runs_forget_ok hSpace catalogMark_plain hRun
    refine ⟨hLeft.1, hLeft.2, fun v hSettings hCache => ?_⟩
    have hAsks : ∀ f, AsksStore f v := by
      intro f
      apply asksStore_of_absent
      intro hConnected
      rw [hSettings, hLeft.1] at hConnected ⊢
      rw [hCache, hLeft.2, if_pos hConnected]
      exact find?_catalogKey_withoutPrefix w.settings f w.cache
    exact ⟨hAsks, fun request hAccepted =>
      (hAsks request.filter).sent (subjects_of_accepted hAccepted)⟩
  · intro key g hConnected hBreaks
    exact hRun.outcome_eq.symm.trans (hBreaks.outcome_forget hConnected)
  · rintro g rfl
    exact Cache.Remover.runs_forget_error hSpace catalogMark_plain hRun

/- A remover that is refused the deletion of one key. -/
def refusing
    (key : String)
    (g : Failure) : Cache.Remover where
  scan := Cache.Remover.plain.scan
  del other := if other = key then throw g else Cache.Remover.plain.del other
  runs_scan := Cache.Remover.plain.runs_scan
  runs_del := by
    intro other w o w' hRun
    split at hRun
    · rcases (runs_throw_iff _ _ _ _).mp hRun with ⟨rfl, rfl⟩
      exact ⟨rfl, .inr ⟨nofun, rfl⟩⟩
    · exact Cache.Remover.plain.runs_del hRun

/- Keys of the catalog among some that look like them. -/
def crowdedWorld : World :=
  { settings := { locale := .fallback, cacheMode := .connected, keySpace := "study" }
    cache :=
      { entries :=
          [⟨"lessons:a", "[]", none⟩, ⟨"study:lessons", "0", none⟩,
            ⟨"study:lessons:", "1", none⟩, ⟨"study:lessons:a", "null", some 600000⟩,
            ⟨"study:lessons:b", "[]", some 1⟩, ⟨"study:plans:a", "2", some 7⟩] }
    clock := 0 }

/- The keys of the catalog go; a refusal before the last of them leaves the others. -/
theorem forget_catalog_of_crowdedWorld :
    (∃ w', (Cache.forget catalogPattern).Runs crowdedWorld (.ok ()) w' ∧
      w'.cache.entries =
        [⟨"lessons:a", "[]", none⟩, ⟨"study:lessons", "0", none⟩,
          ⟨"study:plans:a", "2", some 7⟩] ∧
      AsksStore { subjectIds := ["s-1"], courseId := "", moduleIds := [], minPriority := 1 } w') ∧
    ∃ w' removed,
      ((refusing "study:lessons:a" (.plain "ERR busy")).forget catalogPattern).Runs crowdedWorld
        (.error (.during "redis delete study:lessons:a" (.plain "ERR busy"))) w' ∧
      (∀ key ∈ removed, "study:lessons:".toList <+: key.toList) ∧
      Cache.Remover.Deleted removed crowdedWorld w' := by
  have hSpace : Cache.Glob.Plain crowdedWorld.settings.keySpace := .of_all rfl
  constructor
  · have hOk : (Cache.forget catalogPattern).outcome crowdedWorld = .ok () :=
      Cache.Remover.outcome_plain_forget rfl rfl rfl catalogPattern
    have hRun := runs_outcome_after (Cache.forget catalogPattern) crowdedWorld
    rw [hOk] at hRun
    have hPlain : (Cache.Remover.plain.forget catalogPattern).Runs crowdedWorld (.ok ())
        ((Cache.forget catalogPattern).after crowdedWorld) := by
      rw [Cache.Remover.plain_forget]
      exact hRun
    rcases forget_catalog Cache.Remover.plain hSpace hPlain with ⟨_, hTaken, _⟩
    rcases hTaken rfl with ⟨_, hCache, hAsks⟩
    refine ⟨_, hRun, ?_, (hAsks _ rfl rfl).1 _⟩
    rw [hCache]
    decide
  · have hRun := runs_outcome_after
      ((refusing "study:lessons:a" (.plain "ERR busy")).forget catalogPattern) crowdedWorld
    have hScan :
        crowdedWorld.cache.scan (Cache.fullKey "study" catalogPattern) =
          ["study:lessons:"] ++ "study:lessons:a" :: ["study:lessons:b"] := by
      rw [catalogPattern, Cache.Remover.fullKey_star,
        Cache.Server.scan_plain_star (.of_all rfl)]
      decide
    have hBreaks :
        (refusing "study:lessons:a" (.plain "ERR busy")).BreaksAt catalogPattern crowdedWorld
          "study:lessons:a" (.plain "ERR busy") := by
      refine ⟨["study:lessons:"], ["study:lessons:b"], crowdedWorld, _, _, ?_, rfl, rfl⟩
      rw [← hScan]
      exact Cache.Remover.runs_plain_scan rfl rfl _
    rcases forget_catalog _ hSpace hRun with ⟨_, _, hReturned, hFailed⟩
    have hError := hReturned _ _ rfl hBreaks
    rcases hFailed _ hError with ⟨removed, hRemoved, hDeleted⟩
    rw [hError] at hRun
    exact ⟨_, removed, hRun, hRemoved, hDeleted⟩

end Service

end Timetable
