import Timetable.Proofs.Cache.Effects
import Timetable.Proofs.Catalog.LessonCodec

/-
  This file proves that the cache does not show.  As long as
  the catalog does not change, reading lessons through the
  cache yields what the catalog itself answers, however reads
  and invalidations follow each other, whichever commands the
  server refuses in between, and whichever values it loses.

  Key definitions include:
    * `Service.Akin`
    * `Service.IsSnapshot`
    * `Service.Interlude`
    * `Service.History`
    * `Service.Trusted`

  Main theorems include:
    * `Service.IsSnapshot.eq_of_decodeSnapshot`: a snapshot is
      read as the lessons that it was taken of
    * `Service.runs_lessons_gains`: reading lessons leaves
      nothing in the cache but their snapshot
    * `Service.Trusted.step`: no step makes the cache lie
    * `Service.history_transparent`
-/

namespace Timetable

open Store Act

namespace Service

open Plan

------------------------------------------------------------
-- Filters
------------------------------------------------------------

/- Filters that differ in nothing but the order of their ids. -/
structure Akin (f g : LessonFilter) : Prop where
  subjectIds : f.subjectIds.Perm g.subjectIds
  courseId : f.courseId = g.courseId
  moduleIds : f.moduleIds.Perm g.moduleIds
  minPriority : f.minPriority = g.minPriority

/- The order of ids does not matter to the catalog. -/
theorem chosenLessons_of_akin
    {f g : LessonFilter}
    (hAkin : Akin f g)
    (t : Tables) :
    t.chosenLessons f = t.chosenLessons g := by
  have hChooses : f.chooses = g.chooses := by
    funext e
    unfold LessonFilter.chooses
    rw [hAkin.subjectIds.contains_eq, hAkin.courseId, hAkin.moduleIds.contains_eq,
      hAkin.moduleIds.isEmpty_eq, hAkin.minPriority]
  unfold Tables.chosenLessons
  rw [hChooses]

theorem ascendingTexts_of_perm
    {xs ys : List String}
    (hPerm : xs.Perm ys) :
    ascendingTexts xs = ascendingTexts ys := by
  have hSorted : ∀ zs, (ascendingTexts zs).Pairwise (fun a b => decide (a ≤ b) = true) :=
    fun zs => List.pairwise_mergeSort
      (fun a b c hab hbc => by
        simp only [decide_eq_true_eq] at *
        exact String.le_trans hab hbc)
      (fun a b => by simpa using String.le_total a b) zs
  apply List.Perm.eq_of_pairwise _ (hSorted xs) (hSorted ys)
  · exact (List.mergeSort_perm xs _).trans (hPerm.trans (List.mergeSort_perm ys _).symm)
  · intro a b _ _ hab hba
    simp only [decide_eq_true_eq] at hab hba
    exact String.le_antisymm hab hba

/- Nor does it show in the text of a filter. -/
theorem filterText_of_akin
    {f g : LessonFilter}
    (hAkin : Akin f g) :
    filterText f = filterText g := by
  unfold filterText
  rw [ascendingTexts_of_perm hAkin.subjectIds, hAkin.courseId,
    ascendingTexts_of_perm hAkin.moduleIds, hAkin.minPriority]

/- So it does not matter to the cache either. -/
theorem catalogKey_of_akin
    {f g : LessonFilter}
    (hAkin : Akin f g) :
    catalogKey f = catalogKey g := by
  unfold catalogKey
  rw [filterText_of_akin hAkin]

theorem chosenLessons_congr
    {t t' : Tables}
    (hLessons : t'.lessons = t.lessons)
    (f : LessonFilter) :
    t'.chosenLessons f = t.chosenLessons f := by
  unfold Tables.chosenLessons
  rw [hLessons]

------------------------------------------------------------
-- Snapshots
------------------------------------------------------------

/- A text that lessons were written as. -/
def IsSnapshot
    (rows : List (Lesson Float))
    (text : String) : Prop :=
  (encodeSnapshot rows).refusal? = none ∧ text = (encodeSnapshot rows).render

/- A snapshot is read, if at all, as the lessons that it was taken of. -/
theorem IsSnapshot.eq_of_decodeSnapshot
    {rows found : List (Lesson Float)}
    {text : String}
    {v : Json}
    (hSnapshot : IsSnapshot rows text)
    (hWhole : Json.whole text = .ok v)
    (hDecoded : decodeSnapshot v = .ok found) :
    found = rows := by
  obtain ⟨hNone, rfl⟩ := hSnapshot
  unfold encodeSnapshot at hNone hWhole
  rw [Catalog.whole_render_lessons hNone] at hWhole
  cases hWhole
  unfold decodeSnapshot at hDecoded
  split at hDecoded
  · rename_i lessons hLessons
    cases hDecoded
    rw [Catalog.eq_of_decodeLessons hNone hLessons]
    cases rows <;> rfl
  · cases hDecoded

/- The snapshot of what the catalog answers, under the key of the filter. -/
def Snapshots
    (rows : List (Lesson Float))
    (f : LessonFilter)
    (space key text : String) : Prop :=
  key = Cache.fullKey space (catalogKey f) ∧ IsSnapshot rows text

------------------------------------------------------------
-- What Reading Leaves in the Cache
------------------------------------------------------------

theorem cachedLessons_adds
    {allowed : String → String → String → Prop}
    (f : LessonFilter) :
    (cachedLessons f).Adds allowed := by
  unfold cachedLessons
  apply (Cache.lookUp_adds _ _).attempt.bind
  intro o
  cases o with
  | ok found => exact Adds.pure _
  | error f => exact Adds.pure _

theorem rememberValue_adds
    (f : LessonFilter)
    (rows : List (Lesson Float))
    (ttl : Int) :
    (Cache.rememberValue (catalogKey f) (encodeSnapshot rows) ttl).Adds (Snapshots rows f) :=
  Cache.storeFor_adds ttl
    (Cache.storeValue_adds (fun hNone _ => ⟨rfl, hNone, rfl⟩))

/- What the store answered is kept, and nothing else. -/
theorem runs_loadLessons_gains
    {f : LessonFilter}
    {w w' : World}
    {r : Except Failure (List (Lesson Float))}
    (hOvert : w.Overt)
    (hRun : (loadLessons f).Runs w r w') :
    w.Gains (Snapshots (w.tables.chosenLessons f) f) w' := by
  rcases runs_timed_attempt_bind hRun with
    ⟨o, nanos, w₁, hList, hMeasuring⟩
  have hStart := World.kept_clock w (w.clock + clockTick)
  refine World.Gains.trans ?_ ((Adds.measure _).bind (fun _ => ?_) _ _ _ hMeasuring)
  · exact (Records.listLessons_adds f _ _ _ hList).congr ⟨rfl, rfl⟩ ⟨rfl, rfl⟩
  rcases runs_listLessons (by exact hStart.overt hOvert) hList with
    ⟨g, rfl, _⟩ | rfl
  · exact Adds.throw_bind g _
  · apply Adds.resume_ok_bind
    apply Adds.settings.bind
    intro settings
    apply (rememberValue_adds f _ _).attempt.bind
    intro _
    exact Adds.pure _

/- Reading lessons leaves nothing in the cache but their snapshot. -/
theorem runs_lessons_gains
    {f : LessonFilter}
    {w w' : World}
    {r : Except Failure (List (Lesson Float))}
    (hOvert : w.Overt)
    (hRun : (lessons f).Runs w r w') :
    w.Gains (Snapshots (w.tables.chosenLessons f) f) w' := by
  unfold lessons at hRun
  rcases (runs_bind_iff _ _ _ _ _).mp hRun with
    ⟨g, hCached, _⟩ | ⟨found, w₁, hCached, hGoing⟩
  · exact cachedLessons_adds f _ _ _ hCached
  have hKept := (cachedLessons_aside f).keeps _ _ _ hCached
  refine (cachedLessons_adds f _ _ _ hCached).trans ?_
  cases found with
  | some rows => exact Adds.pure rows _ _ _ hGoing
  | none =>
      rcases (runs_bind_iff _ _ _ _ _).mp hGoing with
        ⟨g, hSettings, _⟩ | ⟨settings, w₂, hSettings, hLoading⟩
      · cases ((runs_settings_iff _ _ _).mp hSettings).1
      rcases (runs_settings_iff _ _ _).mp hSettings with ⟨_, rfl⟩
      rcases (runs_attempt_bind_iff _ _ _ _ _).mp hLoading with
        ⟨o, w₃, hUnder, hChecking⟩
      rcases (runs_under_iff _ _ _ _ _).mp hUnder with
        ⟨w₄, hLoad, rfl⟩
      have hLoaded := runs_loadLessons_gains (by exact hKept.overt hOvert) hLoad
      have hThere : w₂.tables = w.tables := hKept.tables
      rw [show World.tables _ = w.tables from hThere] at hLoaded
      refine World.Gains.trans ?_
        (Adds.checkContext.bind (fun _ => Adds.resume o) _ _ _ hChecking)
      exact hLoaded.congr ⟨rfl, rfl⟩ ⟨rfl, rfl⟩

------------------------------------------------------------
-- Histories
------------------------------------------------------------

/- What happens to a service that reads lessons, as far as it shows. -/
inductive Event where
| read (f : LessonFilter) (outcome : Except Failure (List (Lesson Float))) : Event
| invalidation (pattern : String) (outcome : Except Failure Unit) : Event
| interlude : Event

/-
  Something else happens between reads and invalidations.
  The server may begin or cease to refuse commands, lose
  values (also when an invalidation breaks off) and get other
  ones, the cache may be switched on or off, requests come to
  an end and others begin, and the store may be written.  But
  the catalog stays as it is, and no one else writes where
  its answers are kept.
-/
structure Interlude (w w' : World) : Prop where
  keySpace : w'.settings.keySpace = w.settings.keySpace
  lessons : w'.tables.lessons = w.tables.lessons
  overt : w'.Overt
  values :
    ∀ name text,
      w'.cache.get? (Cache.fullKey w.settings.keySpace (catalogMark ++ name)) = some text →
        w.cache.get? (Cache.fullKey w.settings.keySpace (catalogMark ++ name)) = some text

/- One thing happens.  Only the lessons for some filters are read. -/
inductive Step (filters : List LessonFilter) : World → Event → World → Prop where
| read
    {w w' : World}
    {f : LessonFilter}
    {r : Except Failure (List (Lesson Float))}
    (hFilter : f ∈ filters)
    (hRun : (lessons f).Runs w r w') :
    Step filters w (.read f r) w'
| invalidation
    {w w' : World}
    {pattern : String}
    {r : Except Failure Unit}
    (hRun : (Cache.forget pattern).Runs w r w') :
    Step filters w (.invalidation pattern r) w'
| interlude
    {w w' : World}
    (hInterlude : Interlude w w') :
    Step filters w .interlude w'

/- Things happen one after the other. -/
inductive History (filters : List LessonFilter) : World → List Event → World → Prop where
| done
    (w : World) :
    History filters w [] w
| step
    {w w₁ w' : World}
    {e : Event}
    {events : List Event}
    (hStep : Step filters w e w₁)
    (hRest : History filters w₁ events w') :
    History filters w (e :: events) w'

/- Of the filters in use, only those that are akin share a key. -/
def Distinguished (filters : List LessonFilter) : Prop :=
  ∀ f ∈ filters, ∀ g ∈ filters, catalogKey f = catalogKey g → Akin f g

/- The store has this catalog, and the cache holds nothing but snapshots of its answers. -/
structure Trusted
    (filters : List LessonFilter)
    (t : Tables)
    (w : World) : Prop where
  overt : w.Overt
  lessons : w.tables.lessons = t.lessons
  values :
    ∀ f ∈ filters, ∀ text,
      w.cache.get? (Cache.fullKey w.settings.keySpace (catalogKey f)) = some text →
        IsSnapshot (t.chosenLessons f) text

theorem eq_of_fullKey
    {space key key' : String}
    (hSame : Cache.fullKey space key = Cache.fullKey space key') :
    key = key' := by
  unfold Cache.fullKey at hSame
  split at hSame
  · exact hSame
  · exact String.append_right_inj _ |>.mp hSame

namespace Trusted

variable {filters : List LessonFilter} {t : Tables} {w w' : World}

/- A cache without answers of the catalog does not lie. -/
theorem of_empty
    (hOvert : w.Overt)
    (hEmpty :
      ∀ name, w.cache.get? (Cache.fullKey w.settings.keySpace (catalogMark ++ name)) = none) :
    Trusted filters w.tables w where
  overt := hOvert
  lessons := rfl
  values := by
    intro f _ text hFound
    unfold catalogKey at hFound
    rw [hEmpty] at hFound
    cases hFound

theorem truthful
    (hTrusted : Trusted filters t w)
    {f : LessonFilter}
    (hFilter : f ∈ filters) :
    CacheTruthful f w := by
  intro _ text v found hText hWhole hDecoded
  rw [chosenLessons_congr hTrusted.lessons]
  exact (hTrusted.values f hFilter text hText).eq_of_decodeSnapshot hWhole hDecoded

/- Only snapshots of the catalog's answers come into the cache. -/
theorem of_values
    (hTrusted : Trusted filters t w)
    (hOvert : w'.Overt)
    (hLessons : w'.tables.lessons = w.tables.lessons)
    (hSpace : w'.settings.keySpace = w.settings.keySpace)
    (hValues :
      ∀ f ∈ filters, ∀ text,
        w'.cache.get? (Cache.fullKey w.settings.keySpace (catalogKey f)) = some text →
          w.cache.get? (Cache.fullKey w.settings.keySpace (catalogKey f)) = some text ∨
            IsSnapshot (t.chosenLessons f) text) :
    Trusted filters t w' where
  overt := hOvert
  lessons := hLessons.trans hTrusted.lessons
  values := by
    intro f hFilter text hFound
    rw [hSpace] at hFound
    rcases hValues f hFilter text hFound with hBefore | hSnapshot
    · exact hTrusted.values f hFilter text hBefore
    · exact hSnapshot

/- No step makes the cache lie. -/
theorem step
    (hDistinguished : Distinguished filters)
    (hTrusted : Trusted filters t w)
    {e : Event}
    (hStep : Step filters w e w') :
    Trusted filters t w' := by
  cases hStep with
  | @read _ g _ hFilter hRun =>
      have hKept := lessons_keeps _ _ _ _ hRun
      have hGains := runs_lessons_gains hTrusted.overt hRun
      rw [chosenLessons_congr hTrusted.lessons] at hGains
      refine hTrusted.of_values (hKept.overt hTrusted.overt)
        (congrArg Tables.lessons hKept.tables) hGains.keySpace ?_
      intro f hOther text hFound
      rcases hGains.values _ _ hFound with hBefore | ⟨hKey, hSnapshot⟩
      · exact .inl hBefore
      · -- The value was stored for another filter, which has the same key.
        have hAkin := hDistinguished f hOther g hFilter (eq_of_fullKey hKey)
        rw [chosenLessons_of_akin hAkin]
        exact .inr hSnapshot
  | invalidation hRun =>
      have hKept := (Cache.forget_aside _).keeps _ _ _ hRun
      have hGains : w.Gains (fun _ _ _ => False) w' := Cache.forget_adds _ _ _ _ hRun
      refine hTrusted.of_values (hKept.overt hTrusted.overt)
        (congrArg Tables.lessons hKept.tables) hGains.keySpace ?_
      intro f _ text hFound
      exact .inl ((hGains.values _ _ hFound).resolve_right id)
  | interlude hInterlude =>
      exact hTrusted.of_values hInterlude.overt hInterlude.lessons hInterlude.keySpace
        (fun _ _ text hFound => .inl (hInterlude.values _ text hFound))

theorem history
    (hDistinguished : Distinguished filters)
    (hTrusted : Trusted filters t w)
    {events : List Event}
    (hHistory : History filters w events w') :
    Trusted filters t w' := by
  induction hHistory with
  | done w => exact hTrusted
  | step hStep _ ih => exact ih (hTrusted.step hDistinguished hStep)

/- What is read is what the catalog answers, unless not all is calm. -/
theorem lessons_outcome
    (hTrusted : Trusted filters t w)
    {f : LessonFilter}
    (hFilter : f ∈ filters) :
    (∃ g, (Service.lessons f).outcome w = .error g ∧ ¬ w.Calm) ∨
      (Service.lessons f).outcome w = .ok (t.chosenLessons f) := by
  rw [← chosenLessons_congr hTrusted.lessons]
  exact runs_lessons hTrusted.overt (hTrusted.truthful hFilter) (runs_outcome_after _ w)

theorem runs_lessons_calm
    (hTrusted : Trusted filters t w)
    {f : LessonFilter}
    (hFilter : f ∈ filters)
    (hCalm : w.Calm) :
    (Service.lessons f).Runs w (.ok (t.chosenLessons f)) ((Service.lessons f).after w) := by
  rcases hTrusted.lessons_outcome hFilter with ⟨_, _, hRestless⟩ | hOk
  · exact absurd hCalm hRestless
  · rw [← hOk]
    exact runs_outcome_after _ w

/- All that was read in the course of a history was so. -/
theorem read_eq
    (hDistinguished : Distinguished filters)
    (hTrusted : Trusted filters t w)
    {events : List Event}
    (hHistory : History filters w events w')
    {f : LessonFilter}
    {rows : List (Lesson Float)}
    (hRead : .read f (.ok rows) ∈ events) :
    rows = t.chosenLessons f := by
  induction hHistory with
  | done w => cases hRead
  | step hStep _ ih =>
      rcases List.mem_cons.mp hRead with hNow | hLater
      · subst hNow
        cases hStep with
        | read hFilter hRun =>
            rcases hTrusted.lessons_outcome hFilter with ⟨g, hError, _⟩ | hOk
            · rw [hRun.outcome_eq] at hError
              cases hError
            · rw [hRun.outcome_eq] at hOk
              exact Except.ok.inj hOk
      · exact ih (hTrusted.step hDistinguished hStep) hLater

end Trusted

------------------------------------------------------------
-- Transparency
------------------------------------------------------------

/- A service that has another mode of caching, or whose server refuses other commands. -/
def withCache
    (mode : CacheMode)
    (refusals : List (String × String))
    (w : World) : World :=
  { w with
    settings := { w.settings with cacheMode := mode }
    cache := { w.cache with refusals := refusals } }

theorem calm_of_withCache
    {mode : CacheMode}
    {refusals : List (String × String)}
    {w : World}
    (hCalm : w.Calm) :
    (withCache mode refusals w).Calm :=
  ⟨hCalm.rules, hCalm.canceled, hCalm.expired, hCalm.cancelOn, hCalm.unhurried⟩

theorem Trusted.withCache
    {filters : List LessonFilter}
    {t : Tables}
    {w : World}
    (hTrusted : Trusted filters t w)
    (mode : CacheMode)
    (refusals : List (String × String)) :
    Trusted filters t (Service.withCache mode refusals w) :=
  ⟨hTrusted.overt, hTrusted.lessons, hTrusted.values⟩

/-
  The cache does not show.  Start where it holds no answers
  of the catalog, and let reads, invalidations and interludes
  follow each other.  Every read that succeeds yields what
  the catalog itself answers.  And in the end the content of
  a plan does not depend on how the service caches and on
  what the server refuses: it is always the same, unless it
  cannot be had at all because not everything is calm.
-/
theorem history_transparent
    {filters : List LessonFilter}
    {w w' : World}
    {events : List Event}
    (hDistinguished : Distinguished filters)
    (hOvert : w.Overt)
    (hEmpty :
      ∀ name, w.cache.get? (Cache.fullKey w.settings.keySpace (catalogMark ++ name)) = none)
    (hHistory : History filters w events w') :
    (∀ f rows,
      Event.read f (.ok rows) ∈ events →
        ∀ u : World,
          u.Overt →
          u.tables.lessons = w.tables.lessons →
            (∃ g, (Records.listLessons f).outcome u = .error g ∧ ¬ u.Calm) ∨
              (Records.listLessons f).outcome u = .ok rows) ∧
      ∀ owner req speed,
        req.filter ∈ filters →
          ∃ content, ∀ mode refusals,
            (∃ g,
              (loadContent owner req speed).outcome (withCache mode refusals w') = .error g ∧
                ¬ w'.Calm) ∨
              (loadContent owner req speed).outcome (withCache mode refusals w') =
                .ok content := by
  have hStart : Trusted filters w.tables w := .of_empty hOvert hEmpty
  refine ⟨?_, ?_⟩
  · intro f rows hRead u hOther hLessons
    rw [hStart.read_eq hDistinguished hHistory hRead, ← chosenLessons_congr hLessons]
    exact runs_listLessons hOther (runs_outcome_after _ u)
  · intro owner req speed hFilter
    have hEnd := hStart.history hDistinguished hHistory
    refine ⟨applyCost
      (sortLessons w'.settings.locale (eligibleLessons owner req w'.tables)
        w'.settings.collator) speed, ?_⟩
    intro mode refusals
    have hThere := hEnd.withCache mode refusals
    rcases runs_loadContent hThere.overt (hThere.truthful hFilter)
      (runs_outcome_after (loadContent owner req speed) _) with
      ⟨g, hError, hRestless⟩ | hOk
    · exact .inl ⟨g, hError, fun hCalm => hRestless (calm_of_withCache hCalm)⟩
    · exact .inr hOk

------------------------------------------------------------
-- A Sample
------------------------------------------------------------

def sharedFilter : LessonFilter :=
  { subjectIds := ["algebra", "logic"], courseId := "", moduleIds := [], minPriority := 1 }

def turnedFilter : LessonFilter :=
  { sharedFilter with subjectIds := ["logic", "algebra"] }

def narrowFilter : LessonFilter :=
  { sharedFilter with minPriority := 2 }

def sampleFilters : List LessonFilter :=
  [sharedFilter, turnedFilter, narrowFilter]

theorem blocksOf_of_length
    {ws : List UInt32}
    (hLength : ws.length = 16) :
    Digest.blocksOf ws = [ws] := by
  cases ws with
  | nil => cases hLength
  | cons word rest =>
      rw [Digest.blocksOf, List.take_of_length_le (by omega),
        List.drop_of_length_le (by omega), Digest.blocksOf]

theorem catalogKey_narrow_ne :
    catalogKey narrowFilter ≠ catalogKey sharedFilter := by
  have hShared : filterText sharedFilter = "algebra,logic|||1" := by cbv
  have hNarrow : filterText narrowFilter = "algebra,logic|||2" := by cbv
  unfold catalogKey Digest.nameId Digest.sha1
  rw [hShared, hNarrow, blocksOf_of_length (by decide +kernel),
    blocksOf_of_length (by decide +kernel)]
  decide +kernel

/- The sample filters that share a key differ in the order of ids alone. -/
theorem sampleFilters_distinguished : Distinguished sampleFilters := by
  have hTurned : catalogKey turnedFilter = catalogKey sharedFilter :=
    catalogKey_of_akin ⟨by decide, rfl, by decide, rfl⟩
  have hKeys :
      ∀ f ∈ sampleFilters,
        catalogKey f =
          if f.minPriority = 1 then catalogKey sharedFilter else catalogKey narrowFilter := by
    intro f hFilter
    simp only [sampleFilters, List.mem_cons, List.not_mem_nil, or_false] at hFilter
    rcases hFilter with rfl | rfl | rfl
    · exact (if_pos rfl).symm
    · exact hTurned.trans (if_pos rfl).symm
    · exact (if_neg (by decide)).symm
  have hAkin :
      ∀ f ∈ sampleFilters, ∀ g ∈ sampleFilters,
        (f.minPriority = 1 ↔ g.minPriority = 1) →
          f.subjectIds.Perm g.subjectIds ∧ f.courseId = g.courseId ∧
            f.moduleIds.Perm g.moduleIds ∧ f.minPriority = g.minPriority := by
    decide
  intro f hFilter g hOther hKey
  rw [hKeys f hFilter, hKeys g hOther] at hKey
  have hSame : f.minPriority = 1 ↔ g.minPriority = 1 := by
    by_cases hf : f.minPriority = 1 <;> by_cases hg : g.minPriority = 1
    · simp [hf, hg]
    · rw [if_pos hf, if_neg hg] at hKey
      exact absurd hKey.symm catalogKey_narrow_ne
    · rw [if_neg hf, if_pos hg] at hKey
      exact absurd hKey catalogKey_narrow_ne
    · simp [hf, hg]
  rcases hAkin f hFilter g hOther hSame with ⟨hSubjects, hCourse, hModules, hPriority⟩
  exact ⟨hSubjects, hCourse, hModules, hPriority⟩

/- A world with a cache and a catalog of two lessons. -/
def cachingWorld : World :=
  { settings := { locale := .fallback, cacheMode := .connected, keySpace := "planner" }
    database :=
      { tables :=
          { lessons :=
              [{ Lesson.blank Float with
                  id := "groups", priority := 1, subjectId := "algebra", courseId := "" },
                { Lesson.blank Float with
                  id := "sets", priority := 2, subjectId := "logic", courseId := "" }] } }
    clock := 0 }

theorem cachingWorld_calm : cachingWorld.Calm :=
  ⟨rfl, rfl, rfl, rfl, by decide⟩

/-
  Lessons are read and kept.  Then the server refuses to
  show them, and they are read again by a filter with the
  same ids in another order, before all is forgotten.
-/
theorem history_transparent_sample :
    ∃ rows r w',
      History sampleFilters cachingWorld
        [.read sharedFilter (.ok rows), .interlude, .read turnedFilter (.ok rows),
          .invalidation catalogPattern r] w' ∧
      rows.map (·.id) = ["groups", "sets"] ∧
      (Records.listLessons turnedFilter).outcome cachingWorld = .ok rows ∧
      ∃ content, ∀ mode refusals,
        (loadContent "ann" { subjectIds := some ["logic", "algebra"], minPriority := 1 }
          1).outcome (withCache mode refusals w') = .ok content := by
  have hStart : Trusted sampleFilters cachingWorld.tables cachingWorld :=
    .of_empty cachingWorld_calm.overt (fun _ => rfl)
  have hFirst := hStart.runs_lessons_calm (f := sharedFilter) (by decide) cachingWorld_calm
  let w₁ := withCache .connected [("get", "busy")] ((lessons sharedFilter).after cachingWorld)
  have hInterlude : Interlude ((lessons sharedFilter).after cachingWorld) w₁ :=
    ⟨rfl, rfl, (lessons_keeps _ _ _ _ hFirst).overt hStart.overt, fun _ _ hFound => hFound⟩
  have hCalm : w₁.Calm :=
    calm_of_withCache ((lessons_keeps _ _ _ _ hFirst).calm cachingWorld_calm)
  have hThere : Trusted sampleFilters cachingWorld.tables w₁ :=
    (hStart.step sampleFilters_distinguished (.read (by decide) hFirst)).withCache _ _
  have hSecond := hThere.runs_lessons_calm (f := turnedFilter) (by decide) hCalm
  rw [chosenLessons_of_akin (f := turnedFilter) (g := sharedFilter)
    ⟨by decide, rfl, by decide, rfl⟩] at hSecond
  have hForget := runs_outcome_after (Cache.forget catalogPattern)
    ((lessons turnedFilter).after w₁)
  have hHistory : History sampleFilters cachingWorld _ _ :=
    .step (.read (by decide) hFirst)
      (.step (.interlude hInterlude)
        (.step (.read (by decide) hSecond) (.step (.invalidation hForget) (.done _))))
  rcases history_transparent sampleFilters_distinguished hStart.overt (fun _ => rfl)
    hHistory with ⟨hRead, hContent⟩
  refine ⟨_, _, _, hHistory, rfl, ?_, ?_⟩
  · rcases hRead turnedFilter _ (.tail _ (.tail _ (.head _))) cachingWorld hStart.overt rfl with
      ⟨_, _, hRestless⟩ | hOk
    · exact absurd cachingWorld_calm hRestless
    · exact hOk
  · rcases hContent "ann" { subjectIds := some ["logic", "algebra"], minPriority := 1 } 1
      (by decide) with
      ⟨content, hSame⟩
    refine ⟨content, fun mode refusals => (hSame mode refusals).resolve_left ?_⟩
    rintro ⟨_, _, hRestless⟩
    have hKept₂ := lessons_keeps _ _ _ _ hSecond
    have hKept₃ := (Cache.forget_aside _).keeps _ _ _ hForget
    exact hRestless (hKept₃.calm (hKept₂.calm hCalm))

end Service

end Timetable
