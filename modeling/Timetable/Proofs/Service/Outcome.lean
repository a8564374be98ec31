import Timetable.Proofs.Order.Halves
import Timetable.Proofs.Plan.Conservation
import Timetable.Proofs.Service.Generation

/-
  This file tells how the generation of a plan ends when
  nothing goes wrong: it is refused for lack of lessons, of
  time or of weeks, or else a plan is stored that has every
  eligible lesson exactly once.

  Key definitions include:
    * `failureCode`
    * `expectedFailure`

  Main theorems include:
    * `planned_cases`
    * `runs_generate_calm`
    * `generate_outcome`
-/

namespace Timetable.Service

open Plan Store Act

------------------------------------------------------------
-- Plans that can be Made
------------------------------------------------------------

/- Sorting loses no lesson. -/
theorem sortLessons_perm
    (locale : Text.Locale)
    (lessons : List (Lesson Float))
    (collator : Text.Collator) :
    (sortLessons locale lessons collator).Perm lessons :=
  List.mergeSort_perm lessons _

/- Nor does telling the costs. -/
theorem applyCost_ids
    (lessons : List (Lesson Float))
    (speed : Float) :
    (applyCost lessons speed).map (·.id) =
      lessons.map (·.id) := by
  unfold applyCost
  rw [List.map_map]
  rfl

/- A client is told about a problem, which is no missed deadline. -/
def Tells
    (p : Problem)
    (f : Failure) : Prop :=
  f.answer.1.code = p.code ∧ f.hasSentinel .deadline = false

/- There is time for lessons. -/
abbrev Feasible
    (req : GenerateRequest)
    (input : GenerationInput)
    (content : List (CostedLesson Float)) : Prop :=
  totalCost content ≤
    totalCapacity (weekTable req input) + tolerance

/- Lessons are arranged if there is a week for them. -/
theorem arrange_cases
    {req : GenerateRequest}
    {input : GenerationInput}
    {content : List (CostedLesson Float)}
    (hContent : content ≠ []) :
    ((∀ week ∈ weekTable req input, week.isUseful = false) ∧
      ∃ f, arrange req input (weekTable req input) content =
          .error f ∧
        Tells .validation f) ∨
    ((∃ week ∈ weekTable req input, week.isUseful = true) ∧
      ∃ d, arrange req input (weekTable req input) content =
          .ok d ∧
        (d.assignments.map (·.lessonId)).Perm
          (content.map (·.id))) := by
  unfold arrange
  rcases distribute_isOk hContent (weekTable req input) input.mode
      (if input.mode = .sequential then req.frontOrder.getD []
        else []) with
    ⟨d, hDistribute⟩
  simp only [hDistribute]
  by_cases hUseful :
      ∃ week ∈ weekTable req input, week.isUseful = true
  · refine Or.inr ⟨hUseful, d, ?_⟩
    have hNumbers :
        ∀ week ∈ weekTable req input, 0 ≤ week.number := by
      intro week hWeek
      have hPos := buildWeeks_number_pos hWeek
      omega
    have hPerm :=
      distribute_lessonIds_perm hNumbers hUseful hDistribute
    have hSome : d.assignments ≠ [] := by
      intro hNone
      rw [hNone] at hPerm
      have hIds := List.nil_perm.mp hPerm
      exact hContent (List.map_eq_nil_iff.mp hIds)
    rw [if_neg (by simpa using hSome)]
    exact ⟨rfl, hPerm⟩
  · have hNone :
        ∀ week ∈ weekTable req input, week.isUseful = false := by
      intro week hWeek
      rcases hUse : week.isUseful with _ | _
      · rfl
      · exact (hUseful ⟨week, hWeek, hUse⟩).elim
    have hEmpty := (distribute_of_no_useful hNone hDistribute).1
    refine Or.inl ⟨hNone, ?_⟩
    rw [hEmpty]
    exact ⟨_, rfl, rfl, rfl⟩

/-
  Lessons are planned unless there are none, there is no time
  for them, or there is no week for them, in this order.
-/
theorem planned_cases
    (req : GenerateRequest)
    (input : GenerationInput)
    (content : List (CostedLesson Float)) :
    (content = [] ∧
      ∃ f, planned req input content = .error f ∧
        Tells .validation f) ∨
    (content ≠ [] ∧ ¬ Feasible req input content ∧
      ∃ f, planned req input content = .error f ∧
        Tells .insufficientTime f) ∨
    (content ≠ [] ∧ Feasible req input content ∧
      (∀ week ∈ weekTable req input, week.isUseful = false) ∧
      ∃ f, planned req input content = .error f ∧
        Tells .validation f) ∨
    (content ≠ [] ∧ Feasible req input content ∧
      (∃ week ∈ weekTable req input, week.isUseful = true) ∧
      ∃ d, planned req input content = .ok d ∧
        (d.assignments.map (·.lessonId)).Perm
          (content.map (·.id))) := by
  unfold planned
  by_cases hContent : content = []
  · refine Or.inl ⟨hContent, ?_⟩
    rw [hContent]
    exact ⟨_, rfl, rfl, rfl⟩
  refine Or.inr ?_
  simp only
  rw [if_neg (by simpa using hContent)]
  unfold checkFeasibility
  by_cases hFeasible : Feasible req input content
  · rw [if_pos hFeasible]
    refine Or.inr ?_
    rcases arrange_cases hContent with ⟨hNone, hError⟩ | hOk
    · exact Or.inl ⟨hContent, hFeasible, hNone, hError⟩
    · exact Or.inr ⟨hContent, hFeasible, hOk⟩
  · rw [if_neg hFeasible]
    exact Or.inl ⟨hContent, hFeasible, _, rfl, rfl, rfl⟩

------------------------------------------------------------
-- Generating in a Calm World
------------------------------------------------------------

/- The content of a plan: the eligible lessons, sorted and with their costs. -/
def contentFor
    (req : GenerateRequest)
    (input : GenerationInput)
    (w : World) : List (CostedLesson Float) :=
  applyCost
    (sortLessons w.settings.locale
      (eligibleLessons req.ownerId req w.tables) w.settings.collator)
    input.speed

/- Truth of the cache depends on little of the world. -/
theorem CacheTruthful.of_eq
    {f : LessonFilter}
    {w w' : World}
    (h : CacheTruthful f w)
    (hSettings : w'.settings = w.settings)
    (hCache : w'.cache = w.cache)
    (hTables : w'.tables = w.tables) :
    CacheTruthful f w' := by
  unfold CacheTruthful
  rw [hSettings, hCache, hTables]
  exact h

/-
  In a calm world an accepted request of the owner ends as
  its lessons can be planned.
-/
theorem runs_generatePlan_calm
    {requester : String}
    {req : GenerateRequest}
    {input : GenerationInput}
    {w w' : World}
    {r : Except Failure PlanView}
    (hParsed : parseRequest req = .ok input)
    (hRequester : requester ≠ "")
    (hOwner : req.ownerId = requester)
    (hCalm : w.Calm)
    (hTransactional : w.settings.transactional = true)
    (hTruthful : CacheTruthful req.filter w)
    (hFresh : w.Fresh)
    (hRun : (generatePlan requester req).Runs w r w') :
    (∃ f, planned req input (contentFor req input w) = .error f ∧
      r = .error f) ∨
      ∃ d view,
        planned req input (contentFor req input w) = .ok d ∧
        r = .ok view ∧ Stored requester d.assignments w view w' := by
  have hResolved : resolveOwner requester req.ownerId = .ok requester := by
    simp [resolveOwner, hRequester, hOwner]
  unfold generatePlan at hRun
  simp only [hParsed, hResolved, resume, pure_bind] at hRun
  rcases (runs_bind_iff _ _ _ _ _).mp hRun with
    ⟨f, hNote, _⟩ | ⟨_, w₁, hNote, hLoading⟩
  · cases ((runs_note_iff _ _ _ _ _).mp hNote).1
  have hNoted := (Aside.note _ _).keeps _ _ _ hNote
  have hTruthful₁ : CacheTruthful req.filter w₁ := by
    rw [((runs_note_iff _ _ _ _ _).mp hNote).2]
    exact hTruthful.of_eq rfl rfl rfl
  have hContent :
      applyCost
        (sortLessons w₁.settings.locale
          (eligibleLessons requester req w₁.tables) w₁.settings.collator)
        input.speed = contentFor req input w := by
    unfold contentFor
    rw [hNoted.settings, show w₁.tables = w.tables from hNoted.tables,
      hOwner]
  rcases (runs_bind_iff _ _ _ _ _).mp hLoading with
    ⟨f, hLoad, _⟩ | ⟨content, w₂, hLoad, hComposing⟩
  · cases runs_loadContent_calm (hNoted.calm hCalm) hTruthful₁ hLoad
  have hKept := hNoted.trans (loadContent_keeps _ _ _ _ _ _ hLoad)
  have hLoaded :=
    runs_loadContent_calm (hNoted.calm hCalm) hTruthful₁ hLoad
  rw [hContent] at hLoaded
  cases hLoaded
  rcases runs_composePlan hComposing with
    ⟨f, hPlanned, rfl, _⟩ | ⟨d, w₃, hPlanned, hRest, hStoring⟩
  · exact Or.inl ⟨f, hPlanned, rfl⟩
  have hThere := hKept.trans hRest
  rcases runs_storePlan hRequester (hThere.fresh hFresh)
      (hThere.overt hCalm.overt) hStoring with
    ⟨f, rfl, hRestless, _⟩ | ⟨m, view, rfl, hStored⟩
  · rw [hThere.settings] at hRestless
    exact (hRestless ⟨hThere.calm hCalm, hTransactional⟩).elim
  · have hAround := hStored.around hThere rfl (Nat.le_refl _) rfl
    exact Or.inr ⟨d, view, hPlanned, rfl, hAround.stored hFresh⟩

/- The time limit does not come into it. -/
theorem runs_generate_calm
    {requester : String}
    {req : GenerateRequest}
    {input : GenerationInput}
    {w w' : World}
    {r : Except Failure PlanView}
    (hParsed : parseRequest req = .ok input)
    (hRequester : requester ≠ "")
    (hOwner : req.ownerId = requester)
    (hCalm : w.Calm)
    (hTransactional : w.settings.transactional = true)
    (hTruthful : CacheTruthful req.filter w)
    (hFresh : w.Fresh)
    (hRun : (generate requester req).Runs w r w') :
    (∃ f, planned req input (contentFor req input w) = .error f ∧
      r = .error (deadlineFailure f)) ∨
      ∃ d view,
        planned req input (contentFor req input w) = .ok d ∧
        r = .ok view ∧ Stored requester d.assignments w view w' := by
  rcases runs_timed_attempt_bind hRun with
    ⟨o, nanos, w₁, hGenerate, hMeasuring⟩
  rcases runs_measure_bind hMeasuring with
    ⟨w₂, hMeasured, hResume⟩
  rcases (runs_resume_iff _ _ _ _).mp hResume with ⟨rfl, rfl⟩
  rcases (runs_restating_iff _ _ _ _ _).mp hGenerate with
    ⟨o, hLimited, rfl⟩
  rw [runs_limited_iff] at hLimited
  rcases (runs_under_iff _ _ _ _ _).mp hLimited with
    ⟨w₃, hPlan, rfl⟩
  have hStart := World.kept_clock w (w.clock + clockTick)
  have hEnd := (World.kept_clock _ _).trans hMeasured
  rcases runs_generatePlan_calm hParsed hRequester hOwner
      (by exact (hStart.calm hCalm).limited w.context.detached)
      (by exact hTransactional)
      (by exact hTruthful.of_eq rfl rfl rfl)
      (by exact hStart.fresh hFresh) hPlan with
    ⟨f, hPlanned, rfl⟩ | ⟨d, view, hPlanned, rfl, hStored⟩
  · exact Or.inl ⟨f, hPlanned, rfl⟩
  · refine Or.inr ⟨d, view, hPlanned, rfl, ?_, ?_⟩
    · rcases hStored.numbered with ⟨n, hAbove, hBelow, hRest⟩
      exact ⟨n, hAbove, Nat.le_trans hBelow hEnd.issued, hRest⟩
    · rw [show w'.tables = w₃.tables from hEnd.tables]
      exact hStored.tables

------------------------------------------------------------
-- How a Generation Ends
------------------------------------------------------------

/- The code of the problem that a client is told about, if any. -/
def failureCode
    {α : Type} : Except Failure α → Option String
| .ok _ => none
| .error f => some f.answer.1.code

/-
  The code with which an accepted request is refused: there
  has to be an eligible lesson, then time for all of them,
  then a week that is no vacation and has room for study.
-/
def expectedFailure
    (req : GenerateRequest)
    (input : GenerationInput)
    (w : World) : Option String :=
  if (eligibleLessons req.ownerId req w.tables).isEmpty then
    some Problem.validation.code
  else if ¬ Feasible req input (contentFor req input w) then
    some Problem.insufficientTime.code
  else if ¬ ∃ week ∈ weekTable req input, week.isUseful = true then
    some Problem.validation.code
  else none

/- The lessons of the items that are stored for a plan. -/
def storedLessons
    (planId : String)
    (t : Tables) : List String :=
  (t.items.filter (fun i => i.planId == planId)).map (·.lessonId)

/- What is stored for a new plan are its items. -/
theorem Stored.storedLessons_eq
    {owner : String}
    {assignments : List (Assignment Float)}
    {w w' : World}
    {view : PlanView}
    (h : Stored owner assignments w view w')
    (hFresh : w.Fresh) :
    storedLessons view.plan.id w'.tables =
      assignments.map (·.lessonId) := by
  rcases h.tables with ⟨row, moment, rfl, hRow, hTables⟩
  have hItems := h.items_planId
  have hNew := h.planId_new hFresh
  rw [← StudyPlan.core_id hRow] at hItems hNew
  have hNames :
      (fun i : ScheduleItem => i.planId == row.id) =
        fun i => [row.id].contains i.planId := by
    funext i
    rw [Bool.eq_iff_iff]
    simp
  have hTopics := congrArg (List.map (·.1)) h.topics
  rw [List.map_map, List.map_map] at hTopics
  unfold storedLessons
  rw [← StudyPlan.core_id hRow, hTables, Tables.replaced_items,
    hNames, (Tables.filter_naming (Tables.items_apart hNew) hItems).1]
  exact hTopics

/-
  In a calm world an accepted request of its owner is refused
  exactly for lack of eligible lessons, of time or of weeks,
  and otherwise the lessons of the stored plan are exactly
  the eligible ones.
-/
theorem generate_outcome
    (requester : String)
    (req : GenerateRequest)
    (input : GenerationInput)
    (w : World)
    (hParsed : parseRequest req = .ok input)
    (hRequester : requester ≠ "")
    (hOwner : req.ownerId = requester)
    (hCalm : w.Calm)
    (hTransactional : w.settings.transactional = true)
    (hTruthful : CacheTruthful req.filter w)
    (hFresh : w.Fresh) :
    failureCode ((generate requester req).outcome w) =
      expectedFailure req input w ∧
    ∀ view, (generate requester req).outcome w = .ok view →
      (storedLessons view.plan.id
        ((generate requester req).after w).tables).Perm
        ((eligibleLessons requester req w.tables).map (·.id)) := by
  have hRun := runs_outcome_after (generate requester req) w
  have hEnd :=
    runs_generate_calm hParsed hRequester hOwner hCalm
      hTransactional hTruthful hFresh hRun
  have hIds :
      ((contentFor req input w).map (·.id)).Perm
        ((eligibleLessons requester req w.tables).map (·.id)) := by
    unfold contentFor
    rw [applyCost_ids, hOwner]
    exact (sortLessons_perm _ _ _).map _
  have hEmpty :
      (eligibleLessons req.ownerId req w.tables).isEmpty = true ↔
        contentFor req input w = [] := by
    have hLength := hIds.length_eq
    rw [List.length_map, List.length_map] at hLength
    rw [List.isEmpty_iff, ← List.length_eq_zero_iff,
      ← List.length_eq_zero_iff, hLength, hOwner]
  -- what cannot be planned is refused, and nothing is claimed about a plan
  have refused :
      ∀ f, planned req input (contentFor req input w) = .error f →
        ∀ p : Problem, f.answer.1.code = p.code →
        f.hasSentinel .deadline = false →
        failureCode ((generate requester req).outcome w) =
          some p.code ∧
        ∀ view, (generate requester req).outcome w = .ok view →
          (storedLessons view.plan.id
            ((generate requester req).after w).tables).Perm
            ((eligibleLessons requester req w.tables).map
              (·.id)) := by
    intro f hPlanned p hCode hSentinel
    rcases hEnd with
      ⟨g, hError, hOutcome⟩ | ⟨d, view, hOk, _⟩
    · rw [hPlanned] at hError
      cases hError
      rw [hOutcome]
      unfold deadlineFailure
      rw [hSentinel]
      refine ⟨congrArg some hCode, ?_⟩
      intro view hView
      cases hView
    · rw [hPlanned] at hOk
      cases hOk
  unfold expectedFailure
  rcases planned_cases req input (contentFor req input w) with
    ⟨hNone, f, hPlanned, hCode, hSentinel⟩ |
      ⟨hSome, hInfeasible, f, hPlanned, hCode, hSentinel⟩ |
      ⟨hSome, hFeasible, hUseless, f, hPlanned, hCode, hSentinel⟩ |
      ⟨hSome, hFeasible, hUseful, d, hPlanned, hPerm⟩
  · rw [if_pos (hEmpty.mpr hNone)]
    exact refused f hPlanned _ hCode hSentinel
  · rw [if_neg (fun h => hSome (hEmpty.mp h)), if_pos hInfeasible]
    exact refused f hPlanned _ hCode hSentinel
  · have hNoWeek :
        ¬ ∃ week ∈ weekTable req input, week.isUseful = true := by
      rintro ⟨week, hWeek, hUse⟩
      rw [hUseless week hWeek] at hUse
      cases hUse
    rw [if_neg (fun h => hSome (hEmpty.mp h)),
      if_neg (fun h => h hFeasible), if_pos hNoWeek]
    exact refused f hPlanned _ hCode hSentinel
  · rw [if_neg (fun h => hSome (hEmpty.mp h)),
      if_neg (fun h => h hFeasible), if_neg (fun h => h hUseful)]
    rcases hEnd with
      ⟨f, hError, _⟩ | ⟨e, view, hOk, hView, hStored⟩
    · rw [hPlanned] at hError
      cases hError
    · rw [hPlanned] at hOk
      cases hOk
      rw [hView]
      refine ⟨rfl, ?_⟩
      intro other hOther
      cases hOther
      rw [hStored.storedLessons_eq hFresh]
      exact hPerm.trans hIds

/- A request that succeeds, so that its three lessons are stored. -/
theorem generate_outcome_sample :
    ∃ input, parseRequest sampleRequest = .ok input ∧
      (sampleWorld []).Calm ∧
      CacheTruthful sampleRequest.filter (sampleWorld []) ∧
      failureCode
        ((generate "ann" sampleRequest).outcome (sampleWorld [])) =
          none ∧
      expectedFailure sampleRequest input (sampleWorld []) = none ∧
      ∀ view,
        (generate "ann" sampleRequest).outcome (sampleWorld []) =
          .ok view →
        (storedLessons view.plan.id
          ((generate "ann" sampleRequest).after
            (sampleWorld [])).tables).Perm
          ["rings", "limits", "groups"] := by
  have hCalm : (sampleWorld []).Calm :=
    ⟨rfl, rfl, rfl, rfl, by decide⟩
  have hTruthful :
      CacheTruthful sampleRequest.filter (sampleWorld []) := by
    intro hConnected
    cases hConnected
  have hCode :
      failureCode
        ((generate "ann" sampleRequest).outcome (sampleWorld [])) =
          none := by
    simp only [generate, generatePlan, loadContent, sortLessons,
      composePlan, storePlan, applyDates, assignDates,
      mergeSort_eq_sortHalves]
    decide +kernel
  have hAccepted : (parseRequest sampleRequest).isOk = true := by
    decide +kernel
  rcases hParsed : parseRequest sampleRequest with f | input
  · rw [hParsed] at hAccepted
    cases hAccepted
  · have hEnd :=
      generate_outcome "ann" sampleRequest input (sampleWorld [])
        hParsed (by decide) rfl hCalm rfl hTruthful
        (sampleWorld_fresh [])
    refine ⟨input, rfl, hCalm, hTruthful, hCode,
      hEnd.1.symm.trans hCode, ?_⟩
    have hLessons :
        (eligibleLessons "ann" sampleRequest
          (sampleWorld []).tables).map (·.id) =
            ["rings", "limits", "groups"] := by
      decide +kernel
    rw [← hLessons]
    exact hEnd.2

end Timetable.Service
