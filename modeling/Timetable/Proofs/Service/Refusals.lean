import Timetable.Proofs.Failure.Trees
import Timetable.Proofs.Service.Reduction

/-
  This file shows how failures are recognised on their way to
  a client, whatever they are wrapped in and joined with.

  A failure counts as a problem by the code alone, and the
  client is answered with the first problem that a walk
  meets.  So a refusal of the store is answered as a conflict
  or as one that may be tried again, depending on the state
  that the store names, even if the transaction could not
  return to the savepoint in front of it.

  Key definitions include:
    * `Failure.Unclassified`
    * `Records.RefusedBehind`

  Main theorems include:
    * `Records.RefusedBehind.outcome`
    * `Service.storeFailure_of_state`
    * `Service.failures_are_recognised`
-/

namespace Timetable

open Act

/- A failure that was recognised neither as a duplicate nor as transient. -/
structure Failure.Unclassified (f : Failure) : Prop where
  duplicate : f.hasSentinel .duplicate = false
  transient : f.hasSentinel .transient = false

------------------------------------------------------------
-- Refusals behind Savepoints
------------------------------------------------------------

namespace Records

/-
  The store refuses an action, which stands alone or behind a
  savepoint.  The transaction then returns to the savepoint,
  or fails to do so for a reason that is not classified.
-/
inductive RefusedBehind
    (name : String)
    (act : Act Unit)
    (raw : Failure)
    (w : World) : Scope → Prop where
| alone
    {w' : World}
    (hAct : act.Runs w (.error raw) w') :
    RefusedBehind name act raw w .alone
| behind
    {w₁ w₂ w₃ : World}
    {o : Except Failure Unit}
    (hMark : (mark name).Runs w (.ok ()) w₁)
    (hAct : act.Runs w₁ (.error raw) w₂)
    (hReturn : (returnTo name).Runs w₂ o w₃)
    (hUnclassified : ∀ g, o = .error g → g.Unclassified) :
    RefusedBehind name act raw w .transaction

/- What a failure is passed on as once the transaction has tried to return. -/
def passedOn
    (name : String)
    (f : Failure) : Except Failure Unit → Failure
| .ok _ => f
| .error g => .joined f (.during ("rollback to savepoint " ++ name) g)

theorem runs_behindSavepoint_failed
    {name : String}
    {act : Act Unit}
    {f : Failure}
    {o : Except Failure Unit}
    {w w₁ w₂ w₃ : World}
    (hMark : (mark name).Runs w (.ok ()) w₁)
    (hAct : act.Runs w₁ (.error f) w₂)
    (hReturn : (returnTo name).Runs w₂ o w₃) :
    (behindSavepoint .transaction name act).Runs w (.error (passedOn name f o)) w₃ := by
  apply (runs_restating_bind_iff _ _ _ _ _ _).mpr
  refine .inr ⟨(), w₁, hMark, ?_⟩
  apply (runs_attempt_bind_iff _ _ _ _ _).mpr
  refine ⟨_, w₂, hAct, ?_⟩
  apply (runs_attempt_bind_iff _ _ _ _ _).mpr
  refine ⟨o, w₃, hReturn, ?_⟩
  cases o <;> rfl

/- What has passed a savepoint is the failure, maybe joined with why there was no return. -/
def IsPassedOn
    (name : String)
    (classified f : Failure) : Prop :=
  f = classified ∨
    ∃ g : Failure, g.Unclassified ∧
      f = .joined classified (.during ("rollback to savepoint " ++ name) g)

/- A classified refusal is passed on. -/
theorem RefusedBehind.outcome
    {scope : Scope}
    {name : String}
    {act : Act Unit}
    {raw : Failure}
    {w : World}
    (h : RefusedBehind name act raw w scope)
    (label : String) :
    ∃ f, IsPassedOn name (classify label raw) f ∧
      (behindSavepoint scope name (restating (classify label) act)).outcome w = .error f := by
  cases h with
  | alone hAct =>
      have hClassified := (runs_restating_iff (classify label) act _ _ _).mpr ⟨_, hAct, rfl⟩
      exact ⟨_, .inl rfl, hClassified.outcome_eq⟩
  | @behind w₁ w₂ w₃ o hMark hAct hReturn hUnclassified =>
      have hClassified := (runs_restating_iff (classify label) act _ _ _).mpr ⟨_, hAct, rfl⟩
      refine ⟨_, ?_, (runs_behindSavepoint_failed hMark hClassified hReturn).outcome_eq⟩
      cases o with
      | ok _ => exact .inl rfl
      | error g => exact .inr ⟨g, hUnclassified g rfl, rfl⟩

/- Sentinels are recognised in what was passed on as in the failure itself. -/
theorem IsPassedOn.hasSentinel
    {name : String}
    {classified f : Failure}
    {s : Sentinel}
    (h : IsPassedOn name classified f)
    (hSentinel : s = .duplicate ∨ s = .transient) :
    f.hasSentinel s = classified.hasSentinel s := by
  rcases h with rfl | ⟨g, hUnclassified, rfl⟩
  · rfl
  · rcases hSentinel with rfl | rfl
    · simp [Failure.hasSentinel, hUnclassified.duplicate]
    · simp [Failure.hasSentinel, hUnclassified.transient]

end Records

------------------------------------------------------------
-- What a Client is Told
------------------------------------------------------------

namespace Service

open Records

/- What a client is told about a refusal that was classified and passed on. -/
theorem storeFailure_of_state
    {name label state : String}
    {raw f : Failure}
    (message : String)
    (hRaw : raw.Unclassified)
    (hState : raw.state? = some state)
    (hPassed : IsPassedOn name (classify label raw) f) :
    (state = "23505" →
      storeFailure message f =
        .wrap .conflict "a study plan for this owner already exists" f) ∧
    (state = "42703" ∨ state = "42P01" →
      storeFailure message f = .wrap .transientStore message f) := by
  have hDuplicate := hPassed.hasSentinel (s := .duplicate) (.inl rfl)
  have hTransient := hPassed.hasSentinel (s := .transient) (.inr rfl)
  constructor
  · rintro rfl
    have hTagged : classify label raw = .tagged label .duplicate raw := by
      simp [classify, hState, sentinelOfState]
    rw [hTagged] at hDuplicate
    rw [storeFailure, if_pos (by rw [hDuplicate]; rfl)]
  · intro hUnknown
    have hTagged : classify label raw = .tagged label .transient raw := by
      rcases hUnknown with rfl | rfl <;> simp [classify, hState, sentinelOfState]
    rw [hTagged] at hDuplicate hTransient
    have hNot : ¬ f.hasSentinel .duplicate = true := by
      rw [hDuplicate]
      simp [Failure.hasSentinel, hRaw.duplicate]
    rw [storeFailure, if_neg hNot, if_pos (by rw [hTransient]; rfl)]

/-
  A tree of failures counts as a problem if and only if some
  problem in it has the code.  The client is answered with
  the first problem that a walk meets, or with an internal
  error if there is none, and such an answer is answered with
  itself.  Sentinels and the states that the store names are
  found by the same walk.

  A refusal of the store that was classified and has passed a
  savepoint is answered as its state demands.
-/
theorem failures_are_recognised (i : FailureTree.Identity) :
    (∀ (t : FailureTree) (p : Problem),
      (i.counts (.problem p) t = true ↔
        ∃ n ∈ t.nodes, n.problem?.map (·.code) = some p.code) ∧
      t.toFailure.hasCode p.code = i.counts (.problem p) t) ∧
    (∀ t : FailureTree,
      t.normalized =
        (t.nodes.find? (fun n => n.problem?.isSome)).getD (.caused .internal t) ∧
      t.normalized.normalized = t.normalized ∧
      t.normalized.toFailure = t.toFailure.normalized) ∧
    (∀ t : FailureTree,
      (∀ s, t.toFailure.hasSentinel s = i.counts (.leaf (.sentinel s)) t) ∧
      t.toFailure.state? = t.nodes.findSome? FailureTree.refusal?) ∧
    (∀ f : Failure,
      (∃ t : FailureTree, t.toFailure = f) ∧ f.normalized.normalized = f.normalized) ∧
    (∀ scope name label message act raw w state,
      RefusedBehind name act raw w scope → raw.Unclassified → raw.state? = some state →
        ∃ f,
          (restating (storeFailure message)
            (behindSavepoint scope name (restating (classify label) act))).outcome w =
              .error f ∧
          f.normalized = f ∧
          (state = "23505" →
            f.answer.1 =
              Problem.conflict.withMessage "a study plan for this owner already exists") ∧
          (state = "42703" ∨ state = "42P01" →
            f.answer.1 = Problem.transientStore.withMessage message)) := by
  refine ⟨fun t p => ⟨i.counts_problem_iff p t, ?_⟩, fun t => ?_,
    fun t => ⟨fun s => ?_, t.state?_toFailure⟩, fun f => ?_, ?_⟩
  · rw [Bool.eq_iff_iff, FailureTree.hasCode_toFailure_iff, i.counts_problem_iff]
  · exact ⟨t.normalized_eq, t.normalized_normalized, t.toFailure_normalized⟩
  · rw [Bool.eq_iff_iff, FailureTree.hasSentinel_toFailure_iff, i.counts_sentinel_iff]
  · rcases FailureTree.exists_toFailure_eq f with ⟨t, rfl⟩
    refine ⟨⟨t, rfl⟩, ?_⟩
    rw [← t.toFailure_normalized, ← FailureTree.toFailure_normalized, t.normalized_normalized]
  · intro scope name label message act raw w state hRefused hRaw hState
    rcases hRefused.outcome label with ⟨f, hPassed, hOutcome⟩
    have hRun := (runs_restating_iff (storeFailure message) _ w _ _).mpr
      ⟨_, runs_outcome_after (behindSavepoint scope name (restating (classify label) act)) w, rfl⟩
    rw [hOutcome] at hRun
    rcases storeFailure_of_state message hRaw hState hPassed with
      ⟨hConflict, hTransient⟩
    refine ⟨storeFailure message f, hRun.outcome_eq, ?_, ?_, ?_⟩
    · unfold storeFailure
      split
      · rfl
      · split <;> rfl
    · intro h
      rw [hConflict h]
      rfl
    · intro h
      rw [hTransient h]
      rfl

/- Nothing is the same but sentinels. -/
def sentinelsOnly : FailureTree.Identity where
  same
  | .leaf (.sentinel s), .leaf (.sentinel t) => s == t
  | _, _ => false
  eq_of_same := by
    intro a b h
    split at h
    · rw [beq_iff_eq.mp h]
    · cases h
  sentinel_same := by
    intro s
    exact beq_self_eq_true s

/- A problem behind another failure, among more of its kind. -/
def tangledTree : FailureTree :=
  .wrapping "persist"
    (.joining (.leaf (.plain "connection lost"))
      [.caused (Problem.conflict.withMessage "taken") (.leaf (.sentinel .duplicate)),
        .problem .cacheMiss])
    [.problem .notFound]

/- A transaction that is refused a plan, and then the return to a savepoint. -/
def strandedTransaction : World :=
  { settings := { locale := .fallback }
    database :=
      { origin := some {}
        rules :=
          [⟨"plan_insert", 0, 1, .fails (.refused "42P01" "no such table")⟩,
            ⟨"rollback_to study_plan_insert", 0, 1, .fails (.refused "25P02" "aborted")⟩] }
    clock := 0 }

/- The problem is found behind another failure, and the refusal although it is joined. -/
theorem failures_are_recognised_when_tangled :
    tangledTree.toFailure.hasCode Problem.conflict.code = true ∧
    tangledTree.toFailure.normalized =
      .caused (Problem.conflict.withMessage "taken") (.sentinel .duplicate) ∧
    ∃ f,
      (restating (storeFailure "failed to create study plan")
        (behindSavepoint .transaction "study_plan_insert"
          (restating (classify "insert study plan")
            (discard (perform (.insertPlan .blank)))))).outcome strandedTransaction = .error f ∧
      f.hasSentinel .transient = true ∧
      f.answer.1 = Problem.transientStore.withMessage "failed to create study plan" := by
  rcases failures_are_recognised sentinelsOnly with
    ⟨hCounts, hNormalized, _, _, hAnswers⟩
  refine ⟨?_, ?_, ?_⟩
  · rw [(hCounts tangledTree .conflict).2, (hCounts tangledTree .conflict).1]
    exact ⟨.caused (Problem.conflict.withMessage "taken") (.leaf (.sentinel .duplicate)),
      by simp [tangledTree, FailureTree.nodes, FailureTree.nodesOfAll], rfl⟩
  · rw [← (hNormalized tangledTree).2.2, (hNormalized tangledTree).1]
    rfl
  · have hRefused :
        RefusedBehind "study_plan_insert" (discard (perform (.insertPlan .blank)))
          (.refused "42P01" "no such table") strandedTransaction .transaction :=
      .behind rfl rfl rfl (by
        intro g hError
        cases hError
        exact ⟨rfl, rfl⟩)
    rcases hAnswers _ _ "insert study plan" "failed to create study plan" _ _ _ "42P01"
      hRefused ⟨rfl, rfl⟩ rfl with
      ⟨f, hOutcome, _, _, hTransient⟩
    refine ⟨f, hOutcome, ?_, hTransient (.inr rfl)⟩
    have hFailed :
        (restating (storeFailure "failed to create study plan")
          (behindSavepoint .transaction "study_plan_insert"
            (restating (classify "insert study plan")
              (discard (perform (.insertPlan .blank)))))).outcome strandedTransaction =
          .error (.wrap .transientStore "failed to create study plan"
            (.joined
              (.tagged "insert study plan" .transient (.refused "42P01" "no such table"))
              (.during "rollback to savepoint study_plan_insert"
                (.refused "25P02" "aborted")))) :=
      rfl
    rw [hFailed] at hOutcome
    cases hOutcome
    rfl

end Service

end Timetable
