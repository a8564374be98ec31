import Timetable.Proofs.Order.Halves
import Timetable.Proofs.Service.Causes
import Timetable.Service.Plans

/-
  This file tells how a missed deadline is answered.

  Generating a plan answers with a timeout wherever it misses
  the deadline.  Choosing weekdays and dating anew tell of an
  internal error if they miss it while they look rows up, and
  answer with a timeout everywhere else.

  Key definitions include:
    * `Answered`

  Main theorems include:
    * `answer_deadlineFailure`
    * `traced_generate`
    * `traced_setWeekdays`
    * `traced_recalculateDates`
    * `deadline_answers`
-/

namespace Timetable.Service

open Plan Store Act

variable {C : Failure → Prop}

------------------------------------------------------------
-- Recognising Deadlines
------------------------------------------------------------

/- A missed deadline that was recognised is answered as one. -/
theorem answer_deadlineFailure
    {f : Failure}
    (h : (deadlineFailure f).hasSentinel .deadline = true) :
    (deadlineFailure f).answer.1 = .timeout := by
  unfold deadlineFailure at h ⊢
  split
  · rfl
  · rename_i hNone
    rw [if_neg hNone] at h
    exact absurd h hNone

theorem stems_deadlineFailure
    {f : Failure}
    (h : f.Stems C) :
    (deadlineFailure f).Stems C := by
  unfold deadlineFailure
  split
  · exact Records.stems_caused _ h
  · exact h

/- A refusal does not count as a missed deadline. -/
theorem Refusal.deadlineFailure_eq
    {f : Failure}
    (h : Refusal f) :
    deadlineFailure f = f := by
  unfold deadlineFailure
  rw [h.inTime]
  rfl

theorem Explained.deadlineFailure
    {f : Failure}
    (h : Explained C f) :
    Explained C (deadlineFailure f) := by
  rcases h with hStems | hRefusal
  · exact Or.inl (stems_deadlineFailure hStems)
  · rw [hRefusal.deadlineFailure_eq]
    exact Or.inr hRefusal

------------------------------------------------------------
-- Failures with their Answers
------------------------------------------------------------

/-
  What is known about a failure of an operation: where it
  comes from, and how a missed deadline in it is answered.
  Some messages stand for places where deadlines are not
  recognised.
-/
structure Answered
    (C : Failure → Prop)
    (blind : List String)
    (f : Failure) : Prop where
  explained : Explained C f
  deadline :
    f.hasSentinel .deadline = true →
      f.answer.1 = .timeout ∨
        ∃ m ∈ blind, f.answer.1 = Problem.internal.withMessage m

namespace Answered

variable {blind : List String}

theorem of_refusal
    {f : Failure}
    (h : Refusal f) :
    Answered C blind f := by
  refine ⟨Or.inr h, ?_⟩
  intro hLate
  rw [h.inTime] at hLate
  cases hLate

/- A deadline is not recognised where one of the messages is told. -/
theorem of_internal
    {message : String}
    (hBlind : message ∈ blind)
    {f : Failure}
    (h : f.Stems C) :
    Answered C blind (.wrap .internal message f) :=
  ⟨Or.inl (Records.stems_caused _ h),
    fun _ => Or.inr ⟨message, hBlind, rfl⟩⟩

theorem of_deadlineFailure
    {f : Failure}
    (h : Explained C f) :
    Answered C blind (deadlineFailure f) :=
  ⟨h.deadlineFailure, fun hLate => Or.inl (answer_deadlineFailure hLate)⟩

/- What is traced holds of the outcome in a world with its own threats. -/
theorem of_outcome
    {α : Type}
    {act : Act α}
    {w : World}
    (h :
      act.Traced w.Threatens (Answered w.Threatens blind)
        (fun _ => True))
    {f : Failure}
    (hOutcome : act.outcome w = .error f) :
    Answered w.Threatens blind f :=
  (h w _ _ (fun _ hThreat => hThreat)
    (runs_outcome_after act w)).2.2 f hOutcome

/- A missed deadline is found wherever it stands in the failure. -/
theorem of_standsIn
    {g f : Failure}
    (h : Answered C blind f)
    (hLate : g.hasSentinel .deadline = true)
    (hStands : g.StandsIn f) :
    f.answer.1 = .timeout ∨
      ∃ m ∈ blind, f.answer.1 = Problem.internal.withMessage m :=
  h.deadline (hStands.hasSentinel hLate)

end Answered

------------------------------------------------------------
-- Operations under a Time Limit
------------------------------------------------------------

/- Here every failure passes the place where deadlines are recognised. -/
theorem traced_generate
    (requester : String)
    (r : GenerateRequest) :
    (generate requester r).Traced C (Answered C [])
      (fun _ => True) := by
  have hLimited :
      (restating deadlineFailure
        (limited (generatePlan requester r))).Traced C (Answered C [])
        (fun _ => True) :=
    (traced_generatePlan requester r).limited.restating
      (fun _ hf => Answered.of_deadlineFailure hf)
  apply hLimited.attempt.timed.bind
  rintro ⟨outcome, nanos⟩ ⟨_, hError⟩
  apply (Traced.measure _).bind
  intro _ _
  exact Traced.resume (fun _ _ => trivial) hError

section Owned

variable {blind : List String}

theorem traced_ownedPlan
    (hBlind : "failed to load study plan" ∈ blind)
    (planId owner : String) :
    (ownedPlan planId owner).Traced C (Answered C blind)
      (fun _ => True) := by
  unfold ownedPlan
  split
  · exact Traced.throw_bind
      (.of_refusal (.of_problem .unauthorized (by decide) rfl rfl)) _
  apply (Records.traced_fetchOne (.planById planId)).attempt.bind
  rintro o ⟨_, hError⟩
  cases o with
  | error f =>
      simp only
      split
      · exact Traced.throw_bind
          (.of_refusal (.of_problem .notFound (by decide) rfl rfl)) _
      · rename_i hRows
        have hMet := hError f rfl hRows
        exact Traced.throw (.of_internal hBlind (.of_mem hMet))
  | ok plan =>
      simp only
      split
      · exact Traced.throw_bind
          (.of_refusal (.of_problem .validation (by decide) rfl rfl)) _
      · exact Traced.pure trivial

theorem traced_itemsOf
    (hBlind : "failed to load schedule items" ∈ blind)
    (planId : String) :
    (itemsOf planId).Traced C (Answered C blind) (fun _ => True) := by
  have hFetch :
      (Records.listItems planId).Traced C (Failure.Stems C)
        (fun _ => True) :=
    Records.traced_labeled _ (Records.traced_fetch (.itemsOfPlan planId))
  exact hFetch.restating (fun _ hf => .of_internal hBlind hf)

/- The weekdays of a plan are valid, whatever was stored. -/
theorem traced_effectiveWeekdays
    (hBlind : "failed to load weekday distribution" ∈ blind)
    (plan : StudyPlan) :
    (effectiveWeekdays plan).Traced C (Answered C blind)
      (fun p => ValidDays p.1) := by
  have hUsual := defaultWeekdays_valid plan.daysPerWeek
  apply (Records.traced_fetchOne (.weekdaysOfPlan plan.id)).attempt.bind
  rintro o ⟨_, hError⟩
  cases o with
  | error f =>
      simp only
      split
      · exact Traced.pure hUsual
      · rename_i hRows
        have hMet := hError f rfl hRows
        exact Traced.throw (.of_internal hBlind (.of_mem hMet))
  | ok choice =>
      simp only
      split
      · rename_i days hDays
        exact Traced.pure (normalizeWeekdays_valid hDays)
      · apply (Traced.note _ _).bind
        intro _ _
        exact Traced.pure hUsual

end Owned

/- The lookups of a plan and its items do not recognise deadlines. -/
theorem traced_setWeekdays
    (planId owner : String)
    (weekdays : List Int) :
    (setWeekdays planId owner weekdays).Traced C
      (Answered C
        ["failed to load study plan", "failed to load schedule items"])
      (fun _ => True) := by
  apply Traced.limited
  split
  · exact Traced.throw
      (.of_refusal (.of_problem .validation (by decide) rfl rfl))
  rename_i days hDays
  apply (traced_ownedPlan (by simp) planId owner).bind
  intro plan _
  apply ((Records.traced_saveWeekdays _).restating ?_).bind
  · intro _ _
    apply (traced_itemsOf (by simp) plan.id).bind
    intro items _
    apply (traced_applyDates plan items
      (normalizeWeekdays_valid hDays)).bind
    intro run _
    simp only
    split
    · apply (Traced.note _ _).bind
      intro _ _
      apply (Traced.note _ _).bind
      intro _ _
      exact Traced.pure trivial
    · apply (Traced.note _ _).bind
      intro _ _
      exact Traced.pure trivial
  · rintro f (hStems | ⟨_, rfl⟩)
    · exact .of_deadlineFailure (Or.inl (stems_storeFailure _ hStems))
    · exact .of_deadlineFailure
        (Or.inr ⟨rfl, Or.inr (by simp [mishaps])⟩)

/- Nor does the lookup of weekdays. -/
theorem traced_recalculateDates
    (planId owner : String) :
    (recalculateDates planId owner).Traced C
      (Answered C
        ["failed to load study plan",
          "failed to load weekday distribution",
          "failed to load schedule items"])
      (fun _ => True) := by
  apply Traced.limited
  apply (traced_ownedPlan (by simp) planId owner).bind
  intro plan _
  apply (traced_effectiveWeekdays (by simp) plan).bind
  rintro ⟨weekdays, isDefault⟩ hDays
  apply (traced_itemsOf (by simp) plan.id).bind
  intro items _
  apply (traced_applyDates plan items hDays).bind
  intro run hRun
  split
  · rename_i f hStopped
    have hStems := Failure.Stems.of_mem (hRun f hStopped)
    exact Traced.throw
      (.of_deadlineFailure (Or.inl (Records.stems_caused _ hStems)))
  · exact Traced.pure trivial

/-
  Operations under a time limit fail because a statement has
  failed or the request has ended, unless they refuse what is
  asked.  If a missed deadline stands in the failure, then
  generating a plan answers with a timeout.  So do the others,
  except where they look up a plan, its weekdays or its items.
-/
theorem deadline_answers
    (w : World) :
    (∀ requester r f,
      (generate requester r).outcome w = .error f →
        Explained w.Threatens f ∧
        ∀ g : Failure, g.hasSentinel .deadline = true →
          g.StandsIn f →
          f.answer.1 = Problem.timeout) ∧
    (∀ planId owner weekdays f,
      (setWeekdays planId owner weekdays).outcome w = .error f →
        Explained w.Threatens f ∧
        ∀ g : Failure, g.hasSentinel .deadline = true →
          g.StandsIn f →
          f.answer.1 = Problem.timeout ∨
            ∃ m ∈ ["failed to load study plan",
                "failed to load schedule items"],
              f.answer.1 = Problem.internal.withMessage m) ∧
    (∀ planId owner f,
      (recalculateDates planId owner).outcome w = .error f →
        Explained w.Threatens f ∧
        ∀ g : Failure, g.hasSentinel .deadline = true →
          g.StandsIn f →
          f.answer.1 = Problem.timeout ∨
            ∃ m ∈ ["failed to load study plan",
                "failed to load weekday distribution",
                "failed to load schedule items"],
              f.answer.1 = Problem.internal.withMessage m) := by
  refine ⟨?_, ?_, ?_⟩
  · intro requester r f hOutcome
    have hAnswered :=
      Answered.of_outcome (traced_generate requester r) hOutcome
    refine ⟨hAnswered.explained, ?_⟩
    intro g hLate hStands
    rcases hAnswered.of_standsIn hLate hStands with hTimeout | ⟨m, hm, _⟩
    · exact hTimeout
    · cases hm
  · intro planId owner weekdays f hOutcome
    have hAnswered :=
      Answered.of_outcome (traced_setWeekdays planId owner weekdays)
        hOutcome
    exact ⟨hAnswered.explained,
      fun _ hLate hStands => hAnswered.of_standsIn hLate hStands⟩
  · intro planId owner f hOutcome
    have hAnswered :=
      Answered.of_outcome (traced_recalculateDates planId owner)
        hOutcome
    exact ⟨hAnswered.explained,
      fun _ hLate hStands => hAnswered.of_standsIn hLate hStands⟩

------------------------------------------------------------
-- Samples
------------------------------------------------------------

/- A missed deadline stands in what an action fails with. -/
def isLate
    {α : Type} : Except Failure α → Bool
| .ok _ => false
| .error f => f.hasSentinel .deadline

theorem exists_of_isLate
    {α : Type}
    {o : Except Failure α}
    (h : isLate o = true) :
    ∃ f, o = .error f ∧ f.hasSentinel .deadline = true := by
  cases o with
  | ok a => cases h
  | error f => exact ⟨f, rfl, h⟩

/- Statements with some labels miss the deadline once. -/
def lateWorld (labels : List String) : World :=
  sampleWorld
    (labels.map (fun label => ⟨label, 0, 1, .fails (.sentinel .deadline)⟩))

/- The begin of a transaction, weekdays that are saved, and weekdays that are read come late. -/
theorem deadline_answers_of_late_statements :
    let w := lateWorld ["begin", "weekday_upsert", "weekday_get"]
    let plan := idOfNumber 1
    (∃ f, (generate "ann" sampleRequest).outcome w = .error f ∧
      f.answer.1 = Problem.timeout) ∧
    (∃ f, (setWeekdays plan "ann" [2]).outcome w = .error f ∧
      f.answer.1 = Problem.timeout) ∧
    (∃ f, (recalculateDates plan "ann").outcome w = .error f ∧
      ∃ m, f.answer.1 = Problem.internal.withMessage m) := by
  intro w plan
  have hAll := deadline_answers w
  refine ⟨?_, ?_, ?_⟩
  · have hIsLate :
        isLate ((generate "ann" sampleRequest).outcome w) = true := by
      simp only [generate, generatePlan, loadContent, sortLessons,
        mergeSort_eq_sortHalves]
      decide +kernel
    rcases exists_of_isLate hIsLate with ⟨f, hOutcome, hLate⟩
    exact ⟨f, hOutcome,
      (hAll.1 "ann" sampleRequest f hOutcome).2 f hLate .here⟩
  · refine ⟨_, rfl, ?_⟩
    rcases (hAll.2.1 plan "ann" [2] _ rfl).2 _ rfl .here with
      hTimeout | ⟨m, _, hInternal⟩
    · exact hTimeout
    · have hCode : "REQUEST_TIMEOUT" = "INTERNAL_ERROR" :=
        congrArg Problem.code hInternal
      exact absurd hCode (by decide)
  · refine ⟨_, rfl, ?_⟩
    rcases (hAll.2.2 plan "ann" _ rfl).2 _ rfl .here with
      hTimeout | ⟨m, _, hInternal⟩
    · have hCode : "INTERNAL_ERROR" = "REQUEST_TIMEOUT" :=
        congrArg Problem.code hTimeout
      exact absurd hCode (by decide)
    · exact ⟨m, hInternal⟩

/- A deadline that is missed in the lookup of a plan is told as an internal error. -/
theorem late_lookup_is_internal :
    ∃ f,
      (recalculateDates (idOfNumber 1) "ann").outcome
        (lateWorld ["plan_find"]) = .error f ∧
      f.hasSentinel .deadline = true ∧
      f.answer.1.code = "INTERNAL_ERROR" ∧ f.answer.1.status = 500 := by
  refine ⟨_, rfl, rfl, rfl, rfl⟩

end Timetable.Service
