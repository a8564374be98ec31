import Timetable.Proofs.Action.Aside
import Timetable.Proofs.Action.Ids

/-
  This file follows failures back to where they come from.

  A world threatens an action with failures: those that the
  faults of its store make statements fail with, and those
  that end a request early.  `Act.Traced C P Q act` says that,
  as long as the world threatens with failures of `C` only,
  the action fails with failures of `P` only and answers with
  answers of `Q`.  For every way of building actions there is
  a rule for this.

  Key definitions include:
    * `Failure.StandsIn`
    * `Failure.Stems`
    * `World.Threatens`
    * `World.Bounded`
    * `Act.Traced`

  Main theorems include:
    * `Failure.StandsIn.hasSentinel`
    * `World.Later.bounded`
    * `Act.Traced.bind`
    * `Act.Traced.under`
-/

namespace Timetable

------------------------------------------------------------
-- Parts of a Failure
------------------------------------------------------------

namespace Failure

/- A failure stands somewhere in the tree of another one. -/
inductive StandsIn (g : Failure) : Failure → Prop where
| here : StandsIn g g
| caused
    (p : Problem)
    {cause : Failure}
    (h : StandsIn g cause) :
    StandsIn g (.caused p cause)
| during
    (label : String)
    {cause : Failure}
    (h : StandsIn g cause) :
    StandsIn g (.during label cause)
| tagged
    (label : String)
    (s : Sentinel)
    {cause : Failure}
    (h : StandsIn g cause) :
    StandsIn g (.tagged label s cause)
| first
    {a : Failure}
    (b : Failure)
    (h : StandsIn g a) :
    StandsIn g (.joined a b)
| second
    (a : Failure)
    {b : Failure}
    (h : StandsIn g b) :
    StandsIn g (.joined a b)

/- What is recognised in a part is recognised in the whole. -/
theorem StandsIn.hasSentinel
    {g f : Failure}
    (h : g.StandsIn f)
    {s : Sentinel}
    (hPart : g.hasSentinel s = true) :
    f.hasSentinel s = true := by
  induction h with
  | here => exact hPart
  | caused _ _ ih => exact ih
  | during _ _ ih => exact ih
  | tagged _ _ _ ih => exact Bool.or_eq_true_iff.mpr (Or.inr ih)
  | first _ _ ih => exact Bool.or_eq_true_iff.mpr (Or.inl ih)
  | second _ _ ih => exact Bool.or_eq_true_iff.mpr (Or.inr ih)

/- A failure has a part that is one of some failures. -/
def Stems
    (C : Failure → Prop)
    (f : Failure) : Prop :=
  ∃ g, C g ∧ g.StandsIn f

theorem Stems.of_mem
    {C : Failure → Prop}
    {f : Failure}
    (h : C f) :
    f.Stems C :=
  ⟨f, h, .here⟩

/- A failure that is restated around its parts still has them. -/
theorem Stems.restated
    {C : Failure → Prop}
    {f f' : Failure}
    (h : f.Stems C)
    (hParts : ∀ g : Failure, g.StandsIn f → g.StandsIn f') :
    f'.Stems C := by
  rcases h with ⟨g, hg, hStands⟩
  exact ⟨g, hg, hParts g hStands⟩

end Failure

------------------------------------------------------------
-- Threats
------------------------------------------------------------

namespace World

/- What may make statements fail in a world. -/
inductive Threatens (w : World) : Failure → Prop where
| fault
    {rule : Store.FaultRule}
    (hRule : rule ∈ w.database.rules)
    {f : Failure}
    (hFault : rule.fault = .fails f) :
    Threatens w f
| uncounted
    {rule : Store.FaultRule}
    (hRule : rule ∈ w.database.rules)
    {text : String}
    (hFault : rule.fault = .uncounted text) :
    Threatens w (.plain text)
| canceled
    (hCanceled :
      w.context.canceled = true ∨ w.context.cancelOn ≠ none) :
    Threatens w (.sentinel .canceled)
| deadline : Threatens w (.sentinel .deadline)

/- A world threatens with some failures only. -/
def Bounded
    (C : Failure → Prop)
    (w : World) : Prop :=
  ∀ f, w.Threatens f → C f

/- With the same faults, and no new cancellation, no threat comes up. -/
theorem Bounded.of_context
    {C : Failure → Prop}
    {w w' : World}
    (h : w.Bounded C)
    (hRules :
      ∀ rule ∈ w'.database.rules,
        ∃ old ∈ w.database.rules, rule.fault = old.fault)
    (hCancelOn : w'.context.cancelOn = w.context.cancelOn)
    (hCanceled :
      w.context.cancelOn = none →
        w'.context.canceled = w.context.canceled) :
    w'.Bounded C := by
  intro f hThreat
  cases hThreat with
  | fault hRule hFault =>
      rcases hRules _ hRule with ⟨old, hOld, hSame⟩
      exact h _ (.fault hOld (hSame.symm.trans hFault))
  | uncounted hRule hFault =>
      rcases hRules _ hRule with ⟨old, hOld, hSame⟩
      exact h _ (.uncounted hOld (hSame.symm.trans hFault))
  | canceled hEnded =>
      apply h _ (.canceled _)
      by_cases hNone : w.context.cancelOn = none
      · rcases hEnded with hNow | hLater
        · exact Or.inl ((hCanceled hNone).symm.trans hNow)
        · exact absurd (hCancelOn.trans hNone) hLater
      · exact Or.inr hNone
  | deadline => exact h _ .deadline

/- Threats do not grow in time. -/
theorem Later.bounded
    {C : Failure → Prop}
    {w w' : World}
    (h : w.Later w')
    (hBounded : w.Bounded C) :
    w'.Bounded C := by
  apply hBounded.of_context _ h.cancelOn h.canceled
  intro rule hRule
  rcases h.rules rule hRule with ⟨old, hOld, _, hSame⟩
  exact ⟨old, hOld, hSame⟩

/- A request ends for a reason that the world threatens with. -/
theorem threatens_of_failure?
    {w : World}
    {f : Failure}
    (hFailure : w.context.failure? = some f) :
    w.Threatens f := by
  unfold Context.failure? at hFailure
  split at hFailure
  · rename_i hCanceled
    rw [Bool.and_eq_true] at hCanceled
    cases hFailure
    exact .canceled (Or.inl hCanceled.1)
  · split at hFailure
    · cases hFailure
      exact .deadline
    · cases hFailure

end World

------------------------------------------------------------
-- Traced Actions
------------------------------------------------------------

namespace Act

variable {α β : Type}

/-
  Under threats of `C` an action fails as `P` tells, answers
  as `Q` tells, and leaves no other threats behind.
-/
def Traced
    (C P : Failure → Prop)
    (Q : α → Prop)
    (act : Act α) : Prop :=
  ∀ w r w', w.Bounded C → act.Runs w r w' →
    w'.Bounded C ∧
    (∀ a, r = .ok a → Q a) ∧
    (∀ f, r = .error f → P f)

namespace Traced

variable {C P : Failure → Prop}

theorem mono
    {P' : Failure → Prop}
    {Q Q' : α → Prop}
    {act : Act α}
    (h : act.Traced C P Q)
    (hFails : ∀ f, P f → P' f)
    (hAnswers : ∀ a, Q a → Q' a) :
    act.Traced C P' Q' := by
  intro w r w' hBounded hRun
  rcases h w r w' hBounded hRun with ⟨hStill, hOk, hError⟩
  exact ⟨hStill, fun a ha => hAnswers a (hOk a ha),
    fun f hf => hFails f (hError f hf)⟩

theorem pure
    {Q : α → Prop}
    {a : α}
    (h : Q a) :
    (Pure.pure a : Act α).Traced C P Q := by
  intro w r w' hBounded hRun
  rcases (runs_pure_iff _ _ _ _).mp hRun with ⟨rfl, rfl⟩
  refine ⟨hBounded, ?_, nofun⟩
  intro b hb
  cases hb
  exact h

theorem throw
    {Q : α → Prop}
    {f : Failure}
    (h : P f) :
    (MonadExcept.throw f : Act α).Traced C P Q := by
  intro w r w' hBounded hRun
  rcases (runs_throw_iff _ _ _ _).mp hRun with ⟨rfl, rfl⟩
  refine ⟨hBounded, nofun, ?_⟩
  intro g hg
  cases hg
  exact h

theorem bind
    {Q : α → Prop}
    {R : β → Prop}
    {x : Act α}
    {k : α → Act β}
    (hx : x.Traced C P Q)
    (hk : ∀ a, Q a → (k a).Traced C P R) :
    (x >>= k).Traced C P R := by
  intro w r w' hBounded hRun
  rcases (runs_bind_iff _ _ _ _ _).mp hRun with
    ⟨f, hFirst, rfl⟩ | ⟨a, v, hFirst, hSecond⟩
  · rcases hx _ _ _ hBounded hFirst with ⟨hStill, _, hError⟩
    refine ⟨hStill, nofun, ?_⟩
    intro g hg
    cases hg
    exact hError f rfl
  · rcases hx _ _ _ hBounded hFirst with ⟨hStill, hOk, _⟩
    exact hk a (hOk a rfl) _ _ _ hStill hSecond

/- What stands behind a failure is not reached. -/
theorem throw_bind
    {Q : β → Prop}
    {f : Failure}
    (h : P f)
    (k : α → Act β) :
    ((MonadExcept.throw f : Act α) >>= k).Traced C P Q := by
  have hThrow : (MonadExcept.throw f : Act α).Traced C P (fun _ => False) :=
    throw h
  exact hThrow.bind (fun _ hNone => hNone.elim)

/- An action that does not write is traced once its failures are known. -/
theorem of_keeps
    {act : Act α}
    (hKeeps : act.Keeps)
    (hFails : ∀ w f w', act.Runs w (.error f) w' → P f) :
    act.Traced C P (fun _ => True) := by
  intro w r w' hBounded hRun
  refine ⟨(hKeeps _ _ _ hRun).toLater.bounded hBounded,
    fun _ _ => trivial, ?_⟩
  rintro f rfl
  exact hFails w f w' hRun

/- Of an action beside the store nothing has to be known. -/
theorem of_aside
    {act : Act α}
    (h : act.Aside) :
    act.Traced C (fun _ => True) (fun _ => True) :=
  of_keeps h.keeps (fun _ _ _ _ => trivial)

/- A change of the world that concerns neither the store nor the request. -/
theorem of_modify
    {change : World → World}
    (hDatabase : ∀ w, (change w).database = w.database)
    (hContext : ∀ w, (change w).context = w.context) :
    (modify change : Act PUnit).Traced C P (fun _ => True) := by
  intro w r w' hBounded hRun
  rcases (runs_modify_iff _ _ _ _).mp hRun with ⟨rfl, rfl⟩
  refine ⟨?_, fun _ _ => trivial, nofun⟩
  apply hBounded.of_context
  · intro rule hRule
    rw [hDatabase] at hRule
    exact ⟨rule, hRule, rfl⟩
  · rw [hContext]
  · intro _
    rw [hContext]

/- A look at the world changes nothing. -/
theorem get_bind
    {Q : β → Prop}
    {k : World → Act β}
    (hk : ∀ w : World, w.Bounded C → (k w).Traced C P Q) :
    ((MonadState.get : Act World) >>= k).Traced C P Q := by
  intro w r w' hBounded hRun
  have hGoing := (runs_get_bind_iff _ _ _ _).mp hRun
  exact hk w hBounded _ _ _ hBounded hGoing

/- What an attempt answers is what is known about the action. -/
theorem attempt
    {P' : Failure → Prop}
    {Q : α → Prop}
    {act : Act α}
    (h : act.Traced C P Q) :
    (Act.attempt act).Traced C P'
      (fun o => (∀ a, o = .ok a → Q a) ∧ (∀ f, o = .error f → P f)) := by
  intro w r w' hBounded hRun
  rcases (runs_attempt_iff _ _ _ _).mp hRun with ⟨o, hAct, rfl⟩
  rcases h _ _ _ hBounded hAct with ⟨hStill, hOk, hError⟩
  refine ⟨hStill, ?_, nofun⟩
  intro o' ho
  cases ho
  exact ⟨hOk, hError⟩

theorem resume
    {Q : α → Prop}
    {o : Except Failure α}
    (hOk : ∀ a, o = .ok a → Q a)
    (hError : ∀ f, o = .error f → P f) :
    (Act.resume o).Traced C P Q := by
  cases o with
  | ok a => exact pure (hOk a rfl)
  | error f => exact throw (hError f rfl)

theorem restating
    {P' : Failure → Prop}
    {Q : α → Prop}
    {restate : Failure → Failure}
    {act : Act α}
    (h : act.Traced C P Q)
    (hRestate : ∀ f, P f → P' (restate f)) :
    (Act.restating restate act).Traced C P' Q := by
  apply (h.attempt).bind
  rintro o ⟨hOk, hError⟩
  cases o with
  | ok a => exact pure (hOk a rfl)
  | error f => exact throw (hRestate f (hError f rfl))

theorem discard
    {Q : α → Prop}
    {act : Act α}
    (h : act.Traced C P Q) :
    (Functor.discard act).Traced C P (fun _ => True) := by
  intro w r w' hBounded hRun
  rcases (runs_discard_iff _ _ _ _).mp hRun with ⟨o, hAct, rfl⟩
  rcases h _ _ _ hBounded hAct with ⟨hStill, _, hError⟩
  refine ⟨hStill, fun _ _ => trivial, ?_⟩
  intro f hf
  cases o with
  | ok a => cases hf
  | error g =>
      cases hf
      exact hError f rfl

/- Time passes without a threat. -/
theorem timed
    {Q : α → Prop}
    {act : Act α}
    (h : act.Traced C P Q) :
    (Act.timed act).Traced C P (fun p => Q p.1) := by
  intro w r w' hBounded hRun
  have hStarted :
      ({ w with clock := w.clock + clockTick } : World).Bounded C :=
    (World.kept_clock w _).toLater.bounded hBounded
  rcases (runs_timed_iff _ _ _ _).mp hRun with
    ⟨f, hAct, rfl⟩ | ⟨a, v, hAct, rfl, rfl⟩
  · rcases h _ _ _ hStarted hAct with ⟨hStill, _, hError⟩
    refine ⟨hStill, nofun, ?_⟩
    intro g hg
    cases hg
    exact hError f rfl
  · rcases h _ _ _ hStarted hAct with ⟨hStill, hOk, _⟩
    refine ⟨(World.kept_clock v _).toLater.bounded hStill, ?_, nofun⟩
    intro b hb
    cases hb
    exact hOk a rfl

/- Another context that cancels nothing brings no threat. -/
theorem under
    {Q : α → Prop}
    {act : Act α}
    {change : Context → Context}
    (hChange : Context.PassesCancellation change)
    (h : act.Traced C P Q) :
    (Act.under change act).Traced C P Q := by
  intro w r w' hBounded hRun
  rcases (runs_under_iff _ _ _ _ _).mp hRun with ⟨v, hAct, rfl⟩
  rcases hChange w.context with ⟨hCanceled, hCancelOn⟩
  have hInside :
      ({ w with context := change w.context } : World).Bounded C :=
    hBounded.of_context (fun rule hRule => ⟨rule, hRule, rfl⟩)
      hCancelOn (fun _ => hCanceled)
  rcases h _ _ _ hInside hAct with ⟨hStill, hOk, hError⟩
  refine ⟨?_, hOk, hError⟩
  intro f hThreat
  cases hThreat with
  | fault hRule hFault =>
      exact hStill _ (World.Threatens.fault (w := v) hRule hFault)
  | uncounted hRule hFault =>
      exact hStill _ (World.Threatens.uncounted (w := v) hRule hFault)
  | canceled hEnded =>
      rcases hEnded with hNow | hLater
      · exact hStill _ (.canceled (Or.inl hNow))
      · exact hBounded _ (.canceled (Or.inr hLater))
  | deadline => exact hStill _ .deadline

theorem limited
    {Q : α → Prop}
    {act : Act α}
    (h : act.Traced C P Q) :
    (Act.limited act).Traced C P Q := by
  intro w r w' hBounded hRun
  rw [runs_limited_iff] at hRun
  exact under (Context.limited_passesCancellation _) h _ _ _ hBounded hRun

------------------------------------------------------------
-- Single Steps
------------------------------------------------------------

theorem settings :
    Act.settings.Traced C P (fun _ => True) :=
  of_keeps Keeps.settings (by simp)

theorem now :
    Act.now.Traced C P (fun _ => True) :=
  of_keeps Aside.now.keeps (by simp)

theorem newId :
    Act.newId.Traced C P (fun id => id ≠ "") := by
  intro w r w' hBounded hRun
  have hKept := Aside.newId.keeps _ _ _ hRun
  rcases (runs_newId_iff _ _ _).mp hRun with ⟨rfl, _⟩
  refine ⟨hKept.toLater.bounded hBounded, ?_, nofun⟩
  intro id hId
  cases hId
  exact idOfNumber_ne_empty _

theorem note
    (level : Level)
    (message : String) :
    (Act.note level message).Traced C P (fun _ => True) :=
  of_keeps (Aside.note level message).keeps (by simp)

theorem measure
    (change : Metrics → Metrics) :
    (Act.measure change).Traced C P (fun _ => True) :=
  of_keeps (Aside.measure change).keeps (by simp)

/- A request that may not go on fails with what the world threatens with. -/
theorem checkContext :
    Act.checkContext.Traced C C (fun _ => True) := by
  intro w r w' hBounded hRun
  rcases (runs_checkContext_iff _ _ _).mp hRun with ⟨rfl, rfl⟩
  refine ⟨hBounded, fun _ _ => trivial, ?_⟩
  intro f hf
  cases hEnded : w'.context.failure? with
  | none =>
      rw [hEnded] at hf
      cases hf
  | some g =>
      rw [hEnded] at hf
      cases hf
      exact hBounded f (World.threatens_of_failure? hEnded)

end Traced

end Act

end Timetable
