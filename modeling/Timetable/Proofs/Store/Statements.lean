import Timetable.Proofs.Action.Aside
import Timetable.Records.Transaction

/-
  This file tells what becomes of statements that are sent to
  the store, alone, in transactions and behind savepoints.

  A store is overt if its faults show: a statement that goes
  wrong fails, and the failure is one of the store itself.  A
  world is calm if nothing goes wrong in it at all.  In an
  overt world a statement either is refused and changes
  nothing, or does what it is meant to do; in a calm world it
  is never refused.

  Key definitions include:
    * `World.Overt`
    * `World.Calm`
    * `World.Wrote`
    * `World.Refused`
    * `Act.Advances`

  Main theorems include:
    * `Records.runs_send`
    * `Records.runs_perform`
    * `Records.runs_fetch`
    * `Records.runs_behindSavepoint`
-/

namespace Timetable

open Store

------------------------------------------------------------
-- Faults
------------------------------------------------------------

namespace Store

/-
  A fault shows.  Failures of the store are told apart as
  transient only by the records, so that none comes with
  this mark.
-/
def Fault.IsOvert : Fault → Prop
| .fails f => f.hasSentinel .transient = false
| .ignored => False
| .uncounted _ => False

instance : (fault : Fault) → Decidable fault.IsOvert
| .fails f => inferInstanceAs (Decidable (f.hasSentinel .transient = false))
| .ignored => .isFalse id
| .uncounted _ => .isFalse id

/- The fault that meets a statement is that of a rule for it. -/
theorem exists_rule_of_strike
    (label : String)
    (rules : List FaultRule)
    (fault : Fault)
    (hStrike : (strike label rules).1 = some fault) :
    ∃ rule ∈ rules, rule.label = label ∧ rule.fault = fault := by
  induction rules with
  | nil => cases hStrike
  | cons rule rest ih =>
      unfold strike at hStrike
      split at hStrike
      · rename_i hMeant
        split at hStrike
        · simp only [Bool.and_eq_true, beq_iff_eq] at hMeant
          exact ⟨rule, by simp, hMeant.1, Option.some.inj hStrike⟩
        · rcases ih hStrike with ⟨other, hOther, hFault⟩
          exact ⟨other, by simp [hOther], hFault⟩
      · rcases ih hStrike with ⟨other, hOther, hFault⟩
        exact ⟨other, by simp [hOther], hFault⟩

/- The rules that remain have labels and faults that were there before. -/
theorem exists_rule_of_mem_strike
    (label : String)
    (rules : List FaultRule)
    (rule : FaultRule)
    (hRule : rule ∈ (strike label rules).2) :
    ∃ old ∈ rules,
      rule.label = old.label ∧ rule.fault = old.fault := by
  induction rules with
  | nil => cases hRule
  | cons first rest ih =>
      have hCases :
          (rule.label = first.label ∧ rule.fault = first.fault) ∨
            rule ∈ rest ∨ rule ∈ (strike label rest).2 := by
        unfold strike at hRule
        split at hRule
        · split at hRule
          · rcases List.mem_cons.mp hRule with rfl | hRest
            · exact Or.inl ⟨rfl, rfl⟩
            · exact Or.inr (Or.inl hRest)
          · rcases List.mem_cons.mp hRule with rfl | hRest
            · exact Or.inl ⟨rfl, rfl⟩
            · exact Or.inr (Or.inr hRest)
        · rcases List.mem_cons.mp hRule with rfl | hRest
          · exact Or.inl ⟨rfl, rfl⟩
          · exact Or.inr (Or.inr hRest)
      rcases hCases with hFirst | hRest | hStruck
      · exact ⟨first, by simp, hFirst⟩
      · exact ⟨rule, by simp [hRest], rfl, rfl⟩
      · rcases ih hStruck with ⟨old, hOld, hFault⟩
        exact ⟨old, by simp [hOld], hFault⟩

namespace Database

/- Noting a statement changes no table. -/
@[simp] theorem submit_tables
    (s : Statement)
    (db : Database) :
    (db.submit s).2.tables = db.tables :=
  rfl

@[simp] theorem submit_origin
    (s : Statement)
    (db : Database) :
    (db.submit s).2.origin = db.origin :=
  rfl

@[simp] theorem submit_savepoints
    (s : Statement)
    (db : Database) :
    (db.submit s).2.savepoints = db.savepoints :=
  rfl

end Database

end Store

------------------------------------------------------------
-- Overt and Calm Worlds
------------------------------------------------------------

/- A request ends because it was canceled, or because its time is over. -/
theorem Context.failure?_cases
    {c : Context}
    {f : Failure}
    (hFailure : c.failure? = some f) :
    f = .sentinel .canceled ∨ f = .sentinel .deadline := by
  unfold Context.failure? at hFailure
  split at hFailure
  · exact Or.inl (Option.some.inj hFailure).symm
  · split at hFailure
    · exact Or.inr (Option.some.inj hFailure).symm
    · cases hFailure

namespace World

/- The tables of the store. -/
abbrev tables (w : World) : Tables :=
  w.database.tables

/- All faults show. -/
def Overt (w : World) : Prop :=
  ∀ rule ∈ w.database.rules, rule.fault.IsOvert

instance (w : World) : Decidable w.Overt :=
  inferInstanceAs
    (Decidable (∀ rule ∈ w.database.rules, rule.fault.IsOvert))

/- Nothing goes wrong: no statement fails, and no request ends early. -/
structure Calm (w : World) : Prop where
  rules : w.database.rules = []
  canceled : w.context.canceled = false
  expired : w.context.expired = false
  cancelOn : w.context.cancelOn = none
  unhurried :
    ¬ (0 < w.settings.requestTimeout ∧
      w.settings.requestTimeout ≤ clockTick)

theorem Calm.overt
    {w : World}
    (h : w.Calm) :
    w.Overt := by
  intro rule hRule
  rw [h.rules] at hRule
  cases hRule

/- In a calm world a request may go on. -/
theorem Calm.failure?_eq_none
    {w : World}
    (h : w.Calm) :
    w.context.failure? = none := by
  simp [Context.failure?, h.canceled, h.expired]

theorem Later.overt
    {w w' : World}
    (h : w.Later w')
    (hOvert : w.Overt) :
    w'.Overt := by
  intro rule hRule
  rcases h.rules rule hRule with ⟨old, hOld, _, hFault⟩
  rw [hFault]
  exact hOvert old hOld

/- No faults come up where there were none. -/
theorem Later.rules_nil
    {w w' : World}
    (h : w.Later w')
    (hNone : w.database.rules = []) :
    w'.database.rules = [] := by
  apply List.eq_nil_iff_forall_not_mem.mpr
  intro rule hRule
  rcases h.rules rule hRule with ⟨old, hOld, _⟩
  rw [hNone] at hOld
  cases hOld

theorem Later.calm
    {w w' : World}
    (h : w.Later w')
    (hCalm : w.Calm) :
    w'.Calm where
  rules := h.rules_nil hCalm.rules
  canceled := (h.canceled hCalm.cancelOn).trans hCalm.canceled
  expired := h.expired.trans hCalm.expired
  cancelOn := h.cancelOn.trans hCalm.cancelOn
  unhurried := by
    rw [h.settings]
    exact hCalm.unhurried

/- Calm does not end with the time limit of requests. -/
theorem Calm.limited
    {w : World}
    (h : w.Calm)
    (detached : Bool) :
    ({ w with
      context :=
        Context.limited w.settings.requestTimeout
          { w.context with detached := detached } } :
      World).Calm where
  rules := h.rules
  canceled := h.canceled
  expired := by
    have hUnhurried := h.unhurried
    simp only [Context.limited, h.expired, Bool.false_or,
      ← Bool.decide_and, decide_eq_false_iff_not]
    exact hUnhurried
  cancelOn := h.cancelOn
  unhurried := h.unhurried

/- The open transaction goes on, and the tables are known. -/
structure Wrote
    (w : World)
    (t : Tables)
    (w' : World) : Prop extends w.Held w' where
  tables : w'.tables = t

theorem Kept.wrote
    {w w' : World}
    (h : w.Kept w') :
    w.Wrote w.tables w' :=
  { h with }

theorem Wrote.trans
    {w₁ w₂ w₃ : World}
    {t₂ t₃ : Tables}
    (h₁ : w₁.Wrote t₂ w₂)
    (h₂ : w₂.Wrote t₃ w₃) :
    w₁.Wrote t₃ w₃ where
  toHeld := h₁.toHeld.trans h₂.toHeld
  tables := h₂.tables

/-
  A statement was refused: nothing was written, and all was
  not calm.  Where there are no faults the request has ended.
-/
structure Refused
    (w : World)
    (f : Failure)
    (w' : World) : Prop where
  kept : w.Kept w'
  restless : ¬ w.Calm
  plain : f.hasSentinel .transient = false
  ended :
    w.database.rules = [] →
      f = .sentinel .canceled ∨ f = .sentinel .deadline

end World

------------------------------------------------------------
-- Steps of a Transaction
------------------------------------------------------------

namespace Act

variable {α β : Type}

/-
  A step of a transaction: it finishes as `done` tells, or is
  stopped when not all is calm; the transaction then goes on.
-/
def Advances
    (act : Act α)
    (w : World)
    (done : α → World → Prop) : Prop :=
  ∀ r w', act.Runs w r w' →
    (∃ f, r = .error f ∧ ¬ w.Calm ∧ w.Held w') ∨
      ∃ a, r = .ok a ∧ done a w'

namespace Advances

theorem mono
    {act : Act α}
    {w : World}
    {P Q : α → World → Prop}
    (h : act.Advances w P)
    (hImp : ∀ a v, P a v → Q a v) :
    act.Advances w Q := by
  intro r w' hRun
  rcases h r w' hRun with hStopped | ⟨a, hOk, hDone⟩
  · exact Or.inl hStopped
  · exact Or.inr ⟨a, hOk, hImp a w' hDone⟩

/- Steps in sequence. -/
theorem bind
    {x : Act α}
    {k : α → Act β}
    {w : World}
    {P : α → World → Prop}
    {Q : β → World → Prop}
    (hx : x.Advances w P)
    (hHeld : ∀ a v, P a v → w.Held v)
    (hk : ∀ a v, P a v → (k a).Advances v Q) :
    (x >>= k).Advances w Q := by
  intro r w' hRun
  rcases (runs_bind_iff _ _ _ _ _).mp hRun with
    ⟨f, hFirst, rfl⟩ | ⟨a, w₁, hFirst, hSecond⟩
  · rcases hx _ _ hFirst with ⟨_, _, hStopped⟩ | ⟨_, h, _⟩
    · exact Or.inl ⟨f, rfl, hStopped⟩
    · cases h
  · rcases hx _ _ hFirst with ⟨_, h, _⟩ | ⟨_, h, hDone⟩
    · cases h
    · cases h
      have hThere := hHeld a w₁ hDone
      rcases hk a w₁ hDone r w' hSecond with
        ⟨f, rfl, hRestless, hRest⟩ | hFinished
      · exact Or.inl ⟨f, rfl,
          fun hCalm => hRestless (hThere.calm hCalm),
          hThere.trans hRest⟩
      · exact Or.inr hFinished

theorem restating
    (restate : Failure → Failure)
    {act : Act α}
    {w : World}
    {P : α → World → Prop}
    (h : act.Advances w P) :
    (Act.restating restate act).Advances w P := by
  intro r w' hRun
  rcases (runs_restating_iff _ _ _ _ _).mp hRun with
    ⟨o, hAct, rfl⟩
  rcases h o w' hAct with ⟨f, rfl, hStopped⟩ | ⟨a, rfl, hDone⟩
  · exact Or.inl ⟨_, rfl, hStopped⟩
  · exact Or.inr ⟨a, rfl, hDone⟩

theorem discard
    {act : Act α}
    {w : World}
    {P : World → Prop}
    (h : act.Advances w (fun _ => P)) :
    (Functor.discard act).Advances w (fun _ => P) := by
  intro r w' hRun
  rcases (runs_discard_iff _ _ _ _).mp hRun with
    ⟨o, hAct, rfl⟩
  rcases h o w' hAct with ⟨f, rfl, hStopped⟩ | ⟨a, rfl, hDone⟩
  · exact Or.inl ⟨_, rfl, hStopped⟩
  · exact Or.inr ⟨_, rfl, hDone⟩

end Advances

end Act

------------------------------------------------------------
-- Sending Statements
------------------------------------------------------------

/- The world after a statement was sent, which may cancel the request. -/
def World.sent
    (s : Statement)
    (w : World) : World :=
  { w with context := w.context.sent s.label }

@[simp] theorem World.sent_database
    (s : Statement)
    (w : World) :
    (w.sent s).database = w.database :=
  rfl

theorem World.sent_alike
    (s : Statement)
    (w : World) :
    w.Alike (w.sent s) := by
  have hTaking :
      (w.context.sent s.label).taking w.context = w.context := by
    unfold Context.sent
    split
    · split <;> rfl
    · rfl
  refine ⟨rfl, Nat.le_refl _, hTaking, ?_, rfl⟩
  intro hNone
  simp [World.sent, Context.sent, hNone]

namespace Records

open Act

variable {α : Type}

/- What becomes of a statement. -/
theorem exec_send
    (s : Statement)
    (idle : Option Failure → α)
    (effect : Database → α × Database)
    (w : World) :
    (send s idle effect).exec w =
      match w.context.failure? with
      | some f => (.error f, w)
      | none =>
          let db := (w.database.submit s).2
          match (w.database.submit s).1 with
          | none =>
              (.ok (effect db).1,
                World.sent s { w with database := (effect db).2 })
          | some (.fails f) =>
              (.error f, World.sent s { w with database := db })
          | some .ignored =>
              (.ok (idle none), World.sent s { w with database := db })
          | some (.uncounted text) =>
              (.ok (idle (some (.plain text))),
                World.sent s { w with database := db }) := by
  unfold send
  rw [exec_bind, exec_checkContext]
  cases w.context.failure? with
  | some f => rfl
  | none =>
      simp only
      rw [exec_get_bind]
      rcases w.database.submit s with ⟨fault, db⟩
      rcases fault with _ | (f | _ | text) <;> rfl

/- Statements use up faults, whatever they do besides. -/
theorem later_sent
    (s : Statement)
    (w : World)
    (change : Database → Database)
    (hRules : ∀ db, (change db).rules = db.rules) :
    w.Later
      (World.sent s
        { w with database := change (w.database.submit s).2 }) where
  toAlike := by
    have hAlike :
        w.Alike
          { w with
            database := change (w.database.submit s).2 } :=
      ⟨rfl, Nat.le_refl _, rfl, fun _ => rfl, rfl⟩
    exact hAlike.trans (World.sent_alike s _)
  rules := by
    intro rule hRule
    rw [World.sent_database, hRules] at hRule
    exact exists_rule_of_mem_strike s.label _ rule hRule

/- A statement that meets a fault leaves the tables alone. -/
theorem kept_sent
    (s : Statement)
    (w : World) :
    w.Kept
      (World.sent s
        { w with database := (w.database.submit s).2 }) where
  toLater := later_sent s w id (fun _ => rfl)
  origin := by rw [World.sent_database]; rfl
  tables := by rw [World.sent_database]; rfl
  savepoints := by rw [World.sent_database]; rfl

/- What a statement writes when it has its effect. -/
theorem wrote_sent
    (s : Statement)
    (w : World)
    (change : Tables → Tables) :
    w.Wrote (change w.tables)
      (World.sent s
        { w with
          database := (w.database.submit s).2.update change }) where
  toLater :=
    later_sent s w (fun db => db.update change) (fun _ => rfl)
  origin := by rw [World.sent_database]; rfl
  tables := by unfold World.tables; rw [World.sent_database]; rfl

/-
  Where the faults that can meet a statement show, it is
  refused, or has its effect on the store in which it was
  noted.  `P` holds of the failures that it is refused with.
-/
theorem runs_send_shown
    {P : Failure → Prop}
    {s : Statement}
    {idle : Option Failure → α}
    {effect : Database → α × Database}
    {w w' : World}
    {r : Except Failure α}
    (hEnded : ∀ f, w.context.failure? = some f → P f)
    (hFaults :
      ∀ rule ∈ w.database.rules, rule.label = s.label →
        ∃ f, rule.fault = .fails f ∧ P f)
    (hRun : (send s idle effect).Runs w r w') :
    (∃ f, r = .error f ∧ P f ∧ ¬ w.Calm ∧ w.Kept w') ∨
      (r = .ok (effect (w.database.submit s).2).1 ∧
        w' = World.sent s
          { w with
            database := (effect (w.database.submit s).2).2 }) := by
  unfold Runs at hRun
  rw [exec_send] at hRun
  split at hRun
  · rename_i f hFailure
    cases hRun
    refine Or.inl ⟨f, rfl, hEnded f hFailure, ?_, World.Kept.refl w⟩
    intro hCalm
    rw [hCalm.failure?_eq_none] at hFailure
    cases hFailure
  · simp only at hRun
    rcases hFault : (w.database.submit s).1 with _ | fault
    · rw [hFault] at hRun
      cases hRun
      exact Or.inr ⟨rfl, rfl⟩
    · rw [hFault] at hRun
      rcases exists_rule_of_strike s.label _ fault hFault with
        ⟨rule, hRule, hLabel, hSame⟩
      rcases hFaults rule hRule hLabel with ⟨f, hFails, hP⟩
      rw [hSame] at hFails
      subst hFails
      cases hRun
      refine Or.inl ⟨f, rfl, hP, ?_, kept_sent s w⟩
      intro hCalm
      rw [hCalm.rules] at hRule
      cases hRule

/- In an overt world a statement is refused, or has its effect. -/
theorem runs_send
    {s : Statement}
    {idle : Option Failure → α}
    {effect : Database → α × Database}
    {w w' : World}
    {r : Except Failure α}
    (hOvert : w.Overt)
    (hRun : (send s idle effect).Runs w r w') :
    (∃ f, r = .error f ∧ w.Refused f w') ∨
      (r = .ok (effect (w.database.submit s).2).1 ∧
        w' = World.sent s
          { w with
            database := (effect (w.database.submit s).2).2 }) := by
  let P : Failure → Prop := fun f =>
    f.hasSentinel .transient = false ∧
      (w.database.rules = [] →
        f = .sentinel .canceled ∨ f = .sentinel .deadline)
  have hEnded : ∀ f, w.context.failure? = some f → P f := by
    intro f hFailure
    have hCases := Context.failure?_cases hFailure
    refine ⟨?_, fun _ => hCases⟩
    rcases hCases with rfl | rfl <;> rfl
  have hFaults :
      ∀ rule ∈ w.database.rules, rule.label = s.label →
        ∃ f, rule.fault = .fails f ∧ P f := by
    intro rule hRule _
    have hIsOvert := hOvert rule hRule
    cases hFault : rule.fault with
    | fails f =>
        rw [hFault] at hIsOvert
        refine ⟨f, rfl, hIsOvert, ?_⟩
        intro hNone
        rw [hNone] at hRule
        cases hRule
    | ignored =>
        rw [hFault] at hIsOvert
        exact hIsOvert.elim
    | uncounted text =>
        rw [hFault] at hIsOvert
        exact hIsOvert.elim
  rcases runs_send_shown hEnded hFaults hRun with
    ⟨f, hError, ⟨hPlain, hEnd⟩, hRestless, hKept⟩ | hDone
  · exact Or.inl ⟨f, hError, hKept, hRestless, hPlain, hEnd⟩
  · exact Or.inr hDone

/- A change is refused or made. -/
theorem runs_perform
    {c : Change}
    {w w' : World}
    {r : Except Failure (Except Failure Nat)}
    (hOvert : w.Overt)
    (hRun : (perform c).Runs w r w') :
    (∃ f, r = .error f ∧ w.Refused f w') ∨
      (r = .ok (.ok (c.touched w.tables)) ∧
        w.Wrote (c.run w.tables) w') := by
  rcases runs_send hOvert hRun with hRefused | ⟨rfl, rfl⟩
  · exact Or.inl hRefused
  · exact Or.inr ⟨rfl, wrote_sent _ w c.run⟩

/- A lookup is refused or answered. -/
theorem runs_fetch
    {l : Lookup}
    {w w' : World}
    {r : Except Failure (List l.Row)}
    (hOvert : w.Overt)
    (hRun : (fetch l).Runs w r w') :
    (∃ f, r = .error f ∧ w.Refused f w') ∨
      (r = .ok (l.rows (l.after w.tables)) ∧
        w.Wrote (l.after w.tables) w') := by
  rcases runs_send hOvert hRun with hRefused | ⟨rfl, rfl⟩
  · exact Or.inl hRefused
  · exact Or.inr ⟨rfl, wrote_sent _ w l.after⟩

/- The first row of a lookup is looked for among all of them. -/
theorem runs_fetchOne
    {l : Lookup}
    {w w' : World}
    {r : Except Failure l.Row}
    (hOvert : w.Overt)
    (hRun : (fetchOne l).Runs w r w') :
    (∃ f, r = .error f ∧ w.Refused f w') ∨
      (w.Wrote (l.after w.tables) w' ∧
        r =
          match l.rows (l.after w.tables) with
          | row :: _ => .ok row
          | [] => .error (.sentinel .noRows)) := by
  unfold fetchOne at hRun
  rcases (runs_bind_iff _ _ _ _ _).mp hRun with
    ⟨f, hFetch, rfl⟩ | ⟨rows, w₁, hFetch, hRest⟩
  · rcases runs_fetch hOvert hFetch with
      ⟨g, hError, hRefused⟩ | ⟨hOk, _⟩
    · cases hError
      exact Or.inl ⟨f, rfl, hRefused⟩
    · cases hOk
  · rcases runs_fetch hOvert hFetch with
      ⟨g, hError, _⟩ | ⟨hOk, hWrote⟩
    · cases hError
    · cases hOk
      refine Or.inr ?_
      cases hRows : l.rows (l.after w.tables) with
      | nil =>
          rw [hRows] at hRest
          rcases (runs_throw_iff _ _ _ _).mp hRest with ⟨rfl, rfl⟩
          exact ⟨hWrote, rfl⟩
      | cons row rest =>
          rw [hRows] at hRest
          rcases (runs_pure_iff _ _ _ _).mp hRest with ⟨rfl, rfl⟩
          exact ⟨hWrote, rfl⟩

------------------------------------------------------------
-- Reading
------------------------------------------------------------

/-
  Lookups that only read write nothing, whatever faults there
  are.
-/
theorem fetch_keeps
    (l : Lookup)
    (hReads : ∀ t, l.after t = t) :
    (fetch l).Keeps := by
  intro w r w' hRun
  unfold Runs fetch at hRun
  rw [exec_send] at hRun
  split at hRun
  · cases hRun
    exact World.Kept.refl w
  · simp only at hRun
    rcases hFault : (w.database.submit (.lookup l)).1 with
      _ | (f | _ | text)
    · rw [hFault] at hRun
      cases hRun
      have hEffect :
          { (w.database.submit (.lookup l)).2 with
            tables := (l.run (w.database.submit (.lookup l)).2.tables).2 } =
            (w.database.submit (.lookup l)).2 := by
        rw [show (l.run (w.database.submit (.lookup l)).2.tables).2 =
          (w.database.submit (.lookup l)).2.tables from hReads _]
      rw [hEffect]
      exact kept_sent _ w
    all_goals
      rw [hFault] at hRun
      cases hRun
      exact kept_sent _ w

theorem fetchOne_keeps
    (l : Lookup)
    (hReads : ∀ t, l.after t = t) :
    (fetchOne l).Keeps := by
  unfold fetchOne
  apply (fetch_keeps l hReads).bind
  intro rows
  cases rows with
  | nil => exact Keeps.throw _
  | cons row rest => exact Keeps.pure row

/- What is found is a row of the table, whatever faults there are. -/
theorem mem_rows_of_fetchOne
    {l : Lookup}
    {row : l.Row}
    {w w' : World}
    (hRun : (fetchOne l).Runs w (.ok row) w') :
    row ∈ l.rows (l.after w.tables) := by
  unfold fetchOne at hRun
  rcases (runs_bind_ok_iff _ _ _ _ _).mp hRun with
    ⟨rows, w₁, hFetch, hFirst⟩
  have hFound : row ∈ rows := by
    cases rows with
    | nil => cases ((runs_throw_iff _ _ _ _).mp hFirst).1
    | cons first rest =>
        cases ((runs_pure_iff _ _ _ _).mp hFirst).1
        exact List.mem_cons_self
  unfold Runs fetch at hFetch
  rw [exec_send] at hFetch
  split at hFetch
  · cases hFetch
  · simp only at hFetch
    rcases hFault : (w.database.submit (.lookup l)).1 with
      _ | (f | _ | text)
    · rw [hFault] at hFetch
      cases hFetch
      exact hFound
    · rw [hFault] at hFetch
      cases hFetch
    -- a lookup that is not carried out finds nothing
    all_goals
      rw [hFault] at hFetch
      cases hFetch
      cases hFound

------------------------------------------------------------
-- Transactions
------------------------------------------------------------

/- A transaction is refused or opened. -/
theorem runs_start
    {w w' : World}
    {r : Except Failure Unit}
    (hOvert : w.Overt)
    (hRun : start.Runs w r w') :
    (∃ f, r = .error f ∧ w.Refused f w') ∨
      (r = .ok () ∧ w.Later w' ∧ w'.tables = w.tables ∧
        w'.database.origin = some w.tables) := by
  rcases runs_send hOvert hRun with hRefused | ⟨rfl, rfl⟩
  · exact Or.inl hRefused
  · refine Or.inr ⟨rfl, ?_, ?_, ?_⟩
    · exact later_sent _ w Database.start (fun _ => rfl)
    · unfold World.tables
      rw [World.sent_database]
      rfl
    · rw [World.sent_database]
      rfl

/- What becomes of the end of a transaction. -/
theorem exec_commit
    (w : World) :
    commit.exec w =
      match w.context.failure? with
      | some f => (.error f, w)
      | none =>
          let db := (w.database.submit .commit).2
          match (w.database.submit .commit).1 with
          | some (.fails f) =>
              (.error f,
                World.sent .commit { w with database := db.undo })
          | _ =>
              (.ok (),
                World.sent .commit { w with database := db.close }) := by
  unfold commit
  rw [exec_bind, exec_checkContext]
  cases w.context.failure? with
  | some f => rfl
  | none =>
      simp only
      rw [exec_get_bind]
      rcases w.database.submit .commit with ⟨fault, db⟩
      rcases fault with _ | (f | _ | text) <;> rfl

/-
  A transaction that is ended keeps its tables, or returns to
  those it started with; if it cannot be ended, it goes on.
-/
theorem runs_commit
    {w w' : World}
    {r : Except Failure Unit}
    (hRun : commit.Runs w r w') :
    (∃ f, r = .error f ∧ ¬ w.Calm ∧
      (w.Held w' ∨
        (w.Later w' ∧ w'.database.origin = none ∧
          w'.tables = w.database.origin.getD w.tables))) ∨
      (r = .ok () ∧ w.Later w' ∧ w'.tables = w.tables) := by
  unfold Runs at hRun
  rw [exec_commit] at hRun
  split at hRun
  · rename_i f hFailure
    cases hRun
    refine Or.inl ⟨f, rfl, ?_, Or.inl (World.Kept.refl w).toHeld⟩
    intro hCalm
    rw [hCalm.failure?_eq_none] at hFailure
    cases hFailure
  · simp only at hRun
    split at hRun
    · rename_i f hFault
      cases hRun
      refine Or.inl ⟨f, rfl, ?_, Or.inr ⟨?_, ?_, ?_⟩⟩
      · intro hCalm
        rcases exists_rule_of_strike _ _ _ hFault with
          ⟨rule, hRule, _⟩
        rw [hCalm.rules] at hRule
        cases hRule
      · exact later_sent _ w Database.undo (fun _ => rfl)
      · rw [World.sent_database]
        rfl
      · unfold World.tables
        rw [World.sent_database]
        rfl
    · cases hRun
      refine Or.inr ⟨rfl, ?_, ?_⟩
      · exact later_sent _ w Database.close (fun _ => rfl)
      · unfold World.tables
        rw [World.sent_database]
        rfl

/- What becomes of an attempt to undo a transaction. -/
theorem exec_rollback
    (w : World) :
    rollback.exec w =
      (.ok (),
        if w.database.isOpen then
          World.sent .rollback
            { w with database := (w.database.submit .rollback).2.undo }
        else w) := by
  unfold rollback
  rw [exec_get_bind]
  split <;> rfl

/- Undoing returns to the tables at the start of the open transaction. -/
theorem runs_rollback
    {w w' : World}
    {r : Except Failure Unit}
    (hRun : rollback.Runs w r w') :
    r = .ok () ∧ w.Later w' ∧
      w'.tables = w.database.origin.getD w.tables := by
  rw [runs_iff_of_exec (exec_rollback w)] at hRun
  rcases hRun with ⟨rfl, rfl⟩
  refine ⟨rfl, ?_, ?_⟩
  · split
    · exact later_sent _ w Database.undo (fun _ => rfl)
    · exact (World.Kept.refl w).toLater
  · split
    · unfold World.tables
      rw [World.sent_database]
      rfl
    · rename_i hOpen
      rcases hOrigin : w.database.origin with _ | t
      · rfl
      · simp [Database.isOpen, hOrigin] at hOpen

/- A transaction is undone when what runs in it fails. -/
theorem runs_inTransaction
    {act : Act α}
    {w w' : World}
    {r : Except Failure α}
    (hRun : (inTransaction act).Runs w r w') :
    (∃ a, r = .ok a ∧ act.Runs w (.ok a) w') ∨
      ∃ f w₁, r = .error f ∧ act.Runs w (.error f) w₁ ∧
        w₁.Later w' ∧
        w'.tables = w₁.database.origin.getD w₁.tables := by
  unfold inTransaction at hRun
  rcases (runs_attempt_bind_iff _ _ _ _ _).mp hRun with
    ⟨o, w₁, hAct, hRest⟩
  cases o with
  | ok a =>
      rcases (runs_pure_iff _ _ _ _).mp hRest with ⟨rfl, rfl⟩
      exact Or.inl ⟨a, rfl, hAct⟩
  | error f =>
      rcases (runs_bind_iff _ _ _ _ _).mp hRest with
        ⟨g, hUndo, rfl⟩ | ⟨_, w₂, hUndo, hThrow⟩
      · cases (runs_rollback hUndo).1
      · rcases (runs_throw_iff _ _ _ _).mp hThrow with
          ⟨rfl, rfl⟩
        rcases runs_rollback hUndo with ⟨_, hLater, hTables⟩
        exact Or.inr ⟨f, w₁, rfl, hAct, hLater, hTables⟩

------------------------------------------------------------
-- Savepoints
------------------------------------------------------------

/- A savepoint is refused or set. -/
theorem runs_mark
    {name : String}
    {w w' : World}
    {r : Except Failure Unit}
    (hOvert : w.Overt)
    (hRun : (mark name).Runs w r w') :
    (∃ f, r = .error f ∧ w.Refused f w') ∨
      (r = .ok () ∧ w.Wrote w.tables w' ∧
        w'.database.savepoints =
          (name, w.tables) :: w.database.savepoints) := by
  rcases runs_send hOvert hRun with hRefused | ⟨rfl, rfl⟩
  · exact Or.inl hRefused
  · refine Or.inr ⟨rfl, ⟨⟨?_, ?_⟩, ?_⟩, ?_⟩
    · exact later_sent _ w (Database.mark name) (fun _ => rfl)
    · rw [World.sent_database]
      rfl
    · unfold World.tables
      rw [World.sent_database]
      rfl
    · rw [World.sent_database]
      rfl

/- Forgetting a savepoint writes nothing. -/
theorem runs_release
    {name : String}
    {w w' : World}
    {r : Except Failure Unit}
    (hOvert : w.Overt)
    (hRun : (release name).Runs w r w') :
    (∃ f, r = .error f ∧ w.Refused f w') ∨
      (r = .ok () ∧ w.Wrote w.tables w') := by
  rcases runs_send hOvert hRun with hRefused | ⟨rfl, rfl⟩
  · exact Or.inl hRefused
  · refine Or.inr ⟨rfl, ⟨?_, ?_⟩, ?_⟩
    · exact later_sent _ w (Database.release name) (fun _ => rfl)
    · rw [World.sent_database]
      rfl
    · unfold World.tables
      rw [World.sent_database]
      rfl

/- Returning to the youngest savepoint restores its tables. -/
theorem runs_returnTo
    {name : String}
    {t : Tables}
    {rest : List (String × Tables)}
    {w w' : World}
    {r : Except Failure Unit}
    (hOvert : w.Overt)
    (hYoungest : w.database.savepoints = (name, t) :: rest)
    (hRun : (returnTo name).Runs w r w') :
    (∃ f, r = .error f ∧ w.Refused f w') ∨
      (r = .ok () ∧ w.Wrote t w') := by
  rcases runs_send hOvert hRun with hRefused | ⟨rfl, rfl⟩
  · exact Or.inl hRefused
  · refine Or.inr ⟨rfl, ⟨?_, ?_⟩, ?_⟩
    · exact later_sent _ w (Database.returnTo name) (fun _ => rfl)
    · rw [World.sent_database]
      rfl
    · unfold World.tables
      rw [World.sent_database]
      simp [Database.returnTo, hYoungest]

/-
  An action that is refused or writes, run behind a savepoint:
  what it wrote stays even if the savepoint cannot be
  forgotten, but then the failure is one of the store.  Where
  there are no faults no failure seems to be transient.
-/
theorem runs_behindSavepoint
    {name : String}
    {act : Act Unit}
    {change : Tables → Tables}
    (hAct :
      ∀ v r v', v.Overt → act.Runs v r v' →
        (∃ f, r = .error f ∧ ¬ v.Calm ∧
          (v.database.rules = [] →
            f.hasSentinel .transient = false) ∧ v.Kept v') ∨
          (r = .ok () ∧ v.Wrote (change v.tables) v'))
    {w w' : World}
    {r : Except Failure Unit}
    (hOvert : w.Overt)
    (hRun : (behindSavepoint .transaction name act).Runs w r w') :
    (r = .ok () ∧ w.Wrote (change w.tables) w') ∨
      ∃ f, r = .error f ∧ ¬ w.Calm ∧
        (w.database.rules = [] →
          f.hasSentinel .transient = false) ∧
        (w.Wrote w.tables w' ∨
          (f.hasSentinel .transient = false ∧
            w.Wrote (change w.tables) w')) := by
  unfold behindSavepoint at hRun
  rcases (runs_restating_bind_iff _ _ _ _ _ _).mp hRun with
    ⟨f, hMark, rfl⟩ | ⟨_, w₁, hMark, hRest⟩
  · rcases runs_mark hOvert hMark with
      ⟨g, hError, hRefused⟩ | ⟨hOk, _⟩
    · cases hError
      exact Or.inr ⟨_, rfl, hRefused.restless,
        fun _ => hRefused.plain, Or.inl hRefused.kept.wrote⟩
    · cases hOk
  rcases runs_mark hOvert hMark with
    ⟨g, hError, _⟩ | ⟨_, hMarked, hSavepoints⟩
  · cases hError
  have hOvert₁ := hMarked.overt hOvert
  rcases (runs_attempt_bind_iff _ _ _ _ _).mp hRest with
    ⟨o, w₂, hRunAct, hRest⟩
  rcases hAct w₁ o w₂ hOvert₁ hRunAct with
    ⟨f, rfl, hRestless, hPlain, hKept⟩ | ⟨rfl, hWrote⟩
  · -- the action was refused: the tables are those at the savepoint
    have hRestless₀ : ¬ w.Calm :=
      fun hCalm => hRestless (hMarked.calm hCalm)
    replace hPlain :=
      fun hNone => hPlain (hMarked.rules_nil hNone)
    have hYoungest := hKept.savepoints.trans hSavepoints
    have hThere := hMarked.trans hKept.wrote
    rcases (runs_attempt_bind_iff _ _ _ _ _).mp hRest with
      ⟨o, w₃, hReturn, hRest⟩
    rcases runs_returnTo (hKept.overt hOvert₁) hYoungest
        hReturn with
      ⟨g, rfl, hRefused⟩ | ⟨rfl, hReturned⟩
    · rcases (runs_throw_iff _ _ _ _).mp hRest with ⟨rfl, rfl⟩
      have hAll := hThere.trans hRefused.kept.wrote
      rw [hKept.wrote.tables, hMarked.tables] at hAll
      refine Or.inr ⟨_, rfl, hRestless₀, ?_, Or.inl hAll⟩
      intro hNone
      simp [Failure.hasSentinel, hPlain hNone, hRefused.plain]
    · rcases (runs_throw_iff _ _ _ _).mp hRest with ⟨rfl, rfl⟩
      exact Or.inr ⟨_, rfl, hRestless₀, hPlain,
        Or.inl (hThere.trans hReturned)⟩
  · have hThere := hMarked.trans hWrote
    rw [hMarked.tables] at hThere
    rcases (runs_restating_iff _ _ _ _ _).mp hRest with
      ⟨o, hRelease, rfl⟩
    rcases runs_release (hThere.overt hOvert) hRelease with
      ⟨g, rfl, hRefused⟩ | ⟨rfl, hReleased⟩
    · have hAll := hThere.trans hRefused.kept.wrote
      rw [hThere.tables] at hAll
      refine Or.inr ⟨_, rfl, ?_, fun _ => hRefused.plain,
        Or.inr ⟨hRefused.plain, hAll⟩⟩
      exact fun hCalm => hRefused.restless (hThere.calm hCalm)
    · have hAll := hThere.trans hReleased
      rw [hThere.tables] at hAll
      exact Or.inl ⟨rfl, hAll⟩

end Records

end Timetable
