import Timetable.Proofs.Store.Statements

/-
  This file tells what lookups answer in a store whose faults
  may be anything for the statements that write dates, but are
  failures of the store for all others.

  Besides, an action looks if it sends nothing but lookups
  that read.

  Key definitions include:
    * `Failure.IsBare`
    * `Store.dateLabel`
    * `World.Candid`
    * `World.CarriesOut`
    * `World.Looked`
    * `Act.Looks`

  Main theorems include:
    * `Records.runs_fetch_candid`
    * `Records.runs_fetchOne_candid`
    * `Records.exec_fetch`
    * `Records.journal_fetch`
    * `Records.fetch_looks`
-/

namespace Timetable

open Store

------------------------------------------------------------
-- Failures of the Store
------------------------------------------------------------

/-
  A failure that comes from below the service: it holds no
  problem that a client is told, and is not the lack of a row.
-/
structure Failure.IsBare (f : Failure) : Prop where
  rows : f.hasSentinel .noRows = false
  codes : ∀ code, f.hasCode code = false

theorem Failure.IsBare.during
    {f : Failure}
    (h : f.IsBare)
    (label : String) :
    (Failure.during label f).IsBare :=
  ⟨h.rows, h.codes⟩

/- The end of a request is such a failure. -/
theorem Context.failure?_isBare
    {c : Context}
    {f : Failure}
    (hFailure : c.failure? = some f) :
    f.IsBare := by
  rcases Context.failure?_cases hFailure with rfl | rfl
  · exact ⟨rfl, fun _ => rfl⟩
  · exact ⟨rfl, fun _ => rfl⟩

/- The label of the statements that write dates. -/
def Store.dateLabel : String :=
  "item_update_date"

theorem Store.Lookup.label_ne_dateLabel
    (l : Lookup) :
    l.label ≠ dateLabel := by
  cases l <;> simp [Lookup.label, dateLabel]

/- All but the statements that write dates fail with failures of the store. -/
def World.Candid (w : World) : Prop :=
  ∀ rule ∈ w.database.rules, rule.label = dateLabel ∨
    ∃ f, rule.fault = .fails f ∧ f.IsBare

theorem World.Calm.candid
    {w : World}
    (h : w.Calm) :
    w.Candid := by
  intro rule hRule
  rw [h.rules] at hRule
  cases hRule

theorem World.Later.candid
    {w w' : World}
    (h : w.Later w')
    (hCandid : w.Candid) :
    w'.Candid := by
  intro rule hRule
  rcases h.rules rule hRule with ⟨old, hOld, hLabel, hFault⟩
  rw [hLabel, hFault]
  exact hCandid old hOld

/- A world lets a lookup be carried out: the request goes on, and no fault awaits it. -/
structure World.CarriesOut
    (w : World)
    (l : Lookup) : Prop where
  going : w.context.failure? = none
  faultless : (w.database.submit (.lookup l)).1 = none

------------------------------------------------------------
-- Answers of Lookups
------------------------------------------------------------

namespace Records

open Act

/- A lookup fails, or is answered from the tables. -/
theorem runs_fetch_candid
    {l : Lookup}
    {w w' : World}
    {r : Except Failure (List l.Row)}
    (hCandid : w.Candid)
    (hRun : (fetch l).Runs w r w') :
    (∃ f, r = .error f ∧ f.IsBare ∧ ¬ w.Calm) ∨
      r = .ok (l.rows (l.after w.tables)) := by
  have hFaults :
      ∀ rule ∈ w.database.rules,
        rule.label = (Statement.lookup l).label →
          ∃ f, rule.fault = .fails f ∧ f.IsBare := by
    intro rule hRule hSame
    rcases hCandid rule hRule with hDate | hFails
    · exact absurd (hSame.symm.trans hDate) l.label_ne_dateLabel
    · exact hFails
  rcases runs_send_shown (fun _ => Context.failure?_isBare) hFaults
      hRun with
    ⟨f, hError, hBare, hRestless, _⟩ | ⟨hOk, _⟩
  · exact Or.inl ⟨f, hError, hBare, hRestless⟩
  · exact Or.inr hOk

/- The first row of a lookup is answered, if there is one. -/
theorem runs_fetchOne_candid
    {l : Lookup}
    {w w' : World}
    {r : Except Failure l.Row}
    (hCandid : w.Candid)
    (hRun : (fetchOne l).Runs w r w') :
    (∃ f, r = .error f ∧ f.IsBare ∧ ¬ w.Calm) ∨
      r =
        match l.rows (l.after w.tables) with
        | row :: _ => .ok row
        | [] => .error (.sentinel .noRows) := by
  unfold fetchOne at hRun
  rcases (runs_bind_iff _ _ _ _ _).mp hRun with
    ⟨f, hFetch, rfl⟩ | ⟨rows, w₁, hFetch, hRest⟩
  · rcases runs_fetch_candid hCandid hFetch with
      ⟨_, hError, hBare, hRestless⟩ | hOk
    · cases hError
      exact Or.inl ⟨f, rfl, hBare, hRestless⟩
    · cases hOk
  · rcases runs_fetch_candid hCandid hFetch with
      ⟨_, hError, _⟩ | hOk
    · cases hError
    · cases hOk
      refine Or.inr ?_
      cases hRows : l.rows (l.after w.tables) with
      | nil =>
          rw [hRows] at hRest
          exact ((runs_throw_iff _ _ _ _).mp hRest).1
      | cons row rest =>
          rw [hRows] at hRest
          exact ((runs_pure_iff _ _ _ _).mp hRest).1

/- A lookup that is carried out is answered from the tables, and noted. -/
theorem exec_fetch
    {l : Lookup}
    {w : World}
    (h : w.CarriesOut l) :
    (fetch l).exec w =
      (.ok (l.rows (l.after w.tables)),
        World.sent (.lookup l)
          { w with
            database :=
              { (w.database.submit (.lookup l)).2 with
                tables := l.after w.tables } }) := by
  unfold fetch
  rw [exec_send, h.going]
  simp only [h.faultless]
  rfl

/- Its first row is the answer where there has to be one. -/
theorem outcome_fetchOne
    {l : Lookup}
    {w : World}
    (h : w.CarriesOut l) :
    (fetchOne l).outcome w =
      match l.rows (l.after w.tables) with
      | row :: _ => .ok row
      | [] => .error (.sentinel .noRows) := by
  unfold fetchOne Act.outcome
  rw [exec_bind, exec_fetch h]
  simp only
  cases l.rows (l.after w.tables) with
  | nil => rfl
  | cons row rest => rfl

end Records

------------------------------------------------------------
-- Actions that Only Look
------------------------------------------------------------

/- Between two worlds nothing but reading lookups was sent to the store. -/
def World.Looked (w w' : World) : Prop :=
  ∃ lookups : List Lookup,
    (∀ l ∈ lookups, ∀ t, l.after t = t) ∧
    w'.database.journal =
      w.database.journal ++ lookups.map .lookup

theorem World.looked_of_journal
    {w w' : World}
    (h : w'.database.journal = w.database.journal) :
    w.Looked w' :=
  ⟨[], by simp, by simp [h]⟩

theorem World.Looked.trans
    {w₁ w₂ w₃ : World}
    (h₁ : w₁.Looked w₂)
    (h₂ : w₂.Looked w₃) :
    w₁.Looked w₃ := by
  rcases h₁ with ⟨first, hFirst, hThere⟩
  rcases h₂ with ⟨second, hSecond, hEnd⟩
  refine ⟨first ++ second, ?_, by simp [hEnd, hThere]⟩
  intro l hl
  rcases List.mem_append.mp hl with hl | hl
  · exact hFirst l hl
  · exact hSecond l hl

namespace Act

variable {α β : Type}

/- An action sends nothing but reading lookups to the store. -/
def Looks (act : Act α) : Prop :=
  ∀ w r w', act.Runs w r w' → w.Looked w'

namespace Looks

theorem of_aside
    {act : Act α}
    (h : act.Aside) :
    act.Looks := by
  intro w r w' hRun
  have hDatabase := h.after_database w
  rw [hRun.after_eq] at hDatabase
  exact World.looked_of_journal (by rw [hDatabase])

theorem bind
    {x : Act α}
    {k : α → Act β}
    (hx : x.Looks)
    (hk : ∀ a, (k a).Looks) :
    (x >>= k).Looks := by
  intro w r w' hRun
  rcases (runs_bind_iff _ _ _ _ _).mp hRun with
    ⟨f, hFirst, _⟩ | ⟨a, w₁, hFirst, hSecond⟩
  · exact hx _ _ _ hFirst
  · exact (hx _ _ _ hFirst).trans (hk a _ _ _ hSecond)

theorem attempt
    {act : Act α}
    (h : act.Looks) :
    (Act.attempt act).Looks := by
  intro w r w' hRun
  rcases (runs_attempt_iff _ _ _ _).mp hRun with ⟨o, hAct, _⟩
  exact h _ _ _ hAct

theorem restating
    (restate : Failure → Failure)
    {act : Act α}
    (h : act.Looks) :
    (Act.restating restate act).Looks := by
  intro w r w' hRun
  rcases (runs_restating_iff _ _ _ _ _).mp hRun with ⟨o, hAct, _⟩
  exact h _ _ _ hAct

end Looks

end Act

namespace Records

open Act

/- A lookup is sent, whatever becomes of it, unless the request has ended. -/
theorem journal_fetch
    {l : Lookup}
    {w w' : World}
    {o : Except Failure (List l.Row)}
    (hGoing : w.context.failure? = none)
    (hRun : (fetch l).Runs w o w') :
    w'.database.journal = w.database.journal ++ [.lookup l] := by
  unfold Runs fetch at hRun
  rw [exec_send, hGoing] at hRun
  simp only at hRun
  rcases hFault : (w.database.submit (.lookup l)).1 with
    _ | (f | _ | text)
  all_goals
    rw [hFault] at hRun
    cases hRun
    rw [World.sent_database]
    rfl

theorem fetch_looks
    (l : Lookup)
    (hReads : ∀ t, l.after t = t) :
    (fetch l).Looks := by
  intro w r w' hRun
  unfold Runs fetch at hRun
  rw [exec_send] at hRun
  split at hRun
  · cases hRun
    exact World.looked_of_journal rfl
  · simp only at hRun
    rcases hFault : (w.database.submit (.lookup l)).1 with
      _ | (f | _ | text)
    all_goals
      rw [hFault] at hRun
      cases hRun
      refine ⟨[l], by simpa using hReads, ?_⟩
      rw [World.sent_database]
      rfl

theorem fetchOne_looks
    (l : Lookup)
    (hReads : ∀ t, l.after t = t) :
    (fetchOne l).Looks := by
  unfold fetchOne
  apply (fetch_looks l hReads).bind
  intro rows
  cases rows with
  | nil => exact Looks.of_aside (Aside.throw _)
  | cons row rest => exact Looks.of_aside (Aside.pure row)

end Records

end Timetable
