import Timetable.Proofs.Store.Secrecy

/-
  This file describes actions that keep a secret.  Such an
  action leaves the rows of the secret alone, and does the
  same in a world in which they are hidden: it has the same
  outcome, and what it leaves behind differs in the hidden
  rows only.

  Whatever statements fail, every table the store can return
  to has to be guarded: those of the open transaction and of
  its savepoints as well.

  Key definitions include:
    * `Database.veiled`
    * `World.veiled`
    * `Secret.Covers`
    * `Secret.Guarded`
    * `Act.DiscreetAt`
    * `Act.Discreet`

  Main theorems include:
    * `Records.discreet_perform`
    * `Records.discreet_fetch`
    * `Records.discreet_inTransaction`
    * `Records.discreet_behindSavepoint`
-/

namespace Timetable

open Store

------------------------------------------------------------
-- Veiled Worlds
------------------------------------------------------------

/- A store as it is seen. -/
def Store.Database.veiled
    (S : Secret)
    (db : Database) : Database :=
  { db with
    tables := S.veil db.tables
    origin := db.origin.map S.veil
    savepoints := db.savepoints.map (fun p => (p.1, S.veil p.2)) }

/- A world as it is seen. -/
def World.veiled
    (S : Secret)
    (w : World) : World :=
  { w with database := w.database.veiled S }

namespace Secret

variable (S : Secret)

/- All tables that a store can return to are guarded. -/
structure Covers (db : Database) : Prop where
  tables : S.Guards db.tables
  origin : ∀ t, db.origin = some t → S.Guards t
  savepoints : ∀ p ∈ db.savepoints, S.Guards p.2

/-
  The store is covered, new ids are none of the secret ones,
  and new jobs are not recorded for the owner.
-/
structure Guarded (w : World) : Prop where
  store : S.Covers w.database
  fresh :
    ∀ n, w.issued < n →
      Act.idOfNumber n ∉ S.planIds ∧ Act.idOfNumber n ∉ S.itemIds
  jobs :
    ∃ created, w.jobs = S.jobs ++ created ∧
      ∀ job ∈ created, job.ownerId ≠ S.owner

variable {S}

/- Without an open transaction there is nothing to return to. -/
theorem covers_of_closed
    {db : Database}
    (hTables : S.Guards db.tables)
    (hOrigin : db.origin = none)
    (hSavepoints : db.savepoints = []) :
    S.Covers db where
  tables := hTables
  origin := by simp [hOrigin]
  savepoints := by simp [hSavepoints]

/- A change of the tables is covered if it is not seen. -/
theorem Covers.update
    {db : Database}
    {change : Tables → Tables}
    (h : S.Covers db)
    (hUnseen : S.Unseen change) :
    S.Covers (db.update change) where
  tables := hUnseen.guards _ h.tables
  origin := h.origin
  savepoints := h.savepoints

/- Guards look at the store, the ids and the jobs only. -/
theorem Guarded.of_store
    {w w' : World}
    (h : S.Guarded w)
    (hStore : S.Covers w'.database)
    (hIssued : w.issued ≤ w'.issued)
    (hJobs : w'.jobs = w.jobs) :
    S.Guarded w' where
  store := hStore
  fresh := fun n hn => h.fresh n (Nat.lt_of_le_of_lt hIssued hn)
  jobs := by
    rw [hJobs]
    exact h.jobs

end Secret

------------------------------------------------------------
-- Discreet Actions
------------------------------------------------------------

namespace Act

variable {α β : Type}

/-
  In a guarded world, an action leaves the secret alone and
  does not look at it; its answers have a property.
-/
def DiscreetAt
    (S : Secret)
    (act : Act α)
    (post : α → Prop)
    (w : World) : Prop :=
  S.Guarded w → ∀ r w', act.Runs w r w' →
    S.Guarded w' ∧ act.Runs (w.veiled S) r (w'.veiled S) ∧
      ∀ a, r = .ok a → post a

/- An action keeps a secret in every world. -/
def Discreet
    (S : Secret)
    (act : Act α)
    (post : α → Prop) : Prop :=
  ∀ w, act.DiscreetAt S post w

variable {S : Secret}

theorem DiscreetAt.bind
    {x : Act α}
    {k : α → Act β}
    {P : α → Prop}
    {Q : β → Prop}
    {w : World}
    (hx : x.DiscreetAt S P w)
    (hk :
      ∀ a v, x.Runs w (.ok a) v → P a → (k a).DiscreetAt S Q v) :
    (x >>= k).DiscreetAt S Q w := by
  intro hGuarded r w' hRun
  rcases (runs_bind_iff _ _ _ _ _).mp hRun with
    ⟨f, hFirst, rfl⟩ | ⟨a, v, hFirst, hSecond⟩
  · rcases hx hGuarded _ _ hFirst with ⟨hStill, hSeen, _⟩
    refine ⟨hStill, ?_, ?_⟩
    · exact (runs_bind_iff _ _ _ _ _).mpr (Or.inl ⟨f, hSeen, rfl⟩)
    · intro a h
      cases h
  · rcases hx hGuarded _ _ hFirst with ⟨hStill, hSeen, hP⟩
    rcases hk a v hFirst (hP a rfl) hStill _ _ hSecond with
      ⟨hEnd, hSeenEnd, hQ⟩
    exact ⟨hEnd,
      (runs_bind_iff _ _ _ _ _).mpr
        (Or.inr ⟨a, _, hSeen, hSeenEnd⟩),
      hQ⟩

namespace Discreet

theorem mono
    {act : Act α}
    {P Q : α → Prop}
    (h : act.Discreet S P)
    (hImp : ∀ a, P a → Q a) :
    act.Discreet S Q := by
  intro w hGuarded r w' hRun
  rcases h w hGuarded r w' hRun with ⟨hStill, hSeen, hP⟩
  exact ⟨hStill, hSeen, fun a ha => hImp a (hP a ha)⟩

theorem bind
    {x : Act α}
    {k : α → Act β}
    {P : α → Prop}
    {Q : β → Prop}
    (hx : x.Discreet S P)
    (hk : ∀ a, P a → (k a).Discreet S Q) :
    (x >>= k).Discreet S Q :=
  fun w => (hx w).bind (fun a v _ hP => hk a hP v)

/- What goes on beside the store does not see its rows. -/
theorem of_aside
    {act : Act α}
    (h : act.Aside) :
    act.Discreet S (fun _ => True) := by
  intro w hGuarded r w' hRun
  have hDatabase := h.after_database w
  have hAlike := h.alike w
  rw [hRun.after_eq] at hDatabase hAlike
  refine ⟨?_, ?_, fun _ _ => trivial⟩
  · refine hGuarded.of_store ?_ hAlike.issued hAlike.jobs
    rw [hDatabase]
    exact hGuarded.store
  · have hExec := h.exec_database w (w.database.veiled S)
    rw [hRun.after_eq, hRun.outcome_eq] at hExec
    unfold Runs World.veiled
    rw [hExec, hDatabase]

theorem aside_bind
    {x : Act α}
    {k : α → Act β}
    {P : β → Prop}
    (hx : x.Aside)
    (hk : ∀ a, (k a).Discreet S P) :
    (x >>= k).Discreet S P :=
  (of_aside hx).bind (fun a _ => hk a)

theorem pure
    {P : α → Prop}
    {a : α}
    (h : P a) :
    (Pure.pure a : Act α).Discreet S P := by
  intro w hGuarded r w' hRun
  rcases (runs_pure_iff _ _ _ _).mp hRun with ⟨rfl, rfl⟩
  refine ⟨hGuarded, (runs_pure_iff _ _ _ _).mpr ⟨rfl, rfl⟩, ?_⟩
  intro b hb
  cases hb
  exact h

/- An action without an answer has whatever answers one likes. -/
theorem throw
    {P : α → Prop}
    (f : Failure) :
    (MonadExcept.throw f : Act α).Discreet S P := by
  intro w hGuarded r w' hRun
  rcases (runs_throw_iff _ _ _ _).mp hRun with ⟨rfl, rfl⟩
  refine ⟨hGuarded, (runs_throw_iff _ _ _ _).mpr ⟨rfl, rfl⟩, ?_⟩
  intro b hb
  cases hb

theorem throw_bind
    {P : β → Prop}
    (f : Failure)
    (k : α → Act β) :
    ((MonadExcept.throw f : Act α) >>= k).Discreet S P :=
  bind (throw (P := fun _ => False) f) (fun _ h => h.elim)

theorem resume
    {P : α → Prop}
    {o : Except Failure α}
    (h : ∀ a, o = .ok a → P a) :
    (Act.resume o).Discreet S P := by
  cases o with
  | error f => exact throw f
  | ok a => exact pure (h a rfl)

/- The outcome of an attempt is what is known about the answers. -/
theorem attempt
    {act : Act α}
    {P : α → Prop}
    (h : act.Discreet S P) :
    (Act.attempt act).Discreet S (fun o => ∀ a, o = .ok a → P a) := by
  intro w hGuarded r w' hRun
  rcases (runs_attempt_iff _ _ _ _).mp hRun with ⟨o, hAct, rfl⟩
  rcases h w hGuarded o w' hAct with ⟨hStill, hSeen, hP⟩
  refine ⟨hStill, (runs_attempt_iff _ _ _ _).mpr ⟨o, hSeen, rfl⟩, ?_⟩
  intro o' ho
  cases ho
  exact hP

theorem restating
    {act : Act α}
    {P : α → Prop}
    (restate : Failure → Failure)
    (h : act.Discreet S P) :
    (Act.restating restate act).Discreet S P := by
  unfold Act.restating
  apply h.attempt.bind
  intro o hP
  cases o with
  | error f => exact throw _
  | ok a => exact pure (hP a rfl)

theorem map
    {x : Act α}
    {P : α → Prop}
    {Q : β → Prop}
    (g : α → β)
    (h : x.Discreet S P)
    (hImp : ∀ a, P a → Q (g a)) :
    (g <$> x).Discreet S Q := by
  rw [← bind_pure_comp]
  exact h.bind (fun a hP => pure (hImp a hP))

theorem discard
    {act : Act α}
    {P : α → Prop}
    (h : act.Discreet S P) :
    (Functor.discard act).Discreet S (fun _ => True) :=
  h.map _ (fun _ _ => trivial)

theorem timed
    {act : Act α}
    {P : α → Prop}
    (h : act.Discreet S P) :
    (Act.timed act).Discreet S (fun p => P p.1) := by
  unfold Act.timed
  apply aside_bind Aside.stopwatch
  intro started
  apply h.bind
  intro a hP
  apply aside_bind Aside.stopwatch
  intro ended
  exact pure hP

/- A look at what a veil does not cover. -/
theorem get_bind
    {k : World → Act β}
    {P : β → Prop}
    (hSame : ∀ w : World, k (w.veiled S) = k w)
    (hk : ∀ w, (k w).Discreet S P) :
    ((MonadState.get : Act World) >>= k).Discreet S P := by
  intro w hGuarded r w' hRun
  unfold Runs at hRun ⊢
  rw [exec_get_bind] at hRun ⊢
  rcases hk w w hGuarded r w' hRun with ⟨hStill, hSeen, hP⟩
  refine ⟨hStill, ?_, hP⟩
  rw [hSame]
  exact hSeen

theorem under
    {act : Act α}
    {P : α → Prop}
    (change : Context → Context)
    (h : act.Discreet S P) :
    (Act.under change act).Discreet S P := by
  intro w hGuarded r w' hRun
  rcases (runs_under_iff _ _ _ _ _).mp hRun with ⟨v, hAct, rfl⟩
  have hInside : S.Guarded { w with context := change w.context } :=
    hGuarded.of_store hGuarded.store (Nat.le_refl _) rfl
  rcases h _ hInside r v hAct with ⟨hStill, hSeen, hP⟩
  refine ⟨?_, ?_, hP⟩
  · exact hStill.of_store hStill.store (Nat.le_refl _) rfl
  · exact (runs_under_iff _ _ _ _ _).mpr ⟨_, hSeen, rfl⟩

/- The context is nobody's secret. -/
theorem modify_context
    (change : World → Context)
    (hSame : ∀ w : World, change (w.veiled S) = change w) :
    (modify (fun w => { w with context := change w }) :
      Act PUnit).Discreet S (fun _ => True) := by
  intro w hGuarded r w' hRun
  rcases (runs_modify_iff _ _ _ _).mp hRun with ⟨rfl, rfl⟩
  refine ⟨?_, (runs_modify_iff _ _ _ _).mpr ⟨rfl, ?_⟩,
    fun _ _ => trivial⟩
  · exact hGuarded.of_store hGuarded.store (Nat.le_refl _) rfl
  · simp only [hSame]
    rfl

theorem limited
    {act : Act α}
    {P : α → Prop}
    (h : act.Discreet S P) :
    (Act.limited act).Discreet S P := by
  unfold Act.limited
  apply aside_bind Aside.settings
  intro settings
  exact h.under _

/- A new id is none of the secret ones. -/
theorem newId :
    Act.newId.Discreet S
      (fun id => id ∉ S.planIds ∧ id ∉ S.itemIds) := by
  intro w hGuarded r w' hRun
  rcases of_aside Aside.newId w hGuarded r w' hRun with
    ⟨hStill, hSeen, _⟩
  refine ⟨hStill, hSeen, ?_⟩
  intro id hId
  have hOutcome : r = .ok (idOfNumber (w.issued + 1)) :=
    hRun.outcome_eq.symm
  rw [hOutcome] at hId
  cases hId
  exact hGuarded.fresh _ (Nat.lt_succ_self _)

end Discreet

/- What is timed starts a tick of the clock later. -/
theorem DiscreetAt.timed
    {act : Act α}
    {P : α → Prop}
    {w : World}
    (h : act.DiscreetAt S P { w with clock := w.clock + clockTick }) :
    (Act.timed act).DiscreetAt S (fun p => P p.1) w := by
  unfold Act.timed
  apply (Discreet.of_aside Aside.stopwatch w).bind
  intro started v hStart _
  rcases (runs_stopwatch_iff _ _ _).mp hStart with ⟨_, rfl⟩
  apply h.bind
  intro a v _ hP
  apply Discreet.aside_bind Aside.stopwatch
  intro ended
  exact Discreet.pure hP

end Act

------------------------------------------------------------
-- Statements
------------------------------------------------------------

namespace Records

open Act

variable {α : Type} {S : Secret}

/-
  After a statement that leaves a covered store the world is
  guarded, and veiled it is the world after the same statement
  with the veiled store.
-/
theorem guarded_sent
    (s : Statement)
    {w : World}
    {db : Database}
    (h : S.Guarded w)
    (hStore : S.Covers db) :
    S.Guarded (World.sent s { w with database := db }) ∧
      World.sent s { w.veiled S with database := db.veiled S } =
        (World.sent s { w with database := db }).veiled S := by
  constructor
  · exact h.of_store hStore (Nat.le_refl _) rfl
  · rfl

/- Noting a statement uncovers nothing. -/
theorem covers_submit
    {db : Database}
    (h : S.Covers db)
    (s : Statement) :
    S.Covers (db.submit s).2 :=
  ⟨h.tables, h.origin, h.savepoints⟩

/-
  A statement in a veiled world, when its effect on what is
  seen of a store is, as far as it is seen, the effect on the
  store.  The answers are related by a function.
-/
theorem runs_send_veiled
    {s : Statement}
    {idle : Option Failure → α}
    {effect : Database → α × Database}
    {g : α → α}
    {P : α → Prop}
    (hEffect :
      ∀ db, S.Covers db →
        S.Covers (effect db).2 ∧
          effect (db.veiled S) =
            (g (effect db).1, (effect db).2.veiled S) ∧
          P (effect db).1)
    (hIdle : ∀ f, g (idle f) = idle f ∧ P (idle f))
    {w w' : World}
    {r : Except Failure α}
    (hGuarded : S.Guarded w)
    (hRun : (send s idle effect).Runs w r w') :
    S.Guarded w' ∧
      (send s idle effect).Runs (w.veiled S) (r.map g)
        (w'.veiled S) ∧
      ∀ a, r = .ok a → P a := by
  have hCovers := covers_submit hGuarded.store s
  rcases hEffect _ hCovers with ⟨hStill, hSeen, hP⟩
  have hFault :
      ((w.veiled S).database.submit s).1 =
        (w.database.submit s).1 :=
    rfl
  have hNoted :
      ((w.veiled S).database.submit s).2 =
        (w.database.submit s).2.veiled S :=
    rfl
  have hContext : (w.veiled S).context = w.context := rfl
  unfold Runs at hRun ⊢
  rw [exec_send] at hRun ⊢
  rw [hFault, hNoted, hContext]
  simp only [hSeen]
  cases hFailure : w.context.failure? with
  | some f =>
      rw [hFailure] at hRun
      cases hRun
      exact ⟨hGuarded, rfl, fun _ h => by cases h⟩
  | none =>
      rw [hFailure] at hRun
      simp only at hRun ⊢
      have hNothing := guarded_sent s hGuarded hCovers
      rcases hStrike : (w.database.submit s).1 with
        _ | (f | _ | text)
      · rw [hStrike] at hRun
        cases hRun
        have hDone := guarded_sent s hGuarded hStill
        refine ⟨hDone.1, congrArg (Prod.mk _) hDone.2, ?_⟩
        intro a ha
        cases ha
        exact hP
      · rw [hStrike] at hRun
        cases hRun
        refine ⟨hNothing.1, congrArg (Prod.mk _) hNothing.2, ?_⟩
        intro a ha
        cases ha
      · rw [hStrike] at hRun
        cases hRun
        refine ⟨hNothing.1, ?_, ?_⟩
        · rw [Except.map, (hIdle none).1]
          exact congrArg (Prod.mk _) hNothing.2
        · intro a ha
          cases ha
          exact (hIdle none).2
      · rw [hStrike] at hRun
        cases hRun
        refine ⟨hNothing.1, ?_, ?_⟩
        · rw [Except.map, (hIdle _).1]
          exact congrArg (Prod.mk _) hNothing.2
        · intro a ha
          cases ha
          exact (hIdle _).2

/- Such a statement keeps the secret if its answers are the same. -/
theorem discreet_send
    {s : Statement}
    {idle : Option Failure → α}
    {effect : Database → α × Database}
    {P : α → Prop}
    (hEffect :
      ∀ db, S.Covers db →
        S.Covers (effect db).2 ∧
          effect (db.veiled S) =
            ((effect db).1, (effect db).2.veiled S) ∧
          P (effect db).1)
    (hIdle : ∀ f, P (idle f)) :
    (send s idle effect).Discreet S P := by
  intro w hGuarded r w' hRun
  have hSend :=
    runs_send_veiled (g := id) hEffect (fun f => ⟨rfl, hIdle f⟩)
      hGuarded hRun
  rw [Except.map_id] at hSend
  exact hSend

/- A change that is about rows of others keeps the secret. -/
theorem discreet_perform
    {c : Change}
    (h : S.Spares c) :
    (perform c).Discreet S (fun _ => True) := by
  refine discreet_send ?_ (fun _ => trivial)
  intro db hCovers
  refine ⟨hCovers.update (Secret.spared h), ?_, trivial⟩
  have hVeil := (Secret.spared h).veil hCovers.tables
  have hTouched := Secret.touched_veil h hCovers.tables
  unfold Database.veiled Database.update
  simp only [hVeil, hTouched]

/- A lookup that is permitted keeps the secret; the answers stood in the tables. -/
theorem discreet_fetch
    {l : Lookup}
    (h : S.Permits l)
    {P : List l.Row → Prop}
    (hRows : ∀ t, S.Guards t → P (l.rows t))
    (hNone : P []) :
    (fetch l).Discreet S P := by
  refine discreet_send ?_ (fun _ => hNone)
  intro db hCovers
  have hUnseen := Secret.permitted h
  have hThere := hUnseen.guards _ hCovers.tables
  refine ⟨⟨hThere, hCovers.origin, hCovers.savepoints⟩, ?_,
    hRows _ hThere⟩
  have hVeil := hUnseen.veil hCovers.tables
  have hAnswer := Secret.rows_veil h hThere
  unfold Database.veiled Lookup.run
  simp only [← hVeil, hAnswer]

theorem discreet_fetchOne
    {l : Lookup}
    (h : S.Permits l)
    {P : l.Row → Prop}
    (hRows : ∀ t, S.Guards t → ∀ row ∈ l.rows t, P row) :
    (fetchOne l).Discreet S P := by
  unfold fetchOne
  apply (discreet_fetch h (P := fun rows => ∀ row ∈ rows, P row)
    hRows (by simp)).bind
  intro rows hP
  cases rows with
  | nil => exact Discreet.throw _
  | cons row rest => exact Discreet.pure (hP row (by simp))

/-
  The plan that a request names may be anyone's.  In the
  veiled world the same plan is found, masked.
-/
theorem runs_findPlan_veiled
    {id : String}
    (hNamed : S.shown = true ∨ id = S.named)
    {w w' : World}
    {r : Except Failure StudyPlan}
    (hGuarded : S.Guarded w)
    (hRun : (findPlan id).Runs w r w') :
    S.Guarded w' ∧
      (findPlan id).Runs (w.veiled S) (r.map S.mask) (w'.veiled S) ∧
      ∀ p, r = .ok p → p.ownerId ≠ S.owner → p.id ∉ S.planIds := by
  -- the answers stand in guarded tables
  have hRows :
      ∀ t, S.Guards t → ∀ p ∈ (Lookup.planById id).rows t,
        p.ownerId ≠ S.owner → p.id ∉ S.planIds := by
    intro t hGuards p hp hOther
    rcases List.mem_map.mp hp with ⟨q, hq, rfl⟩
    have hMem := (List.mem_filter.mp hq).1
    exact fun hIn => hOther ((Secret.mem_planIds hGuards hMem).mp hIn)
  have hFetch :
      ∀ o v, (fetch (.planById id)).Runs w o v →
        S.Guarded v ∧
          (fetch (.planById id)).Runs (w.veiled S)
            (o.map (List.map S.mask)) (v.veiled S) ∧
          ∀ rows, o = .ok rows → ∀ p ∈ rows,
            p.ownerId ≠ S.owner → p.id ∉ S.planIds := by
    intro o v hFirst
    unfold fetch at hFirst ⊢
    refine runs_send_veiled ?_ ?_ hGuarded hFirst
    · intro db hCovers
      refine ⟨⟨hCovers.tables, hCovers.origin, hCovers.savepoints⟩,
        ?_, hRows _ hCovers.tables⟩
      exact congrArg (fun rows => (rows, _))
        (Secret.planById_veil hNamed db.tables)
    · intro _
      refine ⟨rfl, ?_⟩
      intro p hp
      cases hp
  unfold findPlan fetchOne at hRun ⊢
  rcases (runs_bind_iff _ _ _ _ _).mp hRun with
    ⟨f, hFirst, rfl⟩ | ⟨rows, v, hFirst, hSecond⟩
  · rcases hFetch _ _ hFirst with ⟨hStill, hSeen, _⟩
    refine ⟨hStill, ?_, fun _ h => by cases h⟩
    exact (runs_bind_iff _ _ _ _ _).mpr (Or.inl ⟨f, hSeen, rfl⟩)
  · rcases hFetch _ _ hFirst with ⟨hStill, hSeen, hApart⟩
    have hHere := hApart rows rfl
    cases rows with
    | nil =>
        rcases (runs_throw_iff _ _ _ _).mp hSecond with ⟨rfl, rfl⟩
        refine ⟨hStill, ?_, fun _ h => by cases h⟩
        exact (runs_bind_iff _ _ _ _ _).mpr
          (Or.inr ⟨_, _, hSeen, rfl⟩)
    | cons p rest =>
        rcases (runs_pure_iff _ _ _ _).mp hSecond with ⟨rfl, rfl⟩
        refine ⟨hStill, ?_, ?_⟩
        · exact (runs_bind_iff _ _ _ _ _).mpr
            (Or.inr ⟨_, _, hSeen, rfl⟩)
        · intro q hq
          cases hq
          exact hHere p (by simp)

/- What is done with the plan may depend on what the mask leaves only. -/
theorem discreet_findPlan_bind
    {id : String}
    {k : Except Failure StudyPlan → Act α}
    {P : α → Prop}
    (hNamed : S.shown = true ∨ id = S.named)
    (hSame : ∀ o, k (o.map S.mask) = k o)
    (hk :
      ∀ o,
        (∀ p, o = .ok p → p.ownerId ≠ S.owner → p.id ∉ S.planIds) →
          (k o).Discreet S P) :
    (attempt (findPlan id) >>= k).Discreet S P := by
  intro w hGuarded r w' hRun
  rcases (runs_attempt_bind_iff _ _ _ _ _).mp hRun with
    ⟨o, v, hFind, hNext⟩
  rcases runs_findPlan_veiled hNamed hGuarded hFind with
    ⟨hStill, hSeen, hApart⟩
  rcases hk o hApart v hStill r w' hNext with ⟨hEnd, hSeenEnd, hP⟩
  refine ⟨hEnd, ?_, hP⟩
  rw [← hSame o] at hSeenEnd
  exact (runs_attempt_bind_iff _ _ _ _ _).mpr ⟨_, _, hSeen, hSeenEnd⟩

------------------------------------------------------------
-- Transactions
------------------------------------------------------------

/- Undoing returns to covered tables. -/
theorem covers_undo
    {db : Database}
    (h : S.Covers db) :
    S.Covers db.undo := by
  refine Secret.covers_of_closed ?_ rfl rfl
  cases hOrigin : db.origin with
  | none =>
      unfold Database.undo
      rw [hOrigin]
      exact h.tables
  | some t =>
      unfold Database.undo
      rw [hOrigin]
      exact h.origin t hOrigin

theorem veiled_undo
    (db : Database) :
    (db.veiled S).undo = db.undo.veiled S := by
  unfold Database.undo Database.veiled
  cases db.origin with
  | none => rfl
  | some t => rfl

theorem discreet_start :
    start.Discreet S (fun _ => True) := by
  refine discreet_send ?_ (fun _ => trivial)
  intro db hCovers
  refine ⟨⟨hCovers.tables, ?_, fun p hp => by cases hp⟩, rfl, trivial⟩
  intro t ht
  cases ht
  exact hCovers.tables

/- Whether a transaction is kept or undone, its tables are covered. -/
theorem discreet_commit :
    commit.Discreet S (fun _ => True) := by
  intro w hGuarded r w' hRun
  have hCovers := covers_submit hGuarded.store .commit
  have hFault :
      ((w.veiled S).database.submit .commit).1 =
        (w.database.submit .commit).1 :=
    rfl
  have hNoted :
      ((w.veiled S).database.submit .commit).2 =
        (w.database.submit .commit).2.veiled S :=
    rfl
  have hContext : (w.veiled S).context = w.context := rfl
  have hClosed :
      S.Covers (w.database.submit .commit).2.close :=
    Secret.covers_of_closed hCovers.tables rfl rfl
  unfold Runs at hRun ⊢
  rw [exec_commit] at hRun ⊢
  rw [hFault, hNoted, hContext]
  simp only [veiled_undo]
  split at hRun
  · rename_i f hFailure
    cases hRun
    exact ⟨hGuarded, rfl, fun _ _ => trivial⟩
  · simp only at hRun ⊢
    split at hRun
    · cases hRun
      have hEnd := guarded_sent .commit hGuarded (covers_undo hCovers)
      exact ⟨hEnd.1, congrArg (Prod.mk _) hEnd.2, fun _ _ => trivial⟩
    · cases hRun
      have hEnd := guarded_sent .commit hGuarded hClosed
      exact ⟨hEnd.1, congrArg (Prod.mk _) hEnd.2, fun _ _ => trivial⟩

theorem discreet_rollback :
    rollback.Discreet S (fun _ => True) := by
  intro w hGuarded r w' hRun
  have hCovers := covers_submit hGuarded.store .rollback
  have hOpen :
      (w.veiled S).database.isOpen = w.database.isOpen := by
    unfold World.veiled Database.veiled Database.isOpen
    simp
  have hNoted :
      ((w.veiled S).database.submit .rollback).2 =
        (w.database.submit .rollback).2.veiled S :=
    rfl
  unfold Runs at hRun ⊢
  rw [exec_rollback] at hRun ⊢
  rw [hOpen, hNoted, veiled_undo]
  cases hRun
  have hEnd := guarded_sent .rollback hGuarded (covers_undo hCovers)
  split
  · exact ⟨hEnd.1, congrArg (Prod.mk _) hEnd.2, fun _ _ => trivial⟩
  · exact ⟨hGuarded, rfl, fun _ _ => trivial⟩

/- What runs in a transaction keeps the secret, undone or not. -/
theorem discreet_inTransaction
    {act : Act α}
    {P : α → Prop}
    (h : act.Discreet S P) :
    (inTransaction act).Discreet S P := by
  unfold inTransaction
  apply h.attempt.bind
  intro o hP
  cases o with
  | ok a => exact Discreet.pure (hP a rfl)
  | error f =>
      apply discreet_rollback.bind
      intro _ _
      exact Discreet.throw f

------------------------------------------------------------
-- Savepoints
------------------------------------------------------------

theorem discreet_mark
    (name : String) :
    (mark name).Discreet S (fun _ => True) := by
  refine discreet_send ?_ (fun _ => trivial)
  intro db hCovers
  refine ⟨⟨hCovers.tables, hCovers.origin, ?_⟩, rfl, trivial⟩
  intro p hp
  rcases List.mem_cons.mp hp with rfl | hp
  · exact hCovers.tables
  · exact hCovers.savepoints p hp

theorem discreet_release
    (name : String) :
    (release name).Discreet S (fun _ => True) := by
  refine discreet_send ?_ (fun _ => trivial)
  intro db hCovers
  refine ⟨⟨hCovers.tables, hCovers.origin, ?_⟩, ?_, trivial⟩
  · intro p hp
    exact hCovers.savepoints p (List.mem_of_mem_eraseP hp)
  · unfold Database.veiled Database.release
    simp only [List.eraseP_map]
    rfl

/- What is kept under a name is found, veiled. -/
theorem lookup_veiled
    (name : String)
    (savepoints : List (String × Tables)) :
    (savepoints.map (fun p => (p.1, S.veil p.2))).lookup name =
      (savepoints.lookup name).map S.veil := by
  induction savepoints with
  | nil => rfl
  | cons p rest ih =>
      rw [List.map_cons, List.lookup_cons, List.lookup_cons]
      split
      · rfl
      · exact ih

theorem discreet_returnTo
    (name : String) :
    (returnTo name).Discreet S (fun _ => True) := by
  refine discreet_send ?_ (fun _ => trivial)
  intro db hCovers
  refine ⟨⟨?_, hCovers.origin, hCovers.savepoints⟩, ?_, trivial⟩
  · cases hKept : db.savepoints.lookup name with
    | none =>
        unfold Database.returnTo
        rw [hKept]
        exact hCovers.tables
    | some t =>
        unfold Database.returnTo
        rw [hKept]
        rcases List.lookup_eq_some_iff.mp hKept with
          ⟨before, behind, hSplit, _⟩
        refine hCovers.savepoints (name, t) ?_
        rw [hSplit]
        simp
  · unfold Database.veiled Database.returnTo
    rw [lookup_veiled]
    cases db.savepoints.lookup name with
    | none => rfl
    | some t => rfl

theorem discreet_behindSavepoint
    {act : Act Unit}
    {P : Unit → Prop}
    (scope : Scope)
    (name : String)
    (h : act.Discreet S P) :
    (behindSavepoint scope name act).Discreet S (fun _ => True) := by
  cases scope with
  | alone => exact h.mono (fun _ _ => trivial)
  | transaction =>
      apply ((discreet_mark name).restating _).bind
      intro _ _
      apply h.attempt.bind
      intro o _
      cases o with
      | ok _ => exact (discreet_release name).restating _
      | error f =>
          apply (discreet_returnTo name).attempt.bind
          intro o _
          cases o with
          | ok _ => exact Discreet.throw _
          | error g => exact Discreet.throw _

end Records

end Timetable
