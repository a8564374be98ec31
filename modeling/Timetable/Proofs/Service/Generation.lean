import Timetable.Proofs.Action.Ids
import Timetable.Proofs.Plan.Weekdays
import Timetable.Proofs.Service.Content
import Timetable.Proofs.Service.Dating
import Timetable.Proofs.Store.Ownership
import Timetable.Service.Generate

/-
  This file tells what storing a newly generated plan does:
  the plan takes the place of those of its owner, with the
  items that were generated for it, or nothing is changed.

  Key definitions include:
    * `World.Fresh`
    * `Service.numberedItems`
    * `Service.Stored`
    * `Service.Storing`
    * `Service.planned`
    * `Service.Generated`

  Main theorems include:
    * `Service.runs_storePlan`
    * `Service.runs_composePlan`
    * `Service.runs_generate_generated`
    * `Service.runs_generate`
-/

namespace Timetable

open Store Act

------------------------------------------------------------
-- Fresh Ids
------------------------------------------------------------

/- No id that is still to be handed out occurs in the tables. -/
def World.Fresh (w : World) : Prop :=
  ∀ n, w.issued < n → ¬ w.tables.Mentions (idOfNumber n)

theorem World.Kept.fresh
    {w w' : World}
    (h : w.Kept w')
    (hFresh : w.Fresh) :
    w'.Fresh := by
  intro n hn
  rw [show w'.tables = w.tables from h.tables]
  exact hFresh n (Nat.lt_of_le_of_lt h.issued hn)

/- The jobs that a queue is offered when a job comes up: none if there is no queue. -/
def QueueMode.offered
    (queue : QueueMode)
    (job : JobOffer) : List JobOffer :=
  if queue = .absent then [] else [job]

namespace Service

open Plan

------------------------------------------------------------
-- New Items
------------------------------------------------------------

/- The items of assignments, with the ids that come after a number. -/
def numberedItems
    (planId : String) :
    Nat → List (Assignment Float) → List ScheduleItem
| _, [] => []
| n, a :: rest =>
    buildItem (idOfNumber (n + 1)) planId a ::
      numberedItems planId (n + 1) rest

theorem runs_buildItems
    {planId : String}
    {assignments : List (Assignment Float)}
    {w w' : World}
    {r : Except Failure (List ScheduleItem)}
    (hRun : (buildItems planId assignments).Runs w r w') :
    r = .ok (numberedItems planId w.issued assignments) ∧
      w' = { w with issued := w.issued + assignments.length } := by
  induction assignments generalizing w r w' with
  | nil =>
      rcases (runs_pure_iff _ _ _ _).mp hRun with ⟨rfl, rfl⟩
      exact ⟨rfl, rfl⟩
  | cons a rest ih =>
      rcases (runs_bind_iff _ _ _ _ _).mp hRun with
        ⟨f, hNew, _⟩ | ⟨id, w₁, hNew, hBuilding⟩
      · cases ((runs_newId_iff _ _ _).mp hNew).1
      rcases (runs_newId_iff _ _ _).mp hNew with ⟨hId, rfl⟩
      cases hId
      rcases (runs_bind_iff _ _ _ _ _).mp hBuilding with
        ⟨f, hRest, _⟩ | ⟨items, w₂, hRest, hEnd⟩
      · cases (ih hRest).1
      rcases ih hRest with ⟨hItems, rfl⟩
      cases hItems
      rcases (runs_pure_iff _ _ _ _).mp hEnd with ⟨rfl, rfl⟩
      refine ⟨rfl, ?_⟩
      simp only [List.length_cons]
      congr 1
      omega

/- The new items belong to the plan, and their ids were handed out for them. -/
theorem mem_numberedItems
    {planId : String}
    {n : Nat}
    {assignments : List (Assignment Float)}
    {i : ScheduleItem}
    (hi : i ∈ numberedItems planId n assignments) :
    i.planId = planId ∧
      ∃ m, n < m ∧ m ≤ n + assignments.length ∧
        i.id = idOfNumber m := by
  induction assignments generalizing n with
  | nil => cases hi
  | cons a rest ih =>
      rcases List.mem_cons.mp hi with rfl | hRest
      · refine ⟨rfl, n + 1, Nat.lt_succ_self n, ?_, rfl⟩
        simp
      · rcases ih hRest with ⟨hPlan, m, hAbove, hBelow, hId⟩
        refine ⟨hPlan, m, Nat.lt_of_succ_lt hAbove, ?_, hId⟩
        simp only [List.length_cons]
        omega

/- New items are open. -/
theorem numberedItems_open
    {planId : String}
    {n : Nat}
    {assignments : List (Assignment Float)}
    {i : ScheduleItem}
    (hi : i ∈ numberedItems planId n assignments) :
    i.completed = false ∧ i.completedAt = none := by
  induction assignments generalizing n with
  | nil => cases hi
  | cons a rest ih =>
      rcases List.mem_cons.mp hi with rfl | hRest
      · exact ⟨rfl, rfl⟩
      · exact ih hRest

/- New items have no dates. -/
theorem numberedItems_dateless
    {planId : String}
    {n : Nat}
    {assignments : List (Assignment Float)}
    {i : ScheduleItem}
    (hi : i ∈ numberedItems planId n assignments) :
    i.scheduledDate = none := by
  induction assignments generalizing n with
  | nil => cases hi
  | cons a rest ih =>
      rcases List.mem_cons.mp hi with rfl | hRest
      · rfl
      · exact ih hRest

/- No two new items share an id. -/
theorem numberedItems_nodup
    (planId : String)
    (n : Nat)
    (assignments : List (Assignment Float)) :
    ((numberedItems planId n assignments).map (·.id)).Nodup := by
  induction assignments generalizing n with
  | nil => exact List.nodup_nil
  | cons a rest ih =>
      refine List.nodup_cons.mpr ⟨?_, ih (n + 1)⟩
      intro hMem
      rcases List.mem_map.mp hMem with ⟨i, hi, hSame⟩
      rcases mem_numberedItems hi with ⟨_, m, hAbove, _, hId⟩
      have hNumber : m = n + 1 := by
        apply idOfNumber_inj.mp
        rw [← hId]
        exact hSame
      omega

/- What new items say is what the assignments say. -/
theorem numberedItems_map
    {α : Type}
    (f : ScheduleItem → α)
    (g : Assignment Float → α)
    (planId : String)
    (hSame : ∀ id a, f (buildItem id planId a) = g a)
    (n : Nat)
    (assignments : List (Assignment Float)) :
    (numberedItems planId n assignments).map f =
      assignments.map g := by
  induction assignments generalizing n with
  | nil => rfl
  | cons a rest ih =>
      simp only [numberedItems, List.map_cons]
      rw [hSame, ih]

/- New items have ids, and belong to the plan they were made for. -/
theorem numberedItems_complete
    {planId : String}
    {n : Nat}
    {assignments : List (Assignment Float)}
    {i : ScheduleItem}
    (hi : i ∈ numberedItems planId n assignments) :
    i.id ≠ "" ∧ i.planId = planId := by
  rcases mem_numberedItems hi with ⟨hPlan, m, _, _, hId⟩
  rw [hId]
  exact ⟨idOfNumber_ne_empty m, hPlan⟩

/- The ids of new items do not occur in the tables. -/
theorem numberedItems_new
    {w : World}
    (hFresh : w.Fresh)
    {planId : String}
    {n : Nat}
    (hn : w.issued ≤ n)
    {assignments : List (Assignment Float)}
    {i : ScheduleItem}
    (hi : i ∈ numberedItems planId n assignments) :
    ¬ w.tables.Mentions i.id := by
  rcases mem_numberedItems hi with ⟨_, m, hAbove, _, hId⟩
  rw [hId]
  exact hFresh m (by omega)

theorem numberedItems_undated
    (planId : String)
    (n : Nat)
    (assignments : List (Assignment Float)) :
    (numberedItems planId n assignments).map (·.undated) =
      numberedItems planId n assignments := by
  induction assignments generalizing n with
  | nil => rfl
  | cons a rest ih =>
      simp only [numberedItems, List.map_cons]
      rw [ih]
      rfl

------------------------------------------------------------
-- Storing a Plan
------------------------------------------------------------

/-
  A plan for an owner was stored: it is the only one of its
  owner, with the items that the assignments stand for, and
  the items answered are those in the table.
-/
structure Stored
    (owner : String)
    (assignments : List (Assignment Float))
    (w : World)
    (view : PlanView)
    (w' : World) : Prop where
  numbered :
    ∃ n, w.issued ≤ n ∧ n + 1 + assignments.length ≤ w'.issued ∧
      view.plan.id = idOfNumber (n + 1) ∧
      view.items.map (·.undated) =
        numberedItems view.plan.id (n + 1) assignments
  tables :
    ∃ row moment, row.ownerId = owner ∧
      row.core = view.plan.core ∧
      w'.tables =
        w.tables.replaced row view.items
          ⟨view.plan.id, some view.weekdays, moment⟩

/- What an item of a plan is about. -/
abbrev Topic : Type :=
  String × Int × Int

/- The topic of a stored item. -/
def itemTopic (i : ScheduleItem) : Topic :=
  (i.lessonId, i.week, i.position)

/- The topic of an assignment. -/
def assignmentTopic (a : Assignment Float) : Topic :=
  (a.lessonId, a.week, a.position)

/- Stored items are about what the assignments are about. -/
theorem Stored.topics
    {owner : String}
    {assignments : List (Assignment Float)}
    {w w' : World}
    {view : PlanView}
    (h : Stored owner assignments w view w') :
    view.items.map itemTopic = assignments.map assignmentTopic := by
  rcases h.numbered with ⟨n, _, _, _, hItems⟩
  have hUndated :
      view.items.map (·.undated) =
        (numberedItems view.plan.id (n + 1) assignments).map
          (·.undated) := by
    rw [hItems, numberedItems_undated]
  rw [map_eq_of_undated hUndated itemTopic (fun _ => rfl)]
  exact numberedItems_map itemTopic assignmentTopic _
    (fun _ _ => rfl) _ _

/- Stored items belong to the stored plan. -/
theorem Stored.items_planId
    {owner : String}
    {assignments : List (Assignment Float)}
    {w w' : World}
    {view : PlanView}
    (h : Stored owner assignments w view w')
    (i : ScheduleItem)
    (hi : i ∈ view.items) :
    i.planId = view.plan.id := by
  rcases h.numbered with ⟨n, _, _, _, hItems⟩
  have hMem : i.undated ∈ view.items.map (·.undated) :=
    List.mem_map_of_mem hi
  rw [hItems] at hMem
  exact (mem_numberedItems hMem).1

/- The id of a stored plan was not in the tables before. -/
theorem Stored.planId_new
    {owner : String}
    {assignments : List (Assignment Float)}
    {w w' : World}
    {view : PlanView}
    (h : Stored owner assignments w view w')
    (hFresh : w.Fresh) :
    ¬ w.tables.Mentions view.plan.id := by
  rcases h.numbered with ⟨n, hAbove, _, hId, _⟩
  rw [hId]
  exact hFresh (n + 1) (by omega)

/- Dates of the new items are written to no others. -/
theorem redated_replaced
    {row : StudyPlan}
    {items : List ScheduleItem}
    {choice : WeekdayChoice}
    {writes : List (String × Timestamp)}
    {t : Tables}
    (hWrites : ∀ write ∈ writes, write.1 ∈ items.map (·.id))
    (hNew : ∀ i ∈ items, ¬ t.Mentions i.id) :
    (t.replaced row items choice).redated writes =
      t.replaced row (redateAll writes items) choice := by
  have hOld :
      redateAll writes
        (t.deletePlans (fun p => p.ownerId == row.ownerId)).items =
        (t.deletePlans (fun p => p.ownerId == row.ownerId)).items := by
    apply redateAll_eq_self
    intro write hWrite i hi hSame
    rcases List.mem_map.mp (hWrites write hWrite) with
      ⟨j, hj, hId⟩
    have hMem : i ∈ t.items := (List.mem_filter.mp hi).1
    exact hNew j hj
      (Or.inr (Or.inl ⟨i, hMem, Or.inl (hSame.trans hId.symm)⟩))
  unfold Tables.redated Tables.replaced Tables.chooseWeekdays
    Tables.insertItems Tables.insertPlan
  simp only [redateAll_append, hOld]

------------------------------------------------------------
-- Offering a Job
------------------------------------------------------------

/- Offering is all that an offer does. -/
theorem runs_offer_bind
    {β : Type}
    {job : JobOffer}
    {k : Unit → Act β}
    {w w' : World}
    {r : Except Failure β}
    (hRun : (offer job >>= k).Runs w r w') :
    (k ()).Runs { w with offers := w.offers ++ [job] } r w' := by
  rcases (runs_bind_iff _ _ _ _ _).mp hRun with
    ⟨f, hOffer, _⟩ | ⟨_, w₁, hOffer, hRest⟩
  · cases ((runs_modify_iff _ _ _ _).mp hOffer).1
  · rcases (runs_modify_iff _ _ _ _).mp hOffer with ⟨_, rfl⟩
    exact hRest

/- A job is offered for the plan if there is a queue, and nothing is written. -/
theorem runs_enqueueDateJob
    {plan : StudyPlan}
    {w w' : World}
    {r : Except Failure Unit}
    (hRun : (enqueueDateJob plan).Runs w r w') :
    r = .ok () ∧ w'.database = w.database ∧ w'.issued = w.issued ∧
      w'.offers =
        w.offers ++ w.queue.offered (dateOffer plan) := by
  have hOffering := (runs_get_bind_iff _ _ _ _).mp hRun
  cases hQueue : w.queue with
  | absent =>
      rw [hQueue] at hOffering
      rcases (runs_pure_iff _ _ _ _).mp hOffering with ⟨rfl, rfl⟩
      simp [QueueMode.offered]
  | accepting =>
      rw [hQueue] at hOffering
      have hTaking := runs_offer_bind hOffering
      rcases (runs_modify_iff _ _ _ _).mp hTaking with ⟨rfl, rfl⟩
      simp [QueueMode.offered]
  | refusingDuplicates =>
      rw [hQueue] at hOffering
      have hNoting := runs_offer_bind hOffering
      rcases (runs_note_iff _ _ _ _ _).mp hNoting with ⟨rfl, rfl⟩
      simp [QueueMode.offered]
  | full =>
      rw [hQueue] at hOffering
      have hNoting := runs_offer_bind hOffering
      rcases (runs_note_iff _ _ _ _ _).mp hNoting with ⟨rfl, rfl⟩
      simp [QueueMode.offered]

/-
  Once a plan is stored and dated it is answered, whether or
  not the dates of all of its items could be written.  Unless
  they were, a job is offered that writes them.
-/
theorem runs_answerPlan
    (view : PlanView)
    {w w' : World}
    {r : Except Failure PlanView}
    (hRun :
      (do
        unless view.datesAssigned do
          Act.note .warn "date assignment incomplete, plan kept"
          enqueueDateJob view.plan
        Act.note .info "study plan generated"
        return view : Act PlanView).Runs w r w') :
    r = .ok view ∧ w'.tables = w.tables ∧ w.issued ≤ w'.issued ∧
      w'.offers =
        w.offers ++
          if view.datesAssigned then []
          else w.queue.offered (dateOffer view.plan) := by
  simp only at hRun
  split at hRun
  · rename_i hAssigned
    rcases runs_note_bind hRun with ⟨w₁, hNoted, hAnswer⟩
    rcases (runs_pure_iff _ _ _ _).mp hAnswer with ⟨rfl, rfl⟩
    refine ⟨rfl, hNoted.tables, hNoted.issued, ?_⟩
    rw [hNoted.offers, hAssigned]
    simp
  · rename_i hMissing
    rcases runs_note_bind hRun with ⟨w₁, hWarned, hOffering⟩
    rcases (runs_bind_iff _ _ _ _ _).mp hOffering with
      ⟨f, hOffer, _⟩ | ⟨_, w₂, hOffer, hNoting⟩
    · cases (runs_enqueueDateJob hOffer).1
    rcases runs_enqueueDateJob hOffer with
      ⟨_, hStore, hIssued, hOffers⟩
    rcases runs_note_bind hNoting with ⟨w₃, hNoted, hAnswer⟩
    rcases (runs_pure_iff _ _ _ _).mp hAnswer with ⟨rfl, rfl⟩
    refine ⟨rfl, ?_, ?_, ?_⟩
    · have hSame : w₂.tables = w₁.tables := by
        unfold World.tables
        rw [hStore]
      exact (hNoted.tables.trans hSame).trans hWarned.tables
    · have hBefore := hWarned.issued
      have hAfter := hNoted.issued
      omega
    · rw [hNoted.offers, hOffers, hWarned.offers, hWarned.queue,
        if_neg hMissing]

------------------------------------------------------------
-- Storing and Dating a Plan
------------------------------------------------------------

/-
  The particulars of a stored plan: the number of the last id
  that was handed out before its own, its row, the time at
  which its weekdays were stored, and how its items were dated.
-/
structure Particulars where
  number : Nat
  row : StudyPlan
  moment : Timestamp
  run : DateRun

/- The id of the plan. -/
def Particulars.planId (m : Particulars) : String :=
  idOfNumber (m.number + 1)

/- The items of the plan before they were dated. -/
def Particulars.items
    (m : Particulars)
    (d : Distribution Float) : List ScheduleItem :=
  numberedItems m.planId (m.number + 1) d.assignments

/- How a plan was stored, dated and answered on the way from a world to another. -/
structure Storing
    (owner : String)
    (req : GenerateRequest)
    (input : GenerationInput)
    (d : Distribution Float)
    (m : Particulars)
    (w : World)
    (view : PlanView)
    (w' : World) : Prop where
  unissued : w.issued ≤ m.number
  issued : m.number + 1 + d.assignments.length ≤ w'.issued
  kept :
    StudyPlan.KeptAs (w.database.rules = [])
      (buildPlan m.planId owner req input) view.plan m.row
  answer :
    view =
      { plan := view.plan
        items := m.run.items
        weekdays := defaultWeekdays req.daysPerWeek
        statistics :=
          some (summarize (weekTable req input) d.assignments
            d.overflow)
        datesAssigned := m.run.stopped.isNone && m.run.failed == 0 }
  dates :
    ∃ dated,
      assignDates ((m.items d).map slotOf) input.start
          view.weekdays =
        .ok dated ∧
      Redates False dated { items := m.items d }
        (w.tables.replaced m.row (m.items d)
          ⟨m.planId, some view.weekdays, m.moment⟩)
        m.run w'.tables
  offers :
    w'.offers =
      w.offers ++
        if view.datesAssigned then []
        else w.queue.offered (dateOffer view.plan)

/- Worlds around the two between which a plan was stored. -/
theorem Storing.around
    {owner : String}
    {req : GenerateRequest}
    {input : GenerationInput}
    {d : Distribution Float}
    {m : Particulars}
    {w v v' w' : World}
    {view : PlanView}
    (h : Storing owner req input d m v view v')
    (hStart : w.Kept v)
    (hTables : w'.tables = v'.tables)
    (hIssued : v'.issued ≤ w'.issued)
    (hOffers : w'.offers = v'.offers) :
    Storing owner req input d m w view w' where
  unissued := Nat.le_trans hStart.issued h.unissued
  issued := Nat.le_trans h.issued hIssued
  kept := h.kept.mono hStart.rules_nil
  answer := h.answer
  dates := by
    rw [hTables, ← show v.tables = w.tables from hStart.tables]
    exact h.dates
  offers := by
    rw [hOffers, h.offers, hStart.offers, hStart.queue]

theorem Storing.planId
    {owner : String}
    {req : GenerateRequest}
    {input : GenerationInput}
    {d : Distribution Float}
    {m : Particulars}
    {w w' : World}
    {view : PlanView}
    (h : Storing owner req input d m w view w') :
    view.plan.id = m.planId :=
  h.kept.restates.id

/- What a stored and dated plan has left in the tables. -/
theorem Storing.tables_eq
    {owner : String}
    {req : GenerateRequest}
    {input : GenerationInput}
    {d : Distribution Float}
    {m : Particulars}
    {w w' : World}
    {view : PlanView}
    (h : Storing owner req input d m w view w')
    (hFresh : w.Fresh) :
    view.items.map (·.undated) = m.items d ∧
      w'.tables =
        w.tables.replaced m.row view.items
          ⟨m.planId, some view.weekdays, m.moment⟩ := by
  rcases h.dates with ⟨dated, hDated, hRedates⟩
  rcases hRedates.writes with ⟨writes, hSlots, hItems, hTables⟩
  have hWrites :
      ∀ write ∈ writes, write.1 ∈ (m.items d).map (·.id) := by
    intro write hWrite
    have hIds := (assignDates_slots hDated).map (·.id)
    rw [List.map_map, List.map_map] at hIds
    exact hIds.subset (hSlots write hWrite)
  have hNew : ∀ i ∈ m.items d, ¬ w.tables.Mentions i.id :=
    fun _ hi =>
      numberedItems_new hFresh (Nat.le_succ_of_le h.unissued) hi
  specialize hItems (numberedItems_nodup _ _ _)
  have hAnswered : view.items = m.run.items := by rw [h.answer]
  constructor
  · rw [hAnswered, hItems, redateAll_undated]
    exact numberedItems_undated _ _ _
  · rw [hTables, redated_replaced hWrites hNew, ← hItems,
      ← hAnswered]

/- A plan that was stored and dated is stored with its dates. -/
theorem Storing.stored
    {owner : String}
    {req : GenerateRequest}
    {input : GenerationInput}
    {d : Distribution Float}
    {m : Particulars}
    {w w' : World}
    {view : PlanView}
    (h : Storing owner req input d m w view w')
    (hFresh : w.Fresh) :
    Stored owner d.assignments w view w' := by
  rcases h.tables_eq hFresh with ⟨hItems, hTables⟩
  constructor
  · refine ⟨m.number, h.unissued, h.issued, h.planId, ?_⟩
    rw [hItems, h.planId]
    rfl
  · refine ⟨m.row, m.moment, h.kept.ownerId, h.kept.core, ?_⟩
    rw [hTables, h.planId]

/-
  A generated plan is stored, or nothing is changed.  In a
  calm world where transactions can be opened it is stored.
-/
theorem runs_storePlan
    {owner : String}
    {req : GenerateRequest}
    {input : GenerationInput}
    {d : Distribution Float}
    {w w' : World}
    {r : Except Failure PlanView}
    (hOwner : owner ≠ "")
    (hFresh : w.Fresh)
    (hOvert : w.Overt)
    (hRun : (storePlan owner req input d).Runs w r w') :
    (∃ f, r = .error f ∧
      ¬ (w.Calm ∧ w.settings.transactional = true) ∧
      w.Later w' ∧ w'.tables = w.tables) ∨
      ∃ m view, r = .ok view ∧
        Storing owner req input d m w view w' := by
  rcases (runs_bind_iff _ _ _ _ _).mp hRun with
    ⟨f, hCheck, rfl⟩ | ⟨_, w₁, hCheck, hGoing⟩
  · rcases (runs_checkContext_iff _ _ _).mp hCheck with
      ⟨rfl, hFailure⟩
    refine Or.inl ⟨f, rfl, ?_, (World.Kept.refl _).toLater, rfl⟩
    rintro ⟨hCalm, _⟩
    rw [hCalm.failure?_eq_none] at hFailure
    cases hFailure
  rcases (runs_checkContext_iff _ _ _).mp hCheck with ⟨rfl, _⟩
  rcases (runs_bind_iff _ _ _ _ _).mp hGoing with
    ⟨f, hNew, _⟩ | ⟨planId, w₂, hNew, hBuilding⟩
  · cases ((runs_newId_iff _ _ _).mp hNew).1
  rcases (runs_newId_iff _ _ _).mp hNew with ⟨hPlanId, rfl⟩
  cases hPlanId
  rcases (runs_bind_iff _ _ _ _ _).mp hBuilding with
    ⟨f, hItems, _⟩ | ⟨items, w₂, hItems, hPersisting⟩
  · cases (runs_buildItems hItems).1
  rcases runs_buildItems hItems with ⟨hNumbered, hThere⟩
  cases hNumbered
  have hKept : w₁.Kept w₂ := by
    have hAlike : w₁.Alike w₂ := by
      rw [hThere]
      exact ⟨rfl, by simp only; omega, rfl, fun _ => rfl, rfl⟩
    exact hAlike.kept (by rw [hThere])
  have hNewPlan :
      ∀ q ∈ w₂.tables.plans, q.id ≠ idOfNumber (w₁.issued + 1) := by
    rw [show w₂.tables = w₁.tables from hKept.tables]
    intro q hq hSame
    exact hFresh _ (Nat.lt_succ_self _) (Or.inl ⟨q, hq, hSame⟩)
  rcases (runs_bind_iff _ _ _ _ _).mp hPersisting with
    ⟨f, hPersist, rfl⟩ | ⟨⟨p, stored⟩, w₃, hPersist, hDating⟩
  · rcases runs_persist (idOfNumber_ne_empty _) hOwner hNewPlan
        (fun _ => numberedItems_complete) (hKept.overt hOvert)
        hPersist with
      ⟨_, _, hRestless, hLater, hSame⟩ | ⟨_, _, _, h, _⟩
    · refine Or.inl ⟨f, rfl, ?_, hKept.toLater.trans hLater,
        hSame.trans hKept.tables⟩
      rintro ⟨hCalm, hTransactional⟩
      rw [← hKept.settings] at hTransactional
      exact hRestless ⟨hKept.calm hCalm, hTransactional⟩
    · cases h
  rcases runs_persist (idOfNumber_ne_empty _) hOwner hNewPlan
      (fun _ => numberedItems_complete) (hKept.overt hOvert)
      hPersist with
    ⟨_, h, _⟩ | ⟨_, row, moment, h, hKeptAs, hLater, hTables⟩
  · cases h
  cases h
  rw [show w₂.tables = w₁.tables from hKept.tables] at hTables
  have hStored := hKept.toLater.trans hLater
  rcases (runs_bind_iff _ _ _ _ _).mp hDating with
    ⟨f, hDates, rfl⟩ | ⟨run, w₄, hDates, hFinishing⟩
  · rcases runs_applyDates (fun h : False => h.elim) hDates with
      ⟨_, h, _⟩
    cases h
  rcases runs_applyDates (fun h : False => h.elim) hDates with
    ⟨_, h, hHeld, hOutcome⟩
  cases h
  have hStart : p.startDate.date = input.start := by
    rcases hKeptAs.restates with ⟨_, _, rfl⟩
    rfl
  rw [hStart] at hOutcome
  rcases hOutcome with
    ⟨dated, hDated, hRedates⟩ | ⟨⟨e, hError⟩, _⟩
  · have hAnswered :=
      runs_answerPlan
        { plan := p
          items := run.items
          weekdays := defaultWeekdays req.daysPerWeek
          statistics :=
            some (summarize (weekTable req input) d.assignments
              d.overflow)
          datesAssigned := run.stopped.isNone && run.failed == 0 }
        hFinishing
    rcases hAnswered with ⟨rfl, hSame, hIssued, hOffers⟩
    rw [hTables, ← hSame] at hRedates
    have hBefore := hStored.toAlike.trans hHeld.toAlike
    refine Or.inr ⟨⟨w₁.issued, row, moment, run⟩, _, rfl, ?_⟩
    refine ⟨Nat.le_refl _, ?_, hKeptAs.mono hKept.rules_nil, rfl,
      ⟨dated, hDated, hRedates⟩, ?_⟩
    · have hNumber := (hLater.trans hHeld.toLater).issued
      rw [hThere] at hNumber
      simp only at hNumber ⊢
      omega
    · rw [hOffers, hBefore.offers, hBefore.queue]
  · unfold assignDates at hError
    rw [(defaultWeekdays_valid _).normalize] at hError
    cases hError

------------------------------------------------------------
-- Generating a Plan
------------------------------------------------------------

/- The distribution of lessons that a plan is made from. -/
def planned
    (req : GenerateRequest)
    (input : GenerationInput)
    (content : List (CostedLesson Float)) :
    Except Failure (Distribution Float) :=
  let weeks := weekTable req input
  if content.isEmpty then
    .error (.because .validation
      "no eligible lessons for the selected subjects and filters")
  else
    match checkFeasibility (totalCost content)
        (totalCapacity weeks) req.hoursPerDay req.daysPerWeek
        (usefulWeeks weeks) with
    | .error s => .error (shortfallFailure s)
    | .ok () => arrange req input weeks content

/- Lessons that can be distributed are stored as a plan. -/
theorem runs_composePlan
    {owner : String}
    {req : GenerateRequest}
    {input : GenerationInput}
    {content : List (CostedLesson Float)}
    {w w' : World}
    {r : Except Failure PlanView}
    (hRun : (composePlan owner req input content).Runs w r w') :
    (∃ f, planned req input content = .error f ∧
      r = .error f ∧ w.Kept w') ∨
      ∃ d w₁, planned req input content = .ok d ∧ w.Kept w₁ ∧
        (storePlan owner req input d).Runs w₁ r w' := by
  unfold composePlan at hRun
  unfold planned
  simp only at hRun ⊢
  split at hRun
  · rename_i hEmpty
    rcases (runs_bind_iff _ _ _ _ _).mp hRun with
      ⟨f, hThrow, rfl⟩ | ⟨_, _, hThrow, _⟩
    · rcases (runs_throw_iff _ _ _ _).mp hThrow with ⟨h, rfl⟩
      cases h
      exact Or.inl ⟨_, if_pos hEmpty, rfl, World.Kept.refl _⟩
    · cases ((runs_throw_iff _ _ _ _).mp hThrow).1
  · rename_i hEmpty
    rw [if_neg hEmpty]
    cases hFeasible :
        checkFeasibility (totalCost content)
          (totalCapacity (weekTable req input)) req.hoursPerDay
          req.daysPerWeek (usefulWeeks (weekTable req input)) with
    | error s =>
        rw [hFeasible] at hRun
        rcases runs_note_bind hRun with ⟨w₁, hNoted, hThrow⟩
        rcases (runs_throw_iff _ _ _ _).mp hThrow with ⟨rfl, rfl⟩
        exact Or.inl ⟨_, rfl, rfl, hNoted⟩
    | ok _ =>
        rw [hFeasible] at hRun
        rcases (runs_bind_iff _ _ _ _ _).mp hRun with
          ⟨f, hArrange, rfl⟩ | ⟨d, w₁, hArrange, hStoring⟩
        · rcases (runs_resume_iff _ _ _ _).mp hArrange with
            ⟨hError, rfl⟩
          exact Or.inl ⟨f, hError.symm, rfl, World.Kept.refl _⟩
        · rcases (runs_resume_iff _ _ _ _).mp hArrange with
            ⟨hOk, rfl⟩
          refine Or.inr ⟨d, ?_⟩
          split at hStoring
          · rcases runs_note_bind hStoring with
              ⟨w₂, hNoted, hStore⟩
            exact ⟨w₂, hOk.symm, hNoted, hStore⟩
          · exact ⟨w₁, hOk.symm, World.Kept.refl _, hStoring⟩

/- Nobody may generate a plan for someone else. -/
theorem resolveOwner_ok
    {requester owner o : String}
    (h : resolveOwner requester owner = .ok o) :
    o = requester ∧ owner = requester ∧ requester ≠ "" := by
  unfold resolveOwner at h
  split at h
  · cases h
  · rename_i hEmpty
    split at h
    · cases h
    · rename_i hSame
      cases h
      have hOwner : owner = requester := by simpa using hSame
      exact ⟨hOwner, hOwner, by simpa using hEmpty⟩

/-
  How a plan came about for the requester: of lessons that
  were loaded in a world with the same store, cache and
  settings.
-/
inductive Generated
    (requester : String)
    (req : GenerateRequest)
    (w : World)
    (view : PlanView)
    (w' : World) : Prop
| intro
    (input : GenerationInput)
    (content : List (CostedLesson Float))
    (d : Distribution Float)
    (m : Particulars)
    (v v' : World)
    (hParsed : parseRequest req = .ok input)
    (hOwner : requester ≠ "")
    (hSame :
      v.database = w.database ∧ v.cache = w.cache ∧
        v.settings = w.settings)
    (hLoaded :
      (loadContent requester req input.speed).Runs v (.ok content)
        v')
    (hPlanned : planned req input content = .ok d)
    (hStoring : Storing requester req input d m w view w')

/-
  A generation of a plan ends in a failure that left the
  tables as they were, or in a plan stored for the requester.
-/
theorem runs_generatePlan
    {requester : String}
    {req : GenerateRequest}
    {w w' : World}
    {r : Except Failure PlanView}
    (hFresh : w.Fresh)
    (hOvert : w.Overt)
    (hRun : (generatePlan requester req).Runs w r w') :
    (∃ f, r = .error f ∧ w.Later w' ∧ w'.tables = w.tables) ∨
      ∃ view, r = .ok view ∧ Generated requester req w view w' := by
  have hRefl := World.Kept.refl w
  rcases (runs_bind_iff _ _ _ _ _).mp hRun with
    ⟨f, hParse, rfl⟩ | ⟨input, w₁, hParse, hOwning⟩
  · rcases (runs_resume_iff _ _ _ _).mp hParse with ⟨_, rfl⟩
    exact Or.inl ⟨f, rfl, hRefl.toLater, rfl⟩
  rcases (runs_resume_iff _ _ _ _).mp hParse with ⟨hParsed, rfl⟩
  rcases (runs_bind_iff _ _ _ _ _).mp hOwning with
    ⟨f, hResolve, rfl⟩ | ⟨owner, w₂, hResolve, hNoting⟩
  · rcases (runs_resume_iff _ _ _ _).mp hResolve with ⟨_, rfl⟩
    exact Or.inl ⟨f, rfl, hRefl.toLater, rfl⟩
  rcases (runs_resume_iff _ _ _ _).mp hResolve with
    ⟨hResolved, rfl⟩
  rcases resolveOwner_ok hResolved.symm with ⟨rfl, _, hOwner⟩
  rcases (runs_bind_iff _ _ _ _ _).mp hNoting with
    ⟨f, hNote, _⟩ | ⟨_, w₃, hNote, hLoading⟩
  · cases ((runs_note_iff _ _ _ _ _).mp hNote).1
  have hNoted := (Aside.note _ _).keeps _ _ _ hNote
  rcases (runs_bind_iff _ _ _ _ _).mp hLoading with
    ⟨f, hLoad, rfl⟩ | ⟨content, w₄, hLoad, hComposing⟩
  · have hKept := hNoted.trans (loadContent_keeps _ _ _ _ _ _ hLoad)
    exact Or.inl ⟨f, rfl, hKept.toLater, hKept.tables⟩
  have hKept := hNoted.trans (loadContent_keeps _ _ _ _ _ _ hLoad)
  rcases runs_composePlan hComposing with
    ⟨f, _, rfl, hRest⟩ | ⟨d, w₅, hPlanned, hRest, hStoring⟩
  · have hAll := hKept.trans hRest
    exact Or.inl ⟨f, rfl, hAll.toLater, hAll.tables⟩
  have hThere := hKept.trans hRest
  rcases runs_storePlan hOwner (hThere.fresh hFresh)
      (hThere.overt hOvert) hStoring with
    ⟨f, rfl, _, hLater, hSame⟩ | ⟨m, view, rfl, hStored⟩
  · exact Or.inl ⟨f, rfl, hThere.toLater.trans hLater,
      hSame.trans hThere.tables⟩
  · refine Or.inr ⟨view, rfl, input, content, d, m, w₃, w₄,
      hParsed.symm, hOwner, ?_, hLoad, hPlanned,
      hStored.around hThere rfl (Nat.le_refl _) rfl⟩
    rcases (runs_note_iff _ _ _ _ _).mp hNote with ⟨_, rfl⟩
    exact ⟨rfl, rfl, rfl⟩

/- The time limit and the figures of a generation change nothing about this. -/
theorem runs_generate_generated
    {requester : String}
    {req : GenerateRequest}
    {w w' : World}
    {r : Except Failure PlanView}
    (hFresh : w.Fresh)
    (hOvert : w.Overt)
    (hRun : (generate requester req).Runs w r w') :
    (∃ f, r = .error f ∧ w.Later w' ∧ w'.tables = w.tables) ∨
      ∃ view, r = .ok view ∧ Generated requester req w view w' := by
  rcases runs_timed_attempt_bind hRun with
    ⟨o, nanos, w₁, hGenerate, hMeasuring⟩
  rcases runs_measure_bind hMeasuring with
    ⟨w₂, hMeasured, hResume⟩
  rcases (runs_resume_iff _ _ _ _).mp hResume with ⟨rfl, rfl⟩
  rcases (runs_restating_iff _ _ _ _ _).mp hGenerate with
    ⟨o, hLimited, rfl⟩
  rw [runs_limited_iff] at hLimited
  rcases (runs_under_iff _ _ _ _ _).mp hLimited with
    ⟨w₃, hPlan, rfl⟩
  have hStart := World.kept_clock w (w.clock + clockTick)
  have hEnd := (World.kept_clock _ _).trans hMeasured
  have hChange :=
    Context.limited_passesCancellation w.settings.requestTimeout
  rcases runs_generatePlan (by exact hStart.fresh hFresh)
      (by exact hStart.overt hOvert) hPlan with
    ⟨f, rfl, hLater, hSame⟩ | ⟨view, rfl, hGenerated⟩
  · have hLimitedLater : World.Later _ _ :=
      ⟨hLater.toAlike.of_under hChange, hLater.rules⟩
    exact Or.inl ⟨_, rfl,
      (hStart.toLater.trans hLimitedLater).trans hEnd.toLater,
      hEnd.tables.trans hSame⟩
  · rcases hGenerated with
      ⟨input, content, d, m, v, v', hParsed, hOwner, hStore, hLoaded,
        hPlanned, hStoring⟩
    refine Or.inr ⟨view, rfl, input, content, d, m, v, v', hParsed,
      hOwner, hStore, hLoaded, hPlanned, ?_⟩
    exact
      { hStoring with
        issued := Nat.le_trans hStoring.issued hEnd.issued
        dates := by
          rw [show w'.tables = w₃.tables from hEnd.tables]
          exact hStoring.dates
        offers := hEnd.offers.trans hStoring.offers }

/-
  A generation ends in a failure that left the tables as they
  were, or in a plan that stands in place of the old one.
-/
theorem runs_generate
    {requester : String}
    {req : GenerateRequest}
    {w w' : World}
    {r : Except Failure PlanView}
    (hFresh : w.Fresh)
    (hOvert : w.Overt)
    (hRun : (generate requester req).Runs w r w') :
    (∃ f, r = .error f ∧ w.Later w' ∧ w'.tables = w.tables) ∨
      ∃ input content d view, r = .ok view ∧
        parseRequest req = .ok input ∧
        planned req input content = .ok d ∧
        view.weekdays = defaultWeekdays req.daysPerWeek ∧
        Stored requester d.assignments w view w' := by
  rcases runs_generate_generated hFresh hOvert hRun with
    hFailed | ⟨view, rfl, hGenerated⟩
  · exact Or.inl hFailed
  · rcases hGenerated with
      ⟨input, content, d, m, _, _, hParsed, _, _, _, hPlanned, hStoring⟩
    refine Or.inr ⟨input, content, d, view, rfl, hParsed, hPlanned,
      ?_, hStoring.stored hFresh⟩
    rw [hStoring.answer]

------------------------------------------------------------
-- A Sample
------------------------------------------------------------

/- A request for two weeks of study. -/
def sampleRequest : GenerateRequest :=
  { ownerId := "ann", startDate := "2031-01-06",
    endDate := "2031-01-19", subjectIds := some ["algebra"],
    minPriority := 1, daysPerWeek := 3, hoursPerDay := 2,
    mode := "parallel" }

/- A lesson of algebra. -/
def sampleLesson
    (id frontId frontName : String)
    (sequence priority : Int)
    (minutes : Float) : CatalogEntry :=
  { Lesson.blank Float with
      id := id, sequence := sequence, duration := some minutes,
      priority := priority, frontId := frontId, frontName := frontName,
      subjectId := "algebra", courseId := "" }

/-
  The plans of two owners, and a catalog that is not in study
  order, with one lesson that is never chosen.
-/
def sampleTables : Tables :=
  { plans :=
      [{ StudyPlan.blank with
          id := idOfNumber 1, ownerId := "ann" },
        { StudyPlan.blank with
          id := idOfNumber 2, ownerId := "bob" }]
    items :=
      [{ ScheduleItem.blank with
          id := idOfNumber 3, planId := idOfNumber 1 }]
    lessons :=
      [sampleLesson "rings" "f2" "Structures" 2 2 60,
        sampleLesson "limits" "f1" "Sequences" 1 1 90,
        sampleLesson "puzzles" "f1" "Sequences" 2 0 20,
        sampleLesson "groups" "f2" "Structures" 1 3 45] }

/- A world with these tables and faults. -/
def sampleWorld (rules : List FaultRule) : World :=
  { settings := { locale := .fallback, cacheMode := .absent }
    database := { tables := sampleTables, rules := rules }
    clock := 0
    issued := 3 }

/- The ids in the tables were handed out before. -/
theorem sampleWorld_fresh
    (rules : List FaultRule) :
    (sampleWorld rules).Fresh := by
  intro n hn hMentions
  have hSmall : ∃ m, m ≤ 3 ∧ idOfNumber m = idOfNumber n := by
    rcases hMentions with
      ⟨p, hp, hId⟩ | ⟨i, hi, hId⟩ | ⟨c, hc, _⟩
    · rcases List.mem_cons.mp hp with rfl | hp
      · exact ⟨1, by decide, hId⟩
      · rw [List.mem_singleton.mp hp] at hId
        exact ⟨2, by decide, hId⟩
    · rw [List.mem_singleton.mp hi] at hId
      rcases hId with hId | hId
      · exact ⟨3, by decide, hId⟩
      · exact ⟨1, by decide, hId⟩
    · cases hc
  rcases hSmall with ⟨m, hm, hSame⟩
  have hNumber := idOfNumber_inj.mp hSame
  have hIssued : 3 < n := hn
  omega

end Service

end Timetable
