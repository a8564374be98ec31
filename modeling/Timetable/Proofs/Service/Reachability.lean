import Timetable.Proofs.Order.Halves
import Timetable.Proofs.Service.Changes
import Timetable.Proofs.Service.Generation
import Timetable.Proofs.Store.Soundness

/-
  This file shows that the service keeps the tables sound:
  whoever calls it, with whatever arguments and in whatever
  order, and whichever statements fail.

  Key definitions include:
    * `World.Issued`
    * `Call`
    * `Settled`
    * `Reachable`
    * `runCalls`

  Main theorems include:
    * `Call.settled`
    * `Reachable.runCalls`
    * `reachable_sound`
-/

namespace Timetable

open Store Act

/- Every id in the tables was handed out before. -/
def World.Issued (w : World) : Prop :=
  ∀ id, w.tables.Mentions id →
    ∃ n, n ≤ w.issued ∧ id = idOfNumber n

theorem World.Issued.fresh
    {w : World}
    (h : w.Issued) :
    w.Fresh := by
  intro n hn hMentions
  rcases h _ hMentions with ⟨m, hm, hSame⟩
  have hNumber := idOfNumber_inj.mp hSame
  omega

namespace Service

open Plan

------------------------------------------------------------
-- Operations on an Existing Plan
------------------------------------------------------------

/- Operations on an existing plan keep the tables sound. -/
theorem Altered.sound
    {t t' : Tables}
    (h : Altered t t')
    (hSound : t.Sound) :
    t'.Sound := by
  cases h with
  | same => exact hSound
  | weekdays choice hPlan hDays writes =>
      exact (hSound.chooseWeekdays hPlan hDays).redated writes
  | dates writes => exact hSound.redated writes
  | completion planId id completed moment hMoment =>
      exact hSound.setCompleted hMoment
  | deletion doomed => exact hSound.deletePlans doomed

/- Items that differ in dates have the same ids. -/
theorem mentions_redated
    {t : Tables}
    {writes : List (String × Timestamp)}
    {id : String}
    (h : (t.redated writes).Mentions id) :
    t.Mentions id := by
  rcases h with hPlan | ⟨i, hi, hId⟩ | hWeekdays
  · exact Or.inl hPlan
  · have hMem : i.undated ∈ t.items.map (·.undated) := by
      rw [← redateAll_undated writes t.items]
      exact List.mem_map_of_mem hi
    rcases List.mem_map.mp hMem with ⟨j, hj, hSame⟩
    have hItem : j.id = i.id := by
      have hEq := congrArg ScheduleItem.id hSame
      exact hEq
    have hPlan : j.planId = i.planId := by
      have hEq := congrArg ScheduleItem.planId hSame
      exact hEq
    rw [← hItem, ← hPlan] at hId
    exact Or.inr (Or.inl ⟨j, hj, hId⟩)
  · exact Or.inr (Or.inr hWeekdays)

/- They bring no new ids. -/
theorem Altered.mentions
    {t t' : Tables}
    {id : String}
    (h : Altered t t')
    (hMentions : t'.Mentions id) :
    t.Mentions id := by
  cases h with
  | same => exact hMentions
  | weekdays choice hPlan hDays writes =>
      rcases mentions_redated hMentions with
        hPlans | hItems | ⟨c, hc, hId⟩
      · exact Or.inl hPlans
      · exact Or.inr (Or.inl hItems)
      · rcases List.mem_append.mp hc with hOld | hNew
        · exact Or.inr (Or.inr
            ⟨c, (List.mem_filter.mp hOld).1, hId⟩)
        · rw [List.mem_singleton.mp hNew] at hId
          rcases List.mem_map.mp hPlan with ⟨p, hp, hSame⟩
          exact Or.inl ⟨p, hp, hSame.trans hId⟩
  | dates writes => exact mentions_redated hMentions
  | completion planId itemId completed moment hMoment =>
      rcases hMentions with hPlans | ⟨i, hi, hId⟩ | hWeekdays
      · exact Or.inl hPlans
      · rcases List.mem_map.mp hi with ⟨j, hj, rfl⟩
        refine Or.inr (Or.inl ⟨j, hj, ?_⟩)
        split at hId
        · exact hId
        · exact hId
      · exact Or.inr (Or.inr hWeekdays)
  | deletion doomed =>
      rcases hMentions with
        ⟨p, hp, hId⟩ | ⟨i, hi, hId⟩ | ⟨c, hc, hId⟩
      · exact Or.inl ⟨p, (List.mem_filter.mp hp).1, hId⟩
      · exact Or.inr (Or.inl ⟨i, (List.mem_filter.mp hi).1, hId⟩)
      · exact Or.inr (Or.inr ⟨c, (List.mem_filter.mp hc).1, hId⟩)

------------------------------------------------------------
-- Generating a Plan
------------------------------------------------------------

/- A plan is made of a distribution over weeks in order. -/
theorem planned_numbered
    {req : GenerateRequest}
    {input : GenerationInput}
    {content : List (CostedLesson Float)}
    {d : Distribution Float}
    (h : planned req input content = .ok d) :
    Numbered d.assignments := by
  unfold planned at h
  simp only at h
  split at h
  · cases h
  · split at h
    · cases h
    · unfold arrange at h
      simp only at h
      split at h
      · cases h
      · rename_i e hDistribute
        split at h
        · cases h
        · cases h
          exact distribute_numbered
            (weeksFrom_numbers _ _ _ _ _).2 hDistribute

/- No two items of a stored plan share an id. -/
theorem Stored.items_nodup
    {owner : String}
    {assignments : List (Assignment Float)}
    {w w' : World}
    {view : PlanView}
    (h : Stored owner assignments w view w') :
    (view.items.map (·.id)).Nodup := by
  rcases h.numbered with ⟨n, _, _, _, hItems⟩
  have hUndated :
      view.items.map (·.undated) =
        (numberedItems view.plan.id (n + 1) assignments).map
          (·.undated) := by
    rw [hItems, numberedItems_undated]
  rw [map_eq_of_undated hUndated (·.id) (fun _ => rfl)]
  exact numberedItems_nodup _ _ _

/- The items of a stored plan are open, and have new ids. -/
theorem Stored.mem_items
    {owner : String}
    {assignments : List (Assignment Float)}
    {w w' : World}
    {view : PlanView}
    (h : Stored owner assignments w view w')
    {i : ScheduleItem}
    (hi : i ∈ view.items) :
    i.completedAt.isSome = i.completed ∧
      ∃ m, w.issued < m ∧ m ≤ w'.issued ∧ i.id = idOfNumber m := by
  rcases h.numbered with ⟨n, hAbove, hBelow, _, hItems⟩
  have hMem : i.undated ∈ view.items.map (·.undated) :=
    List.mem_map_of_mem hi
  rw [hItems] at hMem
  constructor
  · rcases numberedItems_open hMem with ⟨hOpen, hNever⟩
    have hOpen' : i.completed = false := hOpen
    have hNever' : i.completedAt = none := hNever
    rw [hOpen', hNever']
    rfl
  · rcases mem_numberedItems hMem with ⟨_, m, hLow, hHigh, hId⟩
    exact ⟨m, by omega, by omega, hId⟩

/- In each week of a stored plan the positions are those of the distribution. -/
theorem Stored.positions
    {owner : String}
    {assignments : List (Assignment Float)}
    {w w' : World}
    {view : PlanView}
    (h : Stored owner assignments w view w')
    (week : Int) :
    positionsOf view.plan.id week view.items =
      positionsIn week assignments := by
  have hOfPlan :
      positionsOf view.plan.id week view.items =
        ((view.items.map itemTopic).filter
          (fun topic => topic.2.1 == week)).map (·.2.2) := by
    unfold positionsOf
    rw [List.filter_map, List.map_map]
    congr 1
    apply List.filter_congr
    intro i hi
    rw [h.items_planId i hi]
    simp [itemTopic]
  have hOfAssignments :
      positionsIn week assignments =
        ((assignments.map assignmentTopic).filter
          (fun topic => topic.2.1 == week)).map (·.2.2) := by
    unfold positionsIn
    rw [List.filter_map, List.map_map]
    rfl
  rw [hOfPlan, hOfAssignments, h.topics]

/- Storing a plan keeps the tables sound. -/
theorem Stored.sound
    {owner : String}
    {assignments : List (Assignment Float)}
    {w w' : World}
    {view : PlanView}
    (h : Stored owner assignments w view w')
    (hFresh : w.Fresh)
    (hNumbered : Numbered assignments)
    (hDays : ValidDays view.weekdays)
    (hSound : w.tables.Sound) :
    w'.tables.Sound := by
  rcases h.tables with ⟨row, moment, rfl, hRow, hTables⟩
  have hRowId : view.plan.id = row.id :=
    (StudyPlan.core_id hRow).symm
  have hNew := h.planId_new hFresh
  have hItems := h.items_planId
  have hPositions :
      ∀ week, ∃ k,
        (positionsOf view.plan.id week view.items).Perm
          (countingTo k) := by
    intro week
    rcases hNumbered week with ⟨k, hk⟩
    rw [h.positions week, hk]
    exact ⟨k, List.Perm.refl _⟩
  have hNewItems :
      ∀ i ∈ view.items, ¬ w.tables.Mentions i.id := by
    intro i hi
    rcases (h.mem_items hi).2 with ⟨m, hAbove, _, hId⟩
    rw [hId]
    exact hFresh m hAbove
  rw [hTables]
  rw [hRowId] at hNew hItems hPositions
  exact hSound.replaced hNew hItems h.items_nodup hNewItems
    hPositions (fun i hi => (h.mem_items hi).1) hRowId hDays

/- Storing a plan brings ids that were handed out for it. -/
theorem Stored.issued
    {owner : String}
    {assignments : List (Assignment Float)}
    {w w' : World}
    {view : PlanView}
    (h : Stored owner assignments w view w')
    (hIssued : w.Issued) :
    w'.Issued := by
  rcases h.tables with ⟨row, moment, _, hRow, hTables⟩
  have hRowId : view.plan.id = row.id :=
    (StudyPlan.core_id hRow).symm
  have hOld :
      ∀ id, w.tables.Mentions id →
        ∃ n, n ≤ w'.issued ∧ id = idOfNumber n := by
    intro id hMentions
    rcases hIssued id hMentions with ⟨n, hn, hId⟩
    rcases h.numbered with ⟨m, hAbove, hBelow, _⟩
    exact ⟨n, by omega, hId⟩
  have hPlan :
      ∃ n, n ≤ w'.issued ∧ view.plan.id = idOfNumber n := by
    rcases h.numbered with ⟨n, _, hBelow, hId, _⟩
    exact ⟨n + 1, by omega, hId⟩
  intro id hMentions
  rw [hTables] at hMentions
  rcases hMentions with
    ⟨p, hp, hId⟩ | ⟨i, hi, hId⟩ | ⟨c, hc, hId⟩
  · rcases List.mem_append.mp hp with hp | hp
    · exact hOld id (Or.inl ⟨p, (List.mem_filter.mp hp).1, hId⟩)
    · rw [← hId, List.mem_singleton.mp hp, ← hRowId]
      exact hPlan
  · rcases List.mem_append.mp hi with hi | hi
    · exact hOld id
        (Or.inr (Or.inl ⟨i, (List.mem_filter.mp hi).1, hId⟩))
    · rcases hId with hId | hId
      · rcases (h.mem_items hi).2 with ⟨m, _, hBelow, hNumber⟩
        exact ⟨m, hBelow, hId.symm.trans hNumber⟩
      · rw [← hId, h.items_planId i hi]
        exact hPlan
  · rcases List.mem_append.mp hc with hc | hc
    · have hKept := (List.mem_filter.mp hc).1
      exact hOld id
        (Or.inr (Or.inr ⟨c, (List.mem_filter.mp hKept).1, hId⟩))
    · rw [← hId, List.mem_singleton.mp hc]
      exact hPlan

------------------------------------------------------------
-- Calls
------------------------------------------------------------

/- The calls that change plans, items or weekdays. -/
inductive Call where
| generate (requester : String) (req : GenerateRequest) : Call
| setWeekdays (planId owner : String) (weekdays : List Int) : Call
| recalculateDates (planId owner : String) : Call
| completeItem (planId owner itemId : String) (completed : Bool) : Call
| delete (planId owner : String) : Call
| handleDateJob (job : DateJob) : Call

/- What a call leaves behind. -/
def Call.after : Call → World → World
| .generate requester req =>
    (Service.generate requester req).after
| .setWeekdays planId owner weekdays =>
    (Service.setWeekdays planId owner weekdays).after
| .recalculateDates planId owner =>
    (Service.recalculateDates planId owner).after
| .completeItem planId owner itemId completed =>
    (Service.completeItem planId owner itemId completed).after
| .delete planId owner => (deletePlan planId owner).after
| .handleDateJob job => (Service.handleDateJob job).after

/- What holds of the world between calls. -/
structure Settled (w : World) : Prop where
  sound : w.tables.Sound
  issued : w.Issued

/- Operations on an existing plan leave the world settled. -/
theorem Alters.settled
    {w w' : World}
    (h : Alters w w')
    (hSettled : Settled w) :
    Settled w' where
  sound := h.altered.sound hSettled.sound
  issued := by
    intro id hMentions
    rcases hSettled.issued id (h.altered.mentions hMentions) with
      ⟨n, hn, hId⟩
    exact ⟨n, Nat.le_trans hn h.later.issued, hId⟩

/- So does generating a plan. -/
theorem generate_settled
    {requester : String}
    {req : GenerateRequest}
    {w w' : World}
    {r : Except Failure PlanView}
    (hOvert : w.Overt)
    (hSettled : Settled w)
    (hRun : (generate requester req).Runs w r w') :
    Settled w' := by
  rcases runs_generate hSettled.issued.fresh hOvert hRun with
    ⟨_, _, hLater, hSame⟩ |
      ⟨input, content, d, view, _, _, hPlanned, hWeekdays, hStored⟩
  · refine Alters.settled ⟨hLater, ?_⟩ hSettled
    rw [hSame]
    exact .same
  · have hDays : ValidDays view.weekdays := by
      rw [hWeekdays]
      exact defaultWeekdays_valid _
    exact
      ⟨hStored.sound hSettled.issued.fresh
          (planned_numbered hPlanned) hDays hSettled.sound,
        hStored.issued hSettled.issued⟩

/- Every call leaves it settled, whether it succeeds or fails. -/
theorem Call.settled
    (c : Call)
    {w : World}
    (hOvert : w.Overt)
    (hSettled : Settled w) :
    Settled (c.after w) := by
  cases c with
  | generate requester req =>
      exact generate_settled hOvert hSettled
        (runs_outcome_after _ w)
  | setWeekdays planId owner weekdays =>
      exact (runs_setWeekdays hOvert
        (runs_outcome_after _ w)).settled hSettled
  | recalculateDates planId owner =>
      exact (runs_recalculateDates hOvert
        (runs_outcome_after _ w)).settled hSettled
  | completeItem planId owner itemId completed =>
      exact (runs_completeItem hOvert
        (runs_outcome_after _ w)).settled hSettled
  | delete planId owner =>
      exact (runs_deletePlan
        (runs_outcome_after _ w)).settled hSettled
  | handleDateJob job =>
      exact (runs_handleDateJob hOvert
        (runs_outcome_after _ w)).settled hSettled

------------------------------------------------------------
-- Reachable Worlds
------------------------------------------------------------

/-
  The worlds that are reached from an empty store by calls.
  Between calls all but the plans, items and weekdays may
  change: which statements will fail, the catalog, the clock,
  the cache and the settings; ids are only handed out.
-/
inductive Reachable : World → Prop where
| empty
    (w : World)
    (hPlans : w.tables.plans = [])
    (hItems : w.tables.items = [])
    (hWeekdays : w.tables.weekdays = []) :
    Reachable w
| call
    (c : Call)
    {w : World}
    (hReachable : Reachable w)
    (hOvert : w.Overt) :
    Reachable (c.after w)
| surroundings
    {w w' : World}
    (hReachable : Reachable w)
    (hPlans : w'.tables.plans = w.tables.plans)
    (hItems : w'.tables.items = w.tables.items)
    (hWeekdays : w'.tables.weekdays = w.tables.weekdays)
    (hIssued : w.issued ≤ w'.issued) :
    Reachable w'

theorem Reachable.settled
    {w : World}
    (h : Reachable w) :
    Settled w := by
  induction h with
  | empty w hPlans hItems hWeekdays =>
      refine ⟨Tables.sound_of_empty hPlans hItems hWeekdays, ?_⟩
      intro id hMentions
      unfold Tables.Mentions at hMentions
      rw [hPlans, hItems, hWeekdays] at hMentions
      simp at hMentions
  | call c _ hOvert ih => exact c.settled hOvert ih
  | surroundings _ hPlans hItems hWeekdays hIssued ih =>
      refine ⟨ih.sound.of_rows hPlans hItems hWeekdays, ?_⟩
      intro id hMentions
      unfold Tables.Mentions at hMentions
      rw [hPlans, hItems, hWeekdays] at hMentions
      rcases ih.issued id hMentions with ⟨n, hn, hId⟩
      exact ⟨n, Nat.le_trans hn hIssued, hId⟩

/-
  Whatever calls are made from the empty store on, the rows
  of the tables fit together.
-/
theorem reachable_sound
    (w : World)
    (hReachable : Reachable w) :
    w.tables.Sound :=
  hReachable.settled.sound

/- Make calls in turn, each with the faults that it meets. -/
def runCalls : List (Call × List FaultRule) → World → World
| [], w => w
| (c, rules) :: rest, w =>
    runCalls rest
      (c.after { w with database := { w.database with rules := rules } })

theorem Reachable.runCalls
    {calls : List (Call × List FaultRule)}
    {w : World}
    (h : Reachable w)
    (hOvert :
      ∀ c ∈ calls, ∀ rule ∈ c.2, rule.fault.IsOvert) :
    Reachable (runCalls calls w) := by
  induction calls generalizing w with
  | nil => exact h
  | cons c rest ih =>
      apply ih _ (fun d hd => hOvert d (List.mem_cons_of_mem _ hd))
      exact .call c.1
        (h.surroundings rfl rfl rfl (Nat.le_refl _))
        (hOvert c List.mem_cons_self)

/- Before any plan is stored. -/
def emptyWorld : World :=
  { sampleWorld [] with
    database :=
      { tables := { sampleTables with plans := [], items := [] } } }

/-
  Two owners generate plans, of which one is dated by a job,
  and the other is given weekdays, worked on, and kept by a
  generation that fails.
-/
def sampleCalls : List (Call × List FaultRule) :=
  [(.generate "ann" sampleRequest, []),
    (.generate "bob" { sampleRequest with ownerId := "bob" },
      [⟨"item_update_date", 0, 1, .fails (.plain "lost")⟩]),
    (.setWeekdays (idOfNumber 4) "ann" [5, 2, 5], []),
    (.handleDateJob ⟨idOfNumber 8, "bob"⟩, []),
    (.completeItem (idOfNumber 4) "ann" (idOfNumber 6) true, []),
    (.generate "ann" sampleRequest,
      [⟨"item_insert", 0, 1, .fails (.plain "lost")⟩])]

/- What this comes to: five of the six items are open, and all have their days. -/
theorem sampleCalls_rows :
    let t := (runCalls sampleCalls emptyWorld).tables
    t.plans.map (·.ownerId) = ["ann", "bob"] ∧
    t.items.map (·.completed) =
      [false, true, false, false, false, false] ∧
    t.items.all (·.scheduledDate.isSome) = true ∧
    t.weekdays.map (·.weekdays) = [some [1, 3, 5], some [2, 5]] := by
  simp only [runCalls, sampleCalls, Call.after, generate, generatePlan,
    loadContent, sortLessons, composePlan, storePlan, setWeekdays,
    handleDateJob, recalculateDates, itemsOf, Records.listItems,
    Records.fetch, Lookup.run, Lookup.rows, Tables.itemsOfPlan, inOrder,
    applyDates, assignDates, mergeSort_eq_sortHalves]
  decide +kernel

/- The rows that these calls leave fit together. -/
theorem reachable_sound_sample :
    ∃ w : World, Reachable w ∧
      w.tables.plans.map (·.ownerId) = ["ann", "bob"] ∧
      w.tables.items.map (·.completed) =
        [false, true, false, false, false, false] ∧
      w.tables.items.all (·.scheduledDate.isSome) = true ∧
      w.tables.weekdays.map (·.weekdays) =
        [some [1, 3, 5], some [2, 5]] ∧
      w.tables.Sound := by
  have hReachable : Reachable (runCalls sampleCalls emptyWorld) :=
    (Reachable.empty _ rfl rfl rfl).runCalls (by decide)
  rcases sampleCalls_rows with
    ⟨hPlans, hCompleted, hDates, hWeekdays⟩
  exact ⟨_, hReachable, hPlans, hCompleted, hDates, hWeekdays,
    reachable_sound _ hReachable⟩

end Service

end Timetable
