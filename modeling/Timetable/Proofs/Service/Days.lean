import Mathlib.Data.List.Nodup
import Mathlib.Data.List.Perm.Subperm
import Timetable.Proofs.Service.Dating

/-
  This file compares the days that items carry in the store
  with the days that are assigned to them.

  The items of a plan are on their days if each carries the
  day that is given to its id.  Writing dates brings them
  there unless a date could not be written, and when all is
  calm it writes just those that are off their days.

  Key definitions include:
    * `weekdaysOf`
    * `daysOf`
    * `onDay`
    * `OnDays`
    * `offDays`
    * `Dated`
    * `RedatedOnly`

  Main theorems include:
    * `Redates.onDays`
    * `Redates.calm_counts`
    * `Redates.redatedOnly`
-/

namespace Timetable.Service

open Plan Store Act

------------------------------------------------------------
-- Days in the Store
------------------------------------------------------------

/- The weekdays of a plan: those chosen for it, or else the usual ones. -/
def weekdaysOf
    (plan : StudyPlan)
    (t : Tables) : List Int :=
  match t.choicesOfPlan plan.id with
  | [] => defaultWeekdays plan.daysPerWeek
  | choice :: _ =>
      match normalizeWeekdays choice.days with
      | .ok days => days
      | .error _ => defaultWeekdays plan.daysPerWeek

/- The days that are assigned to the items of a plan. -/
def daysOf
    (plan : StudyPlan)
    (t : Tables) : Except WeekdayError (List DatedSlot) :=
  assignDates ((t.itemsOfPlan plan.id).map slotOf)
    plan.startDate.date (weekdaysOf plan t)

/- The calendar day that an item carries. -/
def dayOf? (i : ScheduleItem) : Option Date :=
  i.scheduledDate.map (·.date)

/- An item carries the day that is given to it. -/
def onDay
    (dated : List DatedSlot)
    (i : ScheduleItem) : Bool :=
  match dayGiven? dated i.id with
  | none => false
  | some day => dayOf? i == some day

/- The items of a plan carry the days that are given to them. -/
def OnDays
    (planId : String)
    (dated : List DatedSlot)
    (t : Tables) : Prop :=
  ∀ i ∈ t.items, i.planId = planId → onDay dated i = true

/- The number of items of a plan that do not carry their days. -/
def offDays
    (planId : String)
    (dated : List DatedSlot)
    (t : Tables) : Nat :=
  (t.items.filter (fun i => i.planId == planId)).countP
    (fun i => !onDay dated i)

/- An item that carries its day has a date. -/
theorem scheduled_of_onDay
    {dated : List DatedSlot}
    {i : ScheduleItem}
    (h : onDay dated i = true) :
    i.scheduledDate.isSome = true := by
  cases hDate : i.scheduledDate with
  | none =>
      unfold onDay dayOf? at h
      rw [hDate] at h
      split at h <;> cases h
  | some moment => rfl

/- Every item of a plan carries the day that is assigned to it. -/
def Dated
    (plan : StudyPlan)
    (t : Tables) : Prop :=
  ∃ dated, daysOf plan t = .ok dated ∧ OnDays plan.id dated t

theorem weekdaysOf_valid
    (plan : StudyPlan)
    (t : Tables) :
    ValidDays (weekdaysOf plan t) := by
  unfold weekdaysOf
  split
  · exact defaultWeekdays_valid _
  · split
    · rename_i hDays
      exact normalizeWeekdays_valid hDays
    · exact defaultWeekdays_valid _

/- Days can always be assigned. -/
theorem daysOf_isOk
    (plan : StudyPlan)
    (t : Tables) :
    ∃ dated, daysOf plan t = .ok dated :=
  ⟨_, assignDates_eq (weekdaysOf_valid plan t).normalize _ _⟩

/- The rows of a plan are read in order. -/
theorem itemsOfPlan_perm
    (planId : String)
    (t : Tables) :
    (t.itemsOfPlan planId).Perm
      (t.items.filter (fun i => i.planId == planId)) :=
  List.mergeSort_perm _ _

/- The places of the items of a plan, put into order. -/
theorem itemsOfPlan_slots
    (planId : String)
    (t : Tables) :
    (t.itemsOfPlan planId).map slotOf =
      ((t.items.filter (fun i => i.planId == planId)).map
        slotOf).mergeSort Slot.before :=
  List.map_mergeSort (fun _ _ _ _ => rfl)

theorem mem_itemsOfPlan
    {planId : String}
    {t : Tables}
    {i : ScheduleItem} :
    i ∈ t.itemsOfPlan planId ↔ i ∈ t.items ∧ i.planId = planId := by
  rw [(itemsOfPlan_perm planId t).mem_iff, List.mem_filter, beq_iff_eq]

------------------------------------------------------------
-- The Days of Items in Hand
------------------------------------------------------------

/- The calendar day of the item with an id; of several items the last one counts. -/
def dayIn?
    (items : List ScheduleItem)
    (id : String) : Option Date :=
  (dateOf? items id).map (·.date)

theorem hasDay_eq
    (items : List ScheduleItem)
    (id : String)
    (date : Date) :
    hasDay items id date = (dayIn? items id == some date) := by
  unfold hasDay dayIn?
  cases dateOf? items id <;> simp

theorem dayIn?_concat
    (items : List ScheduleItem)
    (i : ScheduleItem)
    (id : String) :
    dayIn? (items ++ [i]) id =
      if i.id = id then dayOf? i else dayIn? items id := by
  by_cases hId : i.id = id
  · simp [dayIn?, dateOf?, dayOf?, hId]
  · simp [dayIn?, dateOf?, hId]

/- Dating an item gives its day to its id, and leaves the others alone. -/
theorem dayIn?_dateItem
    (id other : String)
    (date : Timestamp)
    (items : List ScheduleItem) :
    dayIn? (dateItem id date items) other =
      if other = id ∧ id ∈ items.map (·.id) then some date.date
      else dayIn? items other := by
  induction items using List.reverseRecOn with
  | nil => simp [dateItem_nil]
  | append_singleton items i ih =>
      rw [dateItem_concat, dayIn?_concat]
      by_cases hId : i.id = id
      · by_cases hOther : other = id
        · subst hOther
          simp [hId, dayIn?_concat, dayOf?]
        · have hApart : i.id ≠ other := by
            intro hSame
            exact hOther (hSame.symm.trans hId)
          simp [hId, hOther, dayIn?_concat, Ne.symm hOther]
      · by_cases hOther : i.id = other
        · have hApart : other ≠ id := by
            intro hSame
            exact hId (hOther.trans hSame)
          simp [hOther, dayIn?_concat, hApart]
        · by_cases hSame : other = id
          · subst hSame
            simp [hId, dayIn?_concat, ih, Ne.symm hId]
          · simp [hId, hOther, dayIn?_concat, ih, hSame]

/- Dating items leaves their ids alone. -/
theorem dateItem_ids
    (id : String)
    (date : Timestamp)
    (items : List ScheduleItem) :
    (dateItem id date items).map (·.id) = items.map (·.id) := by
  induction items using List.reverseRecOn with
  | nil => rw [dateItem_nil]
  | append_singleton items i ih =>
      rw [dateItem_concat]
      split
      · simp
      · simp [ih]

------------------------------------------------------------
-- From Items in Hand to the Store
------------------------------------------------------------

/-
  The rows of a plan carry the days of the items in hand.
  Where several rows share an id they may yet differ, if a
  slot with another day for the id is still to come.
-/
def Agrees
    (planId : String)
    (rest : List DatedSlot)
    (items : List ScheduleItem)
    (t : Tables) : Prop :=
  ∀ i ∈ t.items, i.planId = planId →
    dayOf? i = dayIn? items i.id ∨
      ∃ d ∈ rest, d.slot.id = i.id ∧ dayIn? items i.id ≠ some d.date

/- An item whose id no other item in hand has is in hand with its own day. -/
theorem dayIn?_of_unique
    {items : List ScheduleItem}
    {i : ScheduleItem}
    (hi : i ∈ items)
    (hUnique : ∀ j ∈ items, j.id = i.id → j = i) :
    dayIn? items i.id = dayOf? i := by
  have hFound :
      (items.reverse.find? (fun j => j.id == i.id)).isSome = true := by
    rw [List.find?_isSome]
    exact ⟨i, List.mem_reverse.mpr hi, by simp⟩
  rcases Option.isSome_iff_exists.mp hFound with ⟨j, hj⟩
  have hId : j.id = i.id := by
    simpa using List.find?_some hj
  have hSame : j = i :=
    hUnique j (List.mem_reverse.mp (List.mem_of_find?_eq_some hj)) hId
  unfold dayIn? dateOf?
  rw [hj, hSame]
  rfl

/- Two items of one id get two days, and one of them is not a given day. -/
theorem exists_other_day
    {dated : List DatedSlot}
    {id : String}
    (day : Option Date)
    (hAscending : dated.Pairwise (fun a b => a.date < b.date))
    (hTwice : 2 ≤ dated.countP (fun d => d.slot.id == id)) :
    ∃ d ∈ dated, d.slot.id = id ∧ day ≠ some d.date := by
  rw [List.countP_eq_length_filter] at hTwice
  have hOrdered := hAscending.filter (fun d => d.slot.id == id)
  have hMem :
      ∀ d ∈ dated.filter (fun d => d.slot.id == id),
        d ∈ dated ∧ d.slot.id = id := by
    intro d hd
    simpa using hd
  rcases hFiltered : dated.filter (fun d => d.slot.id == id) with
    _ | ⟨a, _ | ⟨b, rest⟩⟩
  · simp [hFiltered] at hTwice
  · simp [hFiltered] at hTwice
  · rw [hFiltered] at hOrdered hMem
    have hLess : a.date < b.date :=
      (List.pairwise_cons.mp hOrdered).1 b (by simp)
    by_cases hDay : day = some a.date
    · refine ⟨b, (hMem b (by simp)).1, (hMem b (by simp)).2, ?_⟩
      rw [hDay]
      intro hSame
      rw [Option.some.inj hSame] at hLess
      exact Int.lt_irrefl _ hLess
    · exact ⟨a, (hMem a (by simp)).1, (hMem a (by simp)).2, hDay⟩

/- The items that are read agree with the store. -/
theorem agrees_of_read
    {planId : String}
    {start : Date}
    {weekdays : List Int}
    {items : List ScheduleItem}
    {dated : List DatedSlot}
    {t : Tables}
    (hRead : ∀ i, i ∈ items ↔ i ∈ t.items ∧ i.planId = planId)
    (hDated :
      assignDates (items.map slotOf) start weekdays = .ok dated) :
    Agrees planId dated items t := by
  intro i hi hPlan
  have hIn : i ∈ items := (hRead i).mpr ⟨hi, hPlan⟩
  by_cases hUnique : ∀ j ∈ items, j.id = i.id → j = i
  · exact Or.inl (dayIn?_of_unique hIn hUnique).symm
  · refine Or.inr
      (exists_other_day _ (assignDates_ascending hDated) ?_)
    simp only [not_forall] at hUnique
    rcases hUnique with ⟨j, hj, hId, hOther⟩
    have hCount :
        dated.countP (fun d => d.slot.id == i.id) =
          items.countP (fun k => k.id == i.id) := by
      have hPerm := (assignDates_slots hDated).countP_eq
        (fun s => s.id == i.id)
      rw [List.countP_map, List.countP_map] at hPerm
      exact hPerm
    rw [hCount]
    have hTwo : [i, j].Subperm items := by
      apply List.subperm_of_subset
      · simp [Ne.symm hOther]
      · intro k hk
        rcases List.mem_pair.mp hk with rfl | rfl
        · exact hIn
        · exact hj
    have hLe := hTwo.countP_le (fun k => k.id == i.id)
    simpa [hId] using hLe

/- Failures are only added. -/
theorem Redates.failed_le
    {calm : Prop}
    {dated : List DatedSlot}
    {run last : DateRun}
    {t t' : Tables}
    (h : Redates calm dated run t last t') :
    run.failed ≤ last.failed := by
  induction h with
  | done run t => exact Nat.le_refl _
  | stop d rest run t f _ _ => exact Nat.le_refl _
  | skip _ _ ih => exact ih
  | write _ _ ih => exact ih
  | fail _ _ _ ih => exact Nat.le_of_succ_le ih

/-
  A run without failures leaves the rows of a plan and the
  items in hand with the same days: those that were given
  last, or else the old ones.
-/
theorem Redates.agrees
    {calm : Prop}
    {planId : String}
    {dated : List DatedSlot}
    {run last : DateRun}
    {t t' : Tables}
    (h : Redates calm dated run t last t')
    (hIds : ∀ d ∈ dated, d.slot.id ∈ run.items.map (·.id))
    (hAgrees : Agrees planId dated run.items t)
    (hStopped : last.stopped = none)
    (hFailed : last.failed = run.failed) :
    Agrees planId [] last.items t' ∧
      ∀ id, dayIn? last.items id =
        (dayGiven? dated id).or (dayIn? run.items id) := by
  induction h with
  | done run t => exact ⟨hAgrees, fun _ => rfl⟩
  | stop d rest run t f _ _ => cases hStopped
  | @skip d rest run last t t' hDay hRest ih =>
      rw [hasDay_eq, beq_iff_eq] at hDay
      have hAgrees₁ : Agrees planId rest run.items t := by
        intro i hi hPlan
        rcases hAgrees i hi hPlan with hSame | ⟨e, he, hId, hOther⟩
        · exact Or.inl hSame
        · rcases List.mem_cons.mp he with rfl | he
          · rw [← hId] at hOther
            exact absurd hDay hOther
          · exact Or.inr ⟨e, he, hId, hOther⟩
      have hIds₁ : ∀ e ∈ rest, e.slot.id ∈ run.items.map (·.id) :=
        fun e he => hIds e (by simp [he])
      rcases ih hIds₁ hAgrees₁ hStopped hFailed with ⟨hEnd, hDays⟩
      refine ⟨hEnd, ?_⟩
      intro id
      rw [hDays, dayGiven?_cons]
      by_cases hId : d.slot.id = id
      · rw [← hId, hDay]
        cases dayGiven? rest d.slot.id <;> simp
      · cases dayGiven? rest id <;> simp [hId]
  | @write d rest run last t t' hDay hRest ih =>
      have hIn := hIds d (by simp)
      have hAgrees₁ :
          Agrees planId rest
            (dateItem d.slot.id (.ofDate d.date) run.items)
            (t.setDate d.slot.id (.ofDate d.date)) := by
        intro i hi hPlan
        rcases List.mem_map.mp hi with ⟨j, hj, rfl⟩
        by_cases hId : j.id = d.slot.id
        · refine Or.inl ?_
          simp [hId, dayOf?, dayIn?_dateItem, hIn]
        · simp only [hId, beq_iff_eq, if_false] at hPlan ⊢
          rw [dayIn?_dateItem, if_neg (fun h => hId h.1)]
          rcases hAgrees j hj hPlan with hSame | ⟨e, he, hSlot, hOther⟩
          · exact Or.inl hSame
          · rcases List.mem_cons.mp he with rfl | he
            · exact absurd hSlot.symm hId
            · exact Or.inr ⟨e, he, hSlot, hOther⟩
      have hIds₁ :
          ∀ e ∈ rest, e.slot.id ∈
            (dateItem d.slot.id (.ofDate d.date) run.items).map
              (·.id) := by
        intro e he
        rw [dateItem_ids]
        exact hIds e (by simp [he])
      rcases ih hIds₁ hAgrees₁ hStopped hFailed with ⟨hEnd, hDays⟩
      refine ⟨hEnd, ?_⟩
      intro id
      rw [hDays, dayGiven?_cons, dayIn?_dateItem]
      by_cases hId : d.slot.id = id
      · subst hId
        cases dayGiven? rest d.slot.id <;> simp [hIn, Timestamp.ofDate]
      · cases dayGiven? rest id <;> simp [hId, Ne.symm hId]
  | fail _ _ hRest _ =>
      have hMore := hRest.failed_le
      simp only at hMore
      omega

------------------------------------------------------------
-- Items on Their Days
------------------------------------------------------------

/- The rows of tables that differ in dates have the same ids and plans. -/
theorem exists_row_of_undated
    {t t' : Tables}
    (hFields :
      t'.items.map (·.undated) = t.items.map (·.undated))
    {i : ScheduleItem}
    (hi : i ∈ t'.items) :
    ∃ j ∈ t.items, j.id = i.id ∧ j.planId = i.planId := by
  have hMem : i.undated ∈ t.items.map (·.undated) := by
    rw [← hFields]
    exact List.mem_map_of_mem hi
  rcases List.mem_map.mp hMem with ⟨j, hj, hSame⟩
  have hId := congrArg ScheduleItem.id hSame
  have hPlan := congrArg ScheduleItem.planId hSame
  exact ⟨j, hj, hId, hPlan⟩

theorem Redates.fields
    {calm : Prop}
    {dated : List DatedSlot}
    {run last : DateRun}
    {t t' : Tables}
    (h : Redates calm dated run t last t') :
    t'.items.map (·.undated) = t.items.map (·.undated) := by
  rcases h.writes with ⟨writes, _, _, rfl⟩
  exact redateAll_undated writes t.items

/- The ids of the items are those that days are given to. -/
theorem assignDates_ids
    {items : List ScheduleItem}
    {start : Date}
    {weekdays : List Int}
    {dated : List DatedSlot}
    (hDated :
      assignDates (items.map slotOf) start weekdays = .ok dated) :
    (dated.map (·.slot.id)).Perm (items.map (·.id)) := by
  have hPerm := (assignDates_slots hDated).map (·.id)
  rw [List.map_map, List.map_map] at hPerm
  exact hPerm

/- A run over the items of a plan that meets no failure brings them onto their days. -/
theorem Redates.onDays
    {calm : Prop}
    {planId : String}
    {start : Date}
    {weekdays : List Int}
    {items : List ScheduleItem}
    {dated : List DatedSlot}
    {last : DateRun}
    {t t' : Tables}
    (h : Redates calm dated { items := items } t last t')
    (hRead : ∀ i, i ∈ items ↔ i ∈ t.items ∧ i.planId = planId)
    (hDated :
      assignDates (items.map slotOf) start weekdays = .ok dated)
    (hStopped : last.stopped = none)
    (hFailed : last.failed = 0) :
    OnDays planId dated t' := by
  have hIds := assignDates_ids hDated
  have hSlots : ∀ d ∈ dated, d.slot.id ∈ items.map (·.id) :=
    fun d hd => hIds.subset (List.mem_map_of_mem hd)
  rcases h.agrees hSlots (agrees_of_read hRead hDated) hStopped
      hFailed with
    ⟨hAgrees, hDays⟩
  intro i hi hPlan
  rcases exists_row_of_undated h.fields hi with
    ⟨j, hj, hId, hSamePlan⟩
  have hIn : j ∈ items := (hRead j).mpr ⟨hj, hSamePlan.trans hPlan⟩
  have hGiven : (dayGiven? dated i.id).isSome = true := by
    rw [dayGiven?_isSome_iff, ← hId]
    exact hIds.symm.subset (List.mem_map_of_mem hIn)
  rcases Option.isSome_iff_exists.mp hGiven with ⟨day, hDay⟩
  rcases hAgrees i hi hPlan with hSame | ⟨d, hd, _⟩
  · unfold onDay
    rw [hDay, hSame, hDays, hDay]
    simp
  · cases hd

/- Writing dates to items that no other plan has changes nothing else. -/
theorem Redates.redatedOnly
    {calm : Prop}
    {planId : String}
    {dated : List DatedSlot}
    {run last : DateRun}
    {t t' : Tables}
    (h : Redates calm dated run t last t')
    (hOwn :
      ∀ d ∈ dated, ∀ i ∈ t.items, i.id = d.slot.id →
        i.planId = planId) :
    t.RedatedOnly planId t' := by
  rcases h.writes with ⟨writes, hSlots, _, rfl⟩
  apply Tables.redated_only
  intro write hWrite i hi hId
  rcases List.mem_map.mp (hSlots write hWrite) with ⟨d, hd, hSlot⟩
  exact hOwn d hd i hi (hId.trans hSlot.symm)

/- Days are assigned alike where only dates differ. -/
theorem daysOf_redated
    {plan : StudyPlan}
    {t t' : Tables}
    (hFields :
      t'.items.map (·.undated) = t.items.map (·.undated))
    (hChoices : t'.weekdays = t.weekdays) :
    daysOf plan t' = daysOf plan t := by
  have hRows :=
    filter_undated hFields (fun i => i.planId == plan.id)
      (fun _ => rfl)
  have hSlots :
      (t'.itemsOfPlan plan.id).map slotOf =
        (t.itemsOfPlan plan.id).map slotOf := by
    rw [itemsOfPlan_slots, itemsOfPlan_slots,
      map_eq_of_undated hRows slotOf (fun _ => rfl)]
  have hWeekdays : weekdaysOf plan t' = weekdaysOf plan t := by
    unfold weekdaysOf Tables.choicesOfPlan
    rw [hChoices]
  unfold daysOf
  rw [hSlots, hWeekdays]

------------------------------------------------------------
-- Counting
------------------------------------------------------------

/- When all is calm, just the dates that differ are written, and none fails. -/
theorem Redates.calm_counts
    {dated : List DatedSlot}
    {run last : DateRun}
    {t t' : Tables}
    (h : Redates True dated run t last t')
    (hNodup : (dated.map (·.slot.id)).Nodup)
    (hRows : ∀ d ∈ dated, ∃ i ∈ t.items, i.id = d.slot.id) :
    last.stopped = run.stopped ∧ last.failed = run.failed ∧
      last.updated =
        run.updated +
          dated.countP
            (fun d => !hasDay run.items d.slot.id d.date) := by
  induction h with
  | done run t => exact ⟨rfl, rfl, rfl⟩
  | stop d rest run t f _ hRestless => exact absurd trivial hRestless
  | @skip d rest run last t t' hDay hRest ih =>
      rcases ih (List.nodup_cons.mp hNodup).2
          (fun e he => hRows e (by simp [he])) with
        ⟨hStopped, hFailed, hUpdated⟩
      refine ⟨hStopped, hFailed, ?_⟩
      rw [hUpdated, List.countP_cons_of_neg (by simp [hDay])]
  | @write d rest run last t t' hDay hRest ih =>
      rcases List.nodup_cons.mp hNodup with ⟨hFirst, hOthers⟩
      have hRows₁ :
          ∀ e ∈ rest,
            ∃ i ∈ (t.setDate d.slot.id (.ofDate d.date)).items,
              i.id = e.slot.id := by
        intro e he
        rcases hRows e (by simp [he]) with ⟨i, hi, hId⟩
        refine ⟨_, List.mem_map_of_mem hi, ?_⟩
        split <;> exact hId
      rcases ih hOthers hRows₁ with ⟨hStopped, hFailed, hUpdated⟩
      refine ⟨hStopped, hFailed, ?_⟩
      have hCount :
          rest.countP (fun e =>
            !hasDay (dateItem d.slot.id (.ofDate d.date) run.items)
              e.slot.id e.date) =
          rest.countP
            (fun e => !hasDay run.items e.slot.id e.date) := by
        apply List.countP_congr
        intro e he
        have hApart : e.slot.id ≠ d.slot.id := by
          intro hSame
          exact hFirst (List.mem_map.mpr ⟨e, he, hSame⟩)
        rw [hasDay_eq, hasDay_eq, dayIn?_dateItem,
          if_neg (fun hBoth => hApart hBoth.1)]
      simp only at hUpdated
      rw [hUpdated, hCount, List.countP_cons_of_pos (by simp [hDay])]
      omega
  | @fail d rest run last t t' hDay hMissing hRest ih =>
      rcases hRows d (by simp) with ⟨i, hi, hId⟩
      exact absurd hId (hMissing trivial i hi)

/- The slots whose days differ are as many as the items off their days. -/
theorem countP_hasDay_eq_offDays
    {planId : String}
    {start : Date}
    {weekdays : List Int}
    {items : List ScheduleItem}
    {dated : List DatedSlot}
    {t : Tables}
    (hRead :
      items.Perm (t.items.filter (fun i => i.planId == planId)))
    (hNodup : (items.map (·.id)).Nodup)
    (hDated :
      assignDates (items.map slotOf) start weekdays = .ok dated) :
    dated.countP (fun d => !hasDay items d.slot.id d.date) =
      offDays planId dated t := by
  have hIds := assignDates_ids hDated
  have hSlots : (dated.map (·.slot.id)).Nodup :=
    hIds.nodup_iff.mpr hNodup
  let differs : String → Bool := fun id =>
    !(dayIn? items id == dayGiven? dated id)
  calc
    dated.countP (fun d => !hasDay items d.slot.id d.date)
      = dated.countP (fun d => differs d.slot.id) := by
        apply List.countP_congr
        intro d hd
        rw [hasDay_eq, ← dayGiven?_of_mem hSlots hd]
    _ = (dated.map (·.slot.id)).countP differs := by
        rw [List.countP_map]
        rfl
    _ = (items.map (·.id)).countP differs := hIds.countP_eq differs
    _ = items.countP (fun i => differs i.id) := by
        rw [List.countP_map]
        rfl
    _ = items.countP (fun i => !onDay dated i) := by
        apply List.countP_congr
        intro i hi
        have hGiven : (dayGiven? dated i.id).isSome = true := by
          rw [dayGiven?_isSome_iff]
          exact hIds.symm.subset (List.mem_map_of_mem hi)
        rcases Option.isSome_iff_exists.mp hGiven with ⟨day, hDay⟩
        have hOwn : dayIn? items i.id = dayOf? i :=
          dayIn?_of_unique hi
            (fun j hj hId => List.inj_on_of_nodup_map hNodup hj hi hId)
        simp only [differs, onDay, hDay, hOwn]
    _ = offDays planId dated t := hRead.countP_eq _

end Timetable.Service
