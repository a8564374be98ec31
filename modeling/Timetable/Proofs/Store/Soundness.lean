import Mathlib.Data.List.Nodup
import Timetable.Proofs.Plan.Numbering
import Timetable.Proofs.Plan.Weekdays
import Timetable.Proofs.Store.ItemOrder
import Timetable.Proofs.Store.Ownership

/-
  This file says when the rows of the store fit together, and
  shows that the changes which the service makes keep them so.

  Key definitions include:
    * `positionsOf`
    * `Tables.Sound`

  Main theorems include:
    * `Tables.Sound.itemsOfPlan_unique`
    * `Tables.Sound.deletePlans`
    * `Tables.Sound.chooseWeekdays`
    * `Tables.Sound.redated`
    * `Tables.Sound.setCompleted`
    * `Tables.Sound.replaced`
-/

namespace Timetable.Store

open Plan

------------------------------------------------------------
-- Sound Tables
------------------------------------------------------------

/- The positions that the items of a plan have in a week. -/
def positionsOf
    (planId : String)
    (week : Int)
    (items : List ScheduleItem) : List Int :=
  (items.filter (fun i =>
    i.planId == planId && i.week == week)).map (·.position)

namespace Tables

/-
  The rows of the tables fit together.  In each week of a
  plan the positions are the numbers from one up to a count,
  each of them once.
-/
structure Sound (t : Tables) : Prop where
  owners : (t.plans.map (·.ownerId)).Nodup
  planIds : (t.plans.map (·.id)).Nodup
  itemPlans : ∀ i ∈ t.items, i.planId ∈ t.plans.map (·.id)
  weekdayPlans : ∀ c ∈ t.weekdays, c.planId ∈ t.plans.map (·.id)
  weekdayOnce : (t.weekdays.map (·.planId)).Nodup
  weekdayDays : ∀ c ∈ t.weekdays, ValidDays c.days
  itemIds : (t.items.map (·.id)).Nodup
  positions :
    ∀ planId week, ∃ k,
      (positionsOf planId week t.items).Perm (countingTo k)
  completed : ∀ i ∈ t.items, i.completedAt.isSome = i.completed

/- No two items share a place in the same plan. -/
theorem Sound.eq_of_place
    {t : Tables}
    (h : t.Sound)
    {i j : ScheduleItem}
    (hi : i ∈ t.items)
    (hj : j ∈ t.items)
    (hPlan : i.planId = j.planId)
    (hWeek : i.week = j.week)
    (hPosition : i.position = j.position) :
    i = j := by
  rcases h.positions j.planId j.week with ⟨k, hPerm⟩
  have hNodup : (positionsOf j.planId j.week t.items).Nodup :=
    hPerm.nodup_iff.mpr (countingTo_nodup k)
  refine List.inj_on_of_nodup_map hNodup ?_ ?_ hPosition
  · exact List.mem_filter.mpr ⟨hi, by simp [hPlan, hWeek]⟩
  · exact List.mem_filter.mpr ⟨hj, by simp⟩

/-
  So it does not matter how a store orders rows that are tied:
  there is one list of the items of a plan that is in order.
-/
theorem Sound.itemsOfPlan_unique
    {t : Tables}
    (h : t.Sound)
    {planId : String}
    {answer : List ScheduleItem}
    (hPerm :
      answer.Perm (t.items.filter (fun i => i.planId == planId)))
    (hOrdered : answer.Pairwise (fun i j => i.before j = true)) :
    answer = t.itemsOfPlan planId := by
  apply inOrder_unique _ hPerm hOrdered
  intro i hi j hj hWeek hPosition
  rcases List.mem_filter.mp hi with ⟨hThere, hPlan⟩
  rcases List.mem_filter.mp hj with ⟨hOther, hSame⟩
  have hShared : i.planId = j.planId :=
    (beq_iff_eq.mp hPlan).trans (beq_iff_eq.mp hSame).symm
  exact h.eq_of_place hThere hOther hShared hWeek hPosition

/- Without rows there is nothing that could not fit. -/
theorem sound_of_empty
    {t : Tables}
    (hPlans : t.plans = [])
    (hItems : t.items = [])
    (hWeekdays : t.weekdays = []) :
    t.Sound where
  owners := by simp [hPlans]
  planIds := by simp [hPlans]
  itemPlans := by simp [hItems]
  weekdayPlans := by simp [hWeekdays]
  weekdayOnce := by simp [hWeekdays]
  weekdayDays := by simp [hWeekdays]
  itemIds := by simp [hItems]
  positions := by
    intro planId week
    exact ⟨0, by simp [positionsOf, hItems, countingTo]⟩
  completed := by simp [hItems]

/- Soundness is about plans, items and weekdays only. -/
theorem Sound.of_rows
    {t t' : Tables}
    (h : t.Sound)
    (hPlans : t'.plans = t.plans)
    (hItems : t'.items = t.items)
    (hWeekdays : t'.weekdays = t.weekdays) :
    t'.Sound := by
  rcases t' with ⟨plans, items, weekdays, lessons, progress⟩
  simp only at hPlans hItems hWeekdays
  subst hPlans hItems hWeekdays
  exact ⟨h.owners, h.planIds, h.itemPlans, h.weekdayPlans,
    h.weekdayOnce, h.weekdayDays, h.itemIds, h.positions,
    h.completed⟩

------------------------------------------------------------
-- Changes of Items
------------------------------------------------------------

/- What an item is and where it stands. -/
def placeOf (i : ScheduleItem) : String × String × Int × Int :=
  (i.id, i.planId, i.week, i.position)

theorem positionsOf_eq
    (planId : String)
    (week : Int)
    (items : List ScheduleItem) :
    positionsOf planId week items =
      ((items.map placeOf).filter (fun p =>
        p.2.1 == planId && p.2.2.1 == week)).map (·.2.2.2) := by
  unfold positionsOf
  rw [List.filter_map, List.map_map]
  rfl

/- Items may change if they stay where they are. -/
theorem Sound.of_places
    {t : Tables}
    {items : List ScheduleItem}
    (h : t.Sound)
    (hPlaces : items.map placeOf = t.items.map placeOf)
    (hCompleted :
      ∀ i ∈ items, i.completedAt.isSome = i.completed) :
    ({ t with items := items } : Tables).Sound where
  owners := h.owners
  planIds := h.planIds
  itemPlans := by
    intro i hi
    have hMem : placeOf i ∈ t.items.map placeOf := by
      rw [← hPlaces]
      exact List.mem_map_of_mem hi
    rcases List.mem_map.mp hMem with ⟨j, hj, hSame⟩
    have hPlan : j.planId = i.planId :=
      congrArg (fun p => p.2.1) hSame
    rw [← hPlan]
    exact h.itemPlans j hj
  weekdayPlans := h.weekdayPlans
  weekdayOnce := h.weekdayOnce
  weekdayDays := h.weekdayDays
  itemIds := by
    have hIds := congrArg (List.map (·.1)) hPlaces
    rw [List.map_map, List.map_map] at hIds
    change (items.map ((·.1) ∘ placeOf)).Nodup
    rw [hIds]
    exact h.itemIds
  positions := by
    intro planId week
    simp only [positionsOf_eq, hPlaces]
    rw [← positionsOf_eq]
    exact h.positions planId week
  completed := hCompleted

/- Dates do not matter. -/
theorem Sound.redated
    {t : Tables}
    (h : t.Sound)
    (writes : List (String × Timestamp)) :
    (t.redated writes).Sound := by
  have hUndated := redateAll_undated writes t.items
  apply h.of_places
  · exact map_eq_of_undated hUndated placeOf (fun _ => rfl)
  · intro i hi
    have hMem : i.undated ∈ t.items.map (·.undated) := by
      rw [← hUndated]
      exact List.mem_map_of_mem hi
    rcases List.mem_map.mp hMem with ⟨j, hj, hSame⟩
    have hUndatedCompleted :
        i.undated.completedAt.isSome = i.undated.completed := by
      rw [← hSame]
      exact h.completed j hj
    exact hUndatedCompleted

/- An item is marked together with the moment of its completion. -/
theorem Sound.setCompleted
    {t : Tables}
    {planId id : String}
    {completed : Bool}
    {moment : Option Timestamp}
    (h : t.Sound)
    (hMoment : moment.isSome = completed) :
    (t.setCompleted planId id completed moment).Sound := by
  apply h.of_places
  · rw [List.map_map]
    apply List.map_congr_left
    intro i _
    simp only [Function.comp_apply]
    split <;> rfl
  · intro i hi
    rcases List.mem_map.mp hi with ⟨j, hj, rfl⟩
    split
    · exact hMoment
    · exact h.completed j hj

------------------------------------------------------------
-- Changes of Plans and Weekdays
------------------------------------------------------------

/- Of the items of some plans, those of each plan are kept or not. -/
theorem positionsOf_filter
    (planId : String)
    (week : Int)
    (keep : String → Bool)
    (items : List ScheduleItem) :
    positionsOf planId week
        (items.filter (fun i => keep i.planId)) =
      if keep planId then positionsOf planId week items else [] := by
  unfold positionsOf
  rw [List.filter_filter]
  split
  · rename_i hKeep
    congr 1
    apply List.filter_congr
    intro i _
    by_cases hPlan : i.planId = planId
    · rw [hPlan, hKeep, Bool.and_true]
    · simp [hPlan]
  · rename_i hKeep
    rw [List.map_eq_nil_iff, List.filter_eq_nil_iff]
    intro i _ hBoth
    rw [Bool.and_eq_true, Bool.and_eq_true] at hBoth
    have hPlan : i.planId = planId := by simpa using hBoth.1.1
    rw [hPlan] at hBoth
    exact hKeep hBoth.2

theorem positionsOf_append
    (planId : String)
    (week : Int)
    (items others : List ScheduleItem) :
    positionsOf planId week (items ++ others) =
      positionsOf planId week items ++
        positionsOf planId week others := by
  unfold positionsOf
  rw [List.filter_append, List.map_append]

theorem positionsOf_eq_nil
    {planId : String}
    {week : Int}
    {items : List ScheduleItem}
    (hNone : ∀ i ∈ items, i.planId ≠ planId) :
    positionsOf planId week items = [] := by
  unfold positionsOf
  rw [List.map_eq_nil_iff, List.filter_eq_nil_iff]
  intro i hi
  simp [hNone i hi]

/- Plans go together with all that names them. -/
theorem Sound.deletePlans
    {t : Tables}
    (h : t.Sound)
    (doomed : StudyPlan → Bool) :
    (t.deletePlans doomed).Sound := by
  have hLeft :
      ∀ id, id ∈ t.plans.map (·.id) →
        id ∉ (t.plans.filter doomed).map (·.id) →
        id ∈ (t.deletePlans doomed).plans.map (·.id) := by
    intro id hId hNot
    rcases List.mem_map.mp hId with ⟨p, hp, rfl⟩
    apply List.mem_map_of_mem
    apply List.mem_filter.mpr
    refine ⟨hp, ?_⟩
    rcases hDoomed : doomed p with _ | _
    · rfl
    · exact (hNot (List.mem_map_of_mem
        (List.mem_filter.mpr ⟨hp, hDoomed⟩))).elim
  exact
    { owners := h.owners.sublist (List.filter_sublist.map _)
      planIds := h.planIds.sublist (List.filter_sublist.map _)
      itemPlans := by
        intro i hi
        rcases List.mem_filter.mp hi with ⟨hMem, hKept⟩
        exact hLeft _ (h.itemPlans i hMem) (by simpa using hKept)
      weekdayPlans := by
        intro c hc
        rcases List.mem_filter.mp hc with ⟨hMem, hKept⟩
        exact hLeft _ (h.weekdayPlans c hMem) (by simpa using hKept)
      weekdayOnce :=
        h.weekdayOnce.sublist (List.filter_sublist.map _)
      weekdayDays := by
        intro c hc
        exact h.weekdayDays c (List.mem_filter.mp hc).1
      itemIds := h.itemIds.sublist (List.filter_sublist.map _)
      positions := by
        intro planId week
        have hFilter :=
          positionsOf_filter planId week
            (fun id =>
              !((t.plans.filter doomed).map (·.id)).contains id)
            t.items
        change
          ∃ k, (positionsOf planId week (t.items.filter _)).Perm _
        rw [hFilter]
        split
        · exact h.positions planId week
        · exact ⟨0, List.Perm.refl _⟩
      completed := by
        intro i hi
        exact h.completed i (List.mem_filter.mp hi).1 }

/- Valid days may be chosen for a plan that is there. -/
theorem Sound.chooseWeekdays
    {t : Tables}
    {choice : WeekdayChoice}
    (h : t.Sound)
    (hPlan : choice.planId ∈ t.plans.map (·.id))
    (hDays : ValidDays choice.days) :
    (t.chooseWeekdays choice).Sound where
  owners := h.owners
  planIds := h.planIds
  itemPlans := h.itemPlans
  weekdayPlans := by
    intro c hc
    rcases List.mem_append.mp hc with hOld | hNew
    · exact h.weekdayPlans c (List.mem_filter.mp hOld).1
    · rw [List.mem_singleton.mp hNew]
      exact hPlan
  weekdayOnce := by
    change ((t.weekdays.filter _ ++ [choice]).map _).Nodup
    rw [List.map_append, List.nodup_append]
    refine ⟨h.weekdayOnce.sublist (List.filter_sublist.map _),
      by simp, ?_⟩
    intro id hId other hOther hSame
    rcases List.mem_map.mp hId with ⟨old, hOld, rfl⟩
    have hApart := (List.mem_filter.mp hOld).2
    have hChoice : other = choice.planId := by simpa using hOther
    rw [hSame, hChoice] at hApart
    simp at hApart
  weekdayDays := by
    intro c hc
    rcases List.mem_append.mp hc with hOld | hNew
    · exact h.weekdayDays c (List.mem_filter.mp hOld).1
    · rw [List.mem_singleton.mp hNew]
      exact hDays
  itemIds := h.itemIds
  positions := h.positions
  completed := h.completed

/- A plan with a new id may be added for an owner who has none. -/
theorem Sound.insertPlan
    {t : Tables}
    {row : StudyPlan}
    (h : t.Sound)
    (hOwner : row.ownerId ∉ t.plans.map (·.ownerId))
    (hId : row.id ∉ t.plans.map (·.id)) :
    (t.insertPlan row).Sound where
  owners := by
    change ((t.plans ++ [row]).map _).Nodup
    rw [List.map_append, List.nodup_append]
    refine ⟨h.owners, by simp, ?_⟩
    intro owner hOld other hOther hSame
    rw [hSame, List.mem_singleton.mp hOther] at hOld
    exact hOwner hOld
  planIds := by
    change ((t.plans ++ [row]).map _).Nodup
    rw [List.map_append, List.nodup_append]
    refine ⟨h.planIds, by simp, ?_⟩
    intro id hOld other hOther hSame
    rw [hSame, List.mem_singleton.mp hOther] at hOld
    exact hId hOld
  itemPlans := by
    intro i hi
    change i.planId ∈ (t.plans ++ [row]).map _
    rw [List.map_append]
    exact List.mem_append_left _ (h.itemPlans i hi)
  weekdayPlans := by
    intro c hc
    change c.planId ∈ (t.plans ++ [row]).map _
    rw [List.map_append]
    exact List.mem_append_left _ (h.weekdayPlans c hc)
  weekdayOnce := h.weekdayOnce
  weekdayDays := h.weekdayDays
  itemIds := h.itemIds
  positions := h.positions
  completed := h.completed

/- Items that are sound by themselves may be added to a plan without items. -/
theorem Sound.insertItems
    {t : Tables}
    {planId : String}
    {items : List ScheduleItem}
    (h : t.Sound)
    (hPlan : planId ∈ t.plans.map (·.id))
    (hEmpty : ∀ i ∈ t.items, i.planId ≠ planId)
    (hItems : ∀ i ∈ items, i.planId = planId)
    (hNodup : (items.map (·.id)).Nodup)
    (hNew : ∀ i ∈ items, ∀ j ∈ t.items, j.id ≠ i.id)
    (hPositions :
      ∀ week, ∃ k,
        (positionsOf planId week items).Perm (countingTo k))
    (hCompleted :
      ∀ i ∈ items, i.completedAt.isSome = i.completed) :
    (t.insertItems items).Sound where
  owners := h.owners
  planIds := h.planIds
  itemPlans := by
    intro i hi
    rcases List.mem_append.mp hi with hOld | hAdded
    · exact h.itemPlans i hOld
    · rw [hItems i hAdded]
      exact hPlan
  weekdayPlans := h.weekdayPlans
  weekdayOnce := h.weekdayOnce
  weekdayDays := h.weekdayDays
  itemIds := by
    change ((t.items ++ items).map _).Nodup
    rw [List.map_append, List.nodup_append]
    refine ⟨h.itemIds, hNodup, ?_⟩
    intro id hId other hOther
    rcases List.mem_map.mp hId with ⟨j, hj, rfl⟩
    rcases List.mem_map.mp hOther with ⟨i, hi, rfl⟩
    exact hNew i hi j hj
  positions := by
    intro other week
    change ∃ k, (positionsOf other week (t.items ++ items)).Perm _
    rw [positionsOf_append]
    by_cases hSame : other = planId
    · rw [hSame, positionsOf_eq_nil hEmpty, List.nil_append]
      exact hPositions week
    · have hNone : ∀ i ∈ items, i.planId ≠ other := by
        intro i hi hOther
        exact hSame (hOther.symm.trans (hItems i hi))
      rw [positionsOf_eq_nil hNone, List.append_nil]
      exact h.positions other week
  completed := by
    intro i hi
    rcases List.mem_append.mp hi with hOld | hAdded
    · exact h.completed i hOld
    · exact hCompleted i hAdded

/- A new plan may stand in place of those of its owner. -/
theorem Sound.replaced
    {t : Tables}
    {row : StudyPlan}
    {items : List ScheduleItem}
    {choice : WeekdayChoice}
    (h : t.Sound)
    (hNew : ¬ t.Mentions row.id)
    (hItems : ∀ i ∈ items, i.planId = row.id)
    (hNodup : (items.map (·.id)).Nodup)
    (hNewItems : ∀ i ∈ items, ¬ t.Mentions i.id)
    (hPositions :
      ∀ week, ∃ k,
        (positionsOf row.id week items).Perm (countingTo k))
    (hCompleted :
      ∀ i ∈ items, i.completedAt.isSome = i.completed)
    (hChoice : choice.planId = row.id)
    (hDays : ValidDays choice.days) :
    (t.replaced row items choice).Sound := by
  have hDeleted :=
    h.deletePlans (fun p => p.ownerId == row.ownerId)
  have hRow :
      row.id ∈
        ((t.deletePlans (fun p => p.ownerId == row.ownerId)).insertPlan
          row).plans.map (·.id) := by
    simp [Tables.insertPlan]
  unfold Tables.replaced
  apply Sound.chooseWeekdays _ _ hDays
  · apply (hDeleted.insertPlan _ _).insertItems hRow
      (items_apart hNew) hItems hNodup _ hPositions hCompleted
    · intro hMem
      rcases List.mem_map.mp hMem with ⟨p, hp, hOwner⟩
      have hOther := (List.mem_filter.mp hp).2
      simp [hOwner] at hOther
    · intro hMem
      rcases List.mem_map.mp hMem with ⟨p, hp, hId⟩
      exact hNew (Or.inl ⟨p, (List.mem_filter.mp hp).1, hId⟩)
    · intro i hi j hj hSame
      have hOld : j ∈ t.items := (List.mem_filter.mp hj).1
      exact hNewItems i hi
        (Or.inr (Or.inl ⟨j, hOld, Or.inl hSame⟩))
  · rw [hChoice]
    exact hRow

end Tables

end Timetable.Store
