import Mathlib.Data.List.Nodup
import Timetable.Proofs.Store.Ownership

/-
  This file hides the rows of one owner, and tells which
  statements neither change these rows nor let them be seen.

  `Tables.concealing` leaves nothing of the rows of an owner but
  the id of a plan that is named.  A statement that spares
  the rows, or is permitted to read, does the same to the
  hidden tables as to the tables themselves.

  Key definitions include:
    * `Tables.concealing`
    * `Secret`
    * `Secret.Guards`
    * `Secret.veil`
    * `Secret.Spares`
    * `Secret.Permits`

  Main theorems include:
    * `Secret.spared`
    * `Secret.permitted`
-/

namespace Timetable

open Store

------------------------------------------------------------
-- Hiding Rows
------------------------------------------------------------

namespace Store

/- Of a plan of an owner only its id is shown. -/
def StudyPlan.masked
    (owner : String)
    (p : StudyPlan) : StudyPlan :=
  if p.ownerId == owner then
    { StudyPlan.blank with
      id := p.id, ownerId := p.ownerId
      vacations := some StudyPlan.noVacations }
  else p

namespace StudyPlan

@[simp] theorem masked_id
    (owner : String)
    (p : StudyPlan) :
    (p.masked owner).id = p.id := by
  unfold masked
  split <;> rfl

@[simp] theorem masked_ownerId
    (owner : String)
    (p : StudyPlan) :
    (p.masked owner).ownerId = p.ownerId := by
  unfold masked
  split <;> rfl

theorem masked_of_ne
    {owner : String}
    {p : StudyPlan}
    (h : p.ownerId ≠ owner) :
    p.masked owner = p := by
  simp [masked, h]

/- It makes no difference whether the plan was read before. -/
theorem masked_asRead
    (owner : String)
    (p : StudyPlan) :
    (p.masked owner).asRead = p.asRead.masked owner := by
  have hOwner : p.asRead.ownerId = p.ownerId := rfl
  unfold masked
  rw [hOwner]
  split <;> rfl

end StudyPlan

/- A plan is that of another owner, or is named anyway. -/
def StudyPlan.isNoticed
    (owner named : String)
    (p : StudyPlan) : Bool :=
  !(p.ownerId == owner) || p.id == named

/-
  Tables without the rows of an owner.  If the plan with an
  id that is named anyway is one of them, it stays, masked.
-/
def Tables.concealing
    (owner named : String)
    (t : Tables) : Tables :=
  { t with
    plans :=
      (t.plans.filter (·.isNoticed owner named)).map
        (·.masked owner)
    items := (t.rowsBesides owner).items
    weekdays := (t.rowsBesides owner).weekdays }

end Store

------------------------------------------------------------
-- Secrets
------------------------------------------------------------

/-
  The rows of an owner that somebody else's request must not
  change, the jobs that there were before the request, and
  the plan that the request names.  The rows may be shown to
  some, but not to others.
-/
structure Secret where
  owner : String
  rows : Rows
  jobs : List DateJob
  named : String
  shown : Bool

namespace Secret

variable (S : Secret)

/- The ids of the plans. -/
def planIds : List String :=
  S.rows.plans.map (·.id)

/- The ids of the items. -/
def itemIds : List String :=
  S.rows.items.map (·.id)

/- An item is one of the rows. -/
def ownsItem (i : ScheduleItem) : Bool :=
  S.planIds.contains i.planId

/- A choice of weekdays is one of the rows. -/
def ownsChoice (c : WeekdayChoice) : Bool :=
  S.planIds.contains c.planId

/- The rows are in the tables, and share no id with other rows. -/
structure Guards (t : Tables) : Prop where
  plans : t.plans.filter (fun p => p.ownerId == S.owner) = S.rows.plans
  items : t.items.filter S.ownsItem = S.rows.items
  weekdays : t.weekdays.filter S.ownsChoice = S.rows.weekdays
  planIds : ∀ p ∈ t.plans, p.id ∈ S.planIds → p.ownerId = S.owner
  itemIds : ∀ i ∈ t.items, i.id ∈ S.itemIds → i.planId ∈ S.planIds

/- The tables as they are seen. -/
def veil (t : Tables) : Tables :=
  if S.shown then t else t.concealing S.owner S.named

/- A plan as it is seen. -/
def mask (p : StudyPlan) : StudyPlan :=
  if S.shown then p else p.masked S.owner

variable {S}

theorem mem_planIds
    {t : Tables}
    (h : S.Guards t)
    {p : StudyPlan}
    (hp : p ∈ t.plans) :
    p.id ∈ S.planIds ↔ p.ownerId = S.owner := by
  constructor
  · exact h.planIds p hp
  · intro hOwner
    refine List.mem_map_of_mem ?_
    rw [← h.plans]
    exact List.mem_filter.mpr ⟨hp, by simpa using hOwner⟩

theorem mem_itemIds
    {t : Tables}
    (h : S.Guards t)
    {i : ScheduleItem}
    (hi : i ∈ t.items) :
    i.id ∈ S.itemIds ↔ i.planId ∈ S.planIds := by
  constructor
  · exact h.itemIds i hi
  · intro hPlan
    refine List.mem_map_of_mem ?_
    rw [← h.items]
    exact List.mem_filter.mpr ⟨hi, by simpa [ownsItem] using hPlan⟩

theorem Guards.planIdsOf
    {t : Tables}
    (h : S.Guards t) :
    t.planIdsOf S.owner = S.planIds := by
  unfold Tables.planIdsOf Secret.planIds
  rw [h.plans]

/- The rows are those of the owner. -/
theorem Guards.rowsOf
    {t : Tables}
    (h : S.Guards t) :
    t.rowsOf S.owner = S.rows := by
  unfold Tables.rowsOf
  rw [h.planIdsOf, h.plans]
  congr 1
  · exact h.items
  · exact h.weekdays

/- In tables with distinct ids, the rows of an owner share none. -/
theorem guards_of_nodup
    {t : Tables}
    (hRows : S.rows = t.rowsOf S.owner)
    (hPlans : (t.plans.map (·.id)).Nodup)
    (hItems : (t.items.map (·.id)).Nodup) :
    S.Guards t where
  plans := by rw [hRows]; rfl
  items := by
    unfold ownsItem Secret.planIds
    rw [hRows]
    rfl
  weekdays := by
    unfold ownsChoice Secret.planIds
    rw [hRows]
    rfl
  planIds := by
    intro p hp hId
    unfold Secret.planIds at hId
    rw [hRows] at hId
    rcases List.mem_map.mp hId with ⟨q, hq, hSame⟩
    rcases List.mem_filter.mp hq with ⟨hMem, hOwner⟩
    rw [List.inj_on_of_nodup_map hPlans hp hMem hSame.symm]
    simpa using hOwner
  itemIds := by
    intro i hi hId
    unfold Secret.itemIds at hId
    rw [hRows] at hId
    rcases List.mem_map.mp hId with ⟨j, hj, hSame⟩
    rcases List.mem_filter.mp hj with ⟨hMem, hPlan⟩
    rw [List.inj_on_of_nodup_map hItems hi hMem hSame.symm]
    unfold Secret.planIds
    rw [hRows]
    exact List.contains_iff_mem.mp hPlan

/- What is seen of guarded tables when the rows are hidden. -/
theorem Guards.concealing
    {t : Tables}
    (h : S.Guards t) :
    t.concealing S.owner S.named =
      { t with
        plans :=
          (t.plans.filter (·.isNoticed S.owner S.named)).map
            (·.masked S.owner)
        items := t.items.filter (fun i => !S.ownsItem i)
        weekdays := t.weekdays.filter (fun c => !S.ownsChoice c) } := by
  unfold Tables.concealing Tables.rowsBesides
  rw [h.planIdsOf]
  rfl

------------------------------------------------------------
-- Changes of the Tables
------------------------------------------------------------

/-
  A change that leaves the rows alone, and makes of the tables
  as they are seen what is seen of the changed tables.
-/
structure Unseen
    (S : Secret)
    (change : Tables → Tables) : Prop where
  guards : ∀ t, S.Guards t → S.Guards (change t)
  concealing :
    ∀ t, S.Guards t →
      (change t).concealing S.owner S.named =
        change (t.concealing S.owner S.named)

theorem Unseen.veil
    {change : Tables → Tables}
    (h : S.Unseen change)
    {t : Tables}
    (hGuards : S.Guards t) :
    S.veil (change t) = change (S.veil t) := by
  unfold Secret.veil
  split
  · rfl
  · exact h.concealing t hGuards

/- A change of rows that are not looked for does not show. -/
theorem filter_map_apart
    {α : Type}
    {p : α → Bool}
    {f : α → α}
    {xs : List α}
    (h : ∀ x ∈ xs, p (f x) = p x ∧ (p x = true → f x = x)) :
    (xs.map f).filter p = xs.filter p := by
  induction xs with
  | nil => rfl
  | cons x rest ih =>
      rcases h x (by simp) with ⟨hLooked, hSame⟩
      have hRest := ih (fun y hy => h y (by simp [hy]))
      by_cases hx : p x = true
      · rw [List.map_cons, hSame hx, List.filter_cons_of_pos hx,
          List.filter_cons_of_pos hx, hRest]
      · rw [List.map_cons, List.filter_cons_of_neg (by rwa [hLooked]),
          List.filter_cons_of_neg hx, hRest]

/- Nor does the removal of such rows. -/
theorem filter_filter_apart
    {α : Type}
    {p q : α → Bool}
    {xs : List α}
    (h : ∀ x ∈ xs, p x = true → q x = true) :
    (xs.filter q).filter p = xs.filter p := by
  rw [List.filter_filter]
  apply List.filter_congr
  intro x hx
  by_cases hp : p x = true
  · simp [hp, h x hx hp]
  · simp [hp]

/- A plan of somebody else is inserted. -/
theorem unseen_insertPlan
    {p : StudyPlan}
    (hOwner : p.ownerId ≠ S.owner)
    (hId : p.id ∉ S.planIds) :
    S.Unseen (·.insertPlan p) where
  guards := by
    intro t h
    refine ⟨?_, h.items, h.weekdays, ?_, h.itemIds⟩
    · change (t.plans ++ [p]).filter _ = _
      rw [List.filter_append, h.plans]
      simp [hOwner]
    · intro q hq
      rcases List.mem_append.mp hq with hq | hq
      · exact h.planIds q hq
      · rw [List.mem_singleton.mp hq]
        exact fun hMem => absurd hMem hId
  concealing := by
    intro t h
    have hIds :
        (t.insertPlan p).planIdsOf S.owner = t.planIdsOf S.owner := by
      simp [Tables.planIdsOf, Tables.insertPlan, hOwner]
    unfold Tables.concealing Tables.rowsBesides
    rw [hIds]
    simp [Tables.insertPlan, StudyPlan.isNoticed, hOwner,
      StudyPlan.masked_of_ne]

/- A plan of somebody else is patched. -/
theorem unseen_patchPlan
    {p : StudyPlan}
    (hId : p.id ∉ S.planIds) :
    S.Unseen (·.patchPlan p) := by
  have hGuards : ∀ t, S.Guards t → S.Guards (t.patchPlan p) := by
    intro t h
    refine ⟨?_, h.items, h.weekdays, ?_, h.itemIds⟩
    · rw [← h.plans]
      apply filter_map_apart
      intro q hq
      refine ⟨by split <;> rfl, ?_⟩
      intro hOwner
      have hMem := (mem_planIds h hq).mpr (by simpa using hOwner)
      have hOther : q.id ≠ p.id := fun hSame => hId (hSame ▸ hMem)
      simp [hOther]
    · intro q hq
      rcases List.mem_map.mp hq with ⟨old, hOld, rfl⟩
      have hKept := h.planIds old hOld
      split
      · exact hKept
      · exact hKept
  refine ⟨hGuards, ?_⟩
  intro t h
  rw [(hGuards t h).concealing, h.concealing]
  simp only [Tables.patchPlan, List.filter_map, List.map_map]
  congr 1
  have hKept :
      t.plans.filter
        ((·.isNoticed S.owner S.named) ∘
          (fun row =>
            if row.id == p.id then Tables.patchRow p row else row)) =
        t.plans.filter (·.isNoticed S.owner S.named) := by
    apply List.filter_congr
    intro q _
    simp only [Function.comp_apply]
    split <;> rfl
  rw [hKept]
  apply List.map_congr_left
  intro q hq
  have hMem := (List.mem_filter.mp hq).1
  simp only [Function.comp_apply, StudyPlan.masked_id]
  split
  · rename_i hSame
    have hOther : q.ownerId ≠ S.owner := by
      intro hOwner
      have hIn := (mem_planIds h hMem).mpr hOwner
      rw [beq_iff_eq.mp hSame] at hIn
      exact hId hIn
    rw [StudyPlan.masked_of_ne hOther,
      StudyPlan.masked_of_ne (by exact hOther)]
  · rfl

/- Plans of others are deleted, with all that belongs to them. -/
theorem unseen_deletePlans
    {doomed : StudyPlan → Bool}
    (hDoomed : ∀ p, doomed p = true → p.ownerId ≠ S.owner)
    (hMasked : ∀ p, doomed (p.masked S.owner) = doomed p) :
    S.Unseen (·.deletePlans doomed) := by
  have hApart :
      ∀ t, S.Guards t →
        ∀ id ∈ (t.plans.filter doomed).map (·.id),
          id ∉ S.planIds := by
    intro t h id hMem hIn
    rcases List.mem_map.mp hMem with ⟨p, hp, rfl⟩
    rcases List.mem_filter.mp hp with ⟨hPlan, hGone⟩
    exact hDoomed p hGone ((mem_planIds h hPlan).mp hIn)
  have hGuards : ∀ t, S.Guards t → S.Guards (t.deletePlans doomed) := by
    intro t h
    refine ⟨?_, ?_, ?_, ?_, ?_⟩
    · rw [← h.plans]
      apply filter_filter_apart
      intro p _ hOwner
      by_cases hGone : doomed p = true
      · exact absurd (by simpa using hOwner) (hDoomed p hGone)
      · simp [hGone]
    · rw [← h.items]
      apply filter_filter_apart
      intro i _ hOwns
      have hIn : i.planId ∈ S.planIds := List.contains_iff_mem.mp hOwns
      have hOut := fun hMem => hApart t h i.planId hMem hIn
      simpa using hOut
    · rw [← h.weekdays]
      apply filter_filter_apart
      intro c _ hOwns
      have hIn : c.planId ∈ S.planIds := List.contains_iff_mem.mp hOwns
      have hOut := fun hMem => hApart t h c.planId hMem hIn
      simpa using hOut
    · intro p hp
      exact h.planIds p (List.mem_filter.mp hp).1
    · intro i hi
      exact h.itemIds i (List.mem_filter.mp hi).1
  refine ⟨hGuards, ?_⟩
  intro t h
  rw [(hGuards t h).concealing, h.concealing]
  have hSame : doomed ∘ (·.masked S.owner) = doomed := funext hMasked
  have hIds :
      (((t.plans.filter (·.isNoticed S.owner S.named)).map
        (·.masked S.owner)).filter doomed).map (·.id) =
        (t.plans.filter doomed).map (·.id) := by
    rw [List.filter_map, hSame, List.map_map, filter_filter_apart]
    · apply List.map_congr_left
      intro p _
      exact StudyPlan.masked_id S.owner p
    · intro p _ hGone
      simp [StudyPlan.isNoticed, hDoomed p hGone]
  unfold Tables.deletePlans
  simp only [hIds]
  congr 1
  · rw [List.filter_map]
    congr 1
    rw [List.filter_filter, List.filter_filter]
    apply List.filter_congr
    intro p _
    simp [hMasked, Bool.and_comm]
  · rw [List.filter_filter, List.filter_filter]
    simp only [Bool.and_comm]
  · rw [List.filter_filter, List.filter_filter]
    simp only [Bool.and_comm]

/- Items of others are inserted. -/
theorem unseen_insertItems
    {items : List ScheduleItem}
    (hItems : ∀ i ∈ items, i.planId ∉ S.planIds ∧ i.id ∉ S.itemIds) :
    S.Unseen (·.insertItems items) := by
  have hNone : items.filter S.ownsItem = [] := by
    apply List.filter_eq_nil_iff.mpr
    intro i hi
    simpa [ownsItem] using (hItems i hi).1
  have hAll : items.filter (fun i => !S.ownsItem i) = items := by
    apply List.filter_eq_self.mpr
    intro i hi
    simpa [ownsItem] using (hItems i hi).1
  have hGuards : ∀ t, S.Guards t → S.Guards (t.insertItems items) := by
    intro t h
    refine ⟨h.plans, ?_, h.weekdays, h.planIds, ?_⟩
    · change (t.items ++ items).filter _ = _
      rw [List.filter_append, h.items, hNone, List.append_nil]
    · intro i hi
      rcases List.mem_append.mp hi with hi | hi
      · exact h.itemIds i hi
      · exact fun hMem => absurd hMem (hItems i hi).2
  refine ⟨hGuards, ?_⟩
  intro t h
  rw [(hGuards t h).concealing, h.concealing]
  simp only [Tables.insertItems, List.filter_append, hAll]

/- Items of others are changed; they keep their plans and ids. -/
theorem unseen_map_items
    {change : ScheduleItem → ScheduleItem}
    (hPlan : ∀ i, (change i).planId = i.planId)
    (hId : ∀ i, (change i).id = i.id)
    (hApart :
      ∀ i, i.planId ∈ S.planIds → i.id ∈ S.itemIds → change i = i) :
    S.Unseen (fun t => { t with items := t.items.map change }) := by
  have hOwns : S.ownsItem ∘ change = S.ownsItem := by
    funext i
    simp [ownsItem, hPlan]
  have hGuards :
      ∀ t, S.Guards t →
        S.Guards { t with items := t.items.map change } := by
    intro t h
    refine ⟨h.plans, ?_, h.weekdays, h.planIds, ?_⟩
    · rw [← h.items]
      apply filter_map_apart
      intro i hi
      refine ⟨congrFun hOwns i, ?_⟩
      intro hMine
      have hIn : i.planId ∈ S.planIds := List.contains_iff_mem.mp hMine
      exact hApart i hIn ((mem_itemIds h hi).mpr hIn)
    · intro i hi
      rcases List.mem_map.mp hi with ⟨old, hOld, rfl⟩
      rw [hPlan, hId]
      exact h.itemIds old hOld
  refine ⟨hGuards, ?_⟩
  intro t h
  rw [(hGuards t h).concealing, h.concealing]
  simp only [List.filter_map]
  congr 2
  apply List.filter_congr
  intro i _
  simp [ownsItem, hPlan]

/- The weekdays of a plan of somebody else are chosen. -/
theorem unseen_chooseWeekdays
    {c : WeekdayChoice}
    (hPlan : c.planId ∉ S.planIds) :
    S.Unseen (·.chooseWeekdays c) := by
  have hApart : S.ownsChoice c = false := by
    simpa [ownsChoice] using hPlan
  have hGuards : ∀ t, S.Guards t → S.Guards (t.chooseWeekdays c) := by
    intro t h
    refine ⟨h.plans, h.items, ?_, h.planIds, h.itemIds⟩
    change (t.weekdays.filter _ ++ [c]).filter _ = _
    rw [List.filter_append, filter_filter_apart]
    · simp [h.weekdays, hApart]
    · intro old _ hOwns
      have hIn : old.planId ∈ S.planIds := List.contains_iff_mem.mp hOwns
      have hOther : old.planId ≠ c.planId :=
        fun hSame => hPlan (hSame ▸ hIn)
      simpa using hOther
  refine ⟨hGuards, ?_⟩
  intro t h
  rw [(hGuards t h).concealing, h.concealing]
  simp only [Tables.chooseWeekdays, List.filter_append,
    List.filter_filter, Bool.and_comm]
  simp [hApart]

------------------------------------------------------------
-- Statements that Change Tables
------------------------------------------------------------

/- A change that is about rows of others only. -/
def Spares (S : Secret) : Change → Prop
| .insertPlan p => p.ownerId ≠ S.owner ∧ p.id ∉ S.planIds
| .insertCore p => p.ownerId ≠ S.owner ∧ p.id ∉ S.planIds
| .patchPlan p => p.id ∉ S.planIds
| .deleteOwned owner => owner ≠ S.owner
| .deletePlan _ owner => owner ≠ S.owner
| .insertItems items =>
    ∀ i ∈ items, i.planId ∉ S.planIds ∧ i.id ∉ S.itemIds
| .setDate id _ => id ∉ S.itemIds
| .chooseWeekdays c => c.planId ∉ S.planIds

/- Such a change leaves the rows alone. -/
theorem spared
    {c : Change}
    (h : S.Spares c) :
    S.Unseen c.run := by
  cases c with
  | insertPlan p => exact unseen_insertPlan h.1 h.2
  | insertCore p => exact unseen_insertPlan (by exact h.1) h.2
  | patchPlan p => exact unseen_patchPlan h
  | deleteOwned owner =>
      refine unseen_deletePlans ?_ ?_
      · intro p hOwner
        rw [beq_iff_eq.mp hOwner]
        exact h
      · intro p
        rw [StudyPlan.masked_ownerId]
  | deletePlan id owner =>
      refine unseen_deletePlans ?_ ?_
      · intro p hBoth
        rw [beq_iff_eq.mp (Bool.and_eq_true_iff.mp hBoth).2]
        exact h
      · intro p
        rw [StudyPlan.masked_ownerId, StudyPlan.masked_id]
  | insertItems items => exact unseen_insertItems h
  | setDate id date =>
      refine unseen_map_items ?_ ?_ ?_
      · intro i
        split <;> rfl
      · intro i
        split <;> rfl
      · intro i _ hMine
        have hOther : i.id ≠ id := fun hSame => h (hSame ▸ hMine)
        simp [hOther]
  | chooseWeekdays c => exact unseen_chooseWeekdays h

/- Plans of others are found as if nothing were hidden. -/
theorem filter_concealed
    {t : Tables}
    {f : StudyPlan → Bool}
    (hMasked : ∀ p, f (p.masked S.owner) = f p)
    (hOthers : ∀ p ∈ t.plans, f p = true → p.ownerId ≠ S.owner) :
    (t.concealing S.owner S.named).plans.filter f =
      t.plans.filter f := by
  have hSame : f ∘ (·.masked S.owner) = f := funext hMasked
  unfold Tables.concealing
  rw [List.filter_map, hSame, filter_filter_apart]
  · have hUnmasked :
        ∀ p ∈ t.plans.filter f, p.masked S.owner = id p := by
      intro p hp
      rcases List.mem_filter.mp hp with ⟨hMem, hf⟩
      exact StudyPlan.masked_of_ne (hOthers p hMem hf)
    rw [List.map_congr_left hUnmasked, List.map_id]
  · intro p hp hf
    simp [StudyPlan.isNoticed, hOthers p hp hf]

theorem countP_concealed
    {t : Tables}
    {f : StudyPlan → Bool}
    (hMasked : ∀ p, f (p.masked S.owner) = f p)
    (hOthers : ∀ p ∈ t.plans, f p = true → p.ownerId ≠ S.owner) :
    (t.concealing S.owner S.named).plans.countP f =
      t.plans.countP f := by
  rw [List.countP_eq_length_filter, List.countP_eq_length_filter,
    filter_concealed hMasked hOthers]

/- How many rows it touches does not depend on what is hidden. -/
theorem touched_veil
    {c : Change}
    (h : S.Spares c)
    {t : Tables}
    (hGuards : S.Guards t) :
    c.touched (S.veil t) = c.touched t := by
  unfold Secret.veil
  split
  · rfl
  cases c with
  | insertPlan p => rfl
  | insertCore p => rfl
  | patchPlan p =>
      apply countP_concealed
      · intro q
        rw [StudyPlan.masked_id]
      · intro q hq hSame hOwner
        have hIn := (mem_planIds hGuards hq).mpr hOwner
        rw [beq_iff_eq.mp hSame] at hIn
        exact h hIn
  | deleteOwned owner =>
      apply countP_concealed
      · intro q
        rw [StudyPlan.masked_ownerId]
      · intro q _ hOwner
        rw [beq_iff_eq.mp hOwner]
        exact h
  | deletePlan id owner =>
      apply countP_concealed
      · intro q
        rw [StudyPlan.masked_ownerId, StudyPlan.masked_id]
      · intro q _ hBoth
        rw [beq_iff_eq.mp (Bool.and_eq_true_iff.mp hBoth).2]
        exact h
  | insertItems items => rfl
  | setDate id date =>
      rw [hGuards.concealing]
      simp only [Change.touched]
      rw [List.countP_filter]
      apply List.countP_congr
      intro i hi
      constructor
      · intro hBoth
        exact (Bool.and_eq_true_iff.mp hBoth).1
      · intro hSame
        have hOther : i.planId ∉ S.planIds := by
          intro hIn
          have hMine := (mem_itemIds hGuards hi).mpr hIn
          rw [beq_iff_eq.mp hSame] at hMine
          exact h hMine
        simp [hSame, ownsItem, hOther]
  | chooseWeekdays c => rfl

------------------------------------------------------------
-- Statements that Answer with Rows
------------------------------------------------------------

/-
  A lookup that reads rows of others, or rows that may be
  shown.  A plan that is looked up by its id may be anyone's.
-/
def Permits (S : Secret) : Lookup → Prop
| .planById _ => S.shown = true
| .planOfOwner owner => S.shown = true ∨ owner ≠ S.owner
| .itemsOfPlan planId => S.shown = true ∨ planId ∉ S.planIds
| .complete planId _ _ _ => planId ∉ S.planIds
| .weekdaysOfPlan planId => S.shown = true ∨ planId ∉ S.planIds
| .lessons _ => True
| .lessonsById _ => True
| .completedLessons _ _ => True

/- It leaves the rows alone. -/
theorem permitted
    {l : Lookup}
    (h : S.Permits l) :
    S.Unseen l.after := by
  cases l with
  | complete planId id completed moment =>
      refine unseen_map_items ?_ ?_ ?_
      · intro i
        split <;> rfl
      · intro i
        split <;> rfl
      · intro i hMine _
        have hOther : i.planId ≠ planId := fun hSame => h (hSame ▸ hMine)
        simp [Tables.isItemOf, hOther]
  | planById | planOfOwner | itemsOfPlan | weekdaysOfPlan | lessons
  | lessonsById | completedLessons =>
      exact ⟨fun _ hGuards => hGuards, fun _ _ => rfl⟩

/- Rows of others are found as if there were no others. -/
theorem filter_others
    {α : Type}
    {name : α → String}
    {planId : String}
    {xs : List α}
    (h : planId ∉ S.planIds) :
    (xs.filter (fun x => !S.planIds.contains (name x))).filter
        (fun x => name x == planId) =
      xs.filter (fun x => name x == planId) := by
  apply filter_filter_apart
  intro x _ hSame
  rw [beq_iff_eq.mp hSame]
  simpa using h

/- It answers the same when the rows are hidden. -/
theorem rows_veil
    {l : Lookup}
    (h : S.Permits l)
    {t : Tables}
    (hGuards : S.Guards t) :
    l.rows (S.veil t) = l.rows t := by
  unfold Secret.veil
  split
  · rfl
  rename_i hHidden
  cases l with
  | planById id => exact absurd h hHidden
  | planOfOwner owner =>
      rcases h with hShown | hOwner
      · exact absurd hShown hHidden
      have hPlans :
          (t.concealing S.owner S.named).plansOfOwner owner =
            t.plansOfOwner owner := by
        unfold Tables.plansOfOwner
        rw [filter_concealed]
        · intro p
          rw [StudyPlan.masked_ownerId]
        · intro p _ hSame
          rw [beq_iff_eq.mp hSame]
          exact hOwner
      simp only [Lookup.rows, hPlans]
  | itemsOfPlan planId =>
      rcases h with hShown | hPlan
      · exact absurd hShown hHidden
      rw [hGuards.concealing]
      simp only [Lookup.rows, Tables.itemsOfPlan, ownsItem,
        filter_others hPlan]
  | complete planId id completed moment =>
      rw [hGuards.concealing]
      simp only [Lookup.rows]
      apply filter_filter_apart
      intro i _ hSame
      rw [Tables.isItemOf, Bool.and_eq_true_iff] at hSame
      rw [ownsItem, beq_iff_eq.mp hSame.2]
      have hOther : planId ∉ S.planIds := h
      simpa using hOther
  | weekdaysOfPlan planId =>
      rcases h with hShown | hPlan
      · exact absurd hShown hHidden
      rw [hGuards.concealing]
      simp only [Lookup.rows, Tables.choicesOfPlan, ownsChoice,
        filter_others hPlan]
  | lessons filter => rfl
  | lessonsById ids => rfl
  | completedLessons owner course => rfl

@[simp] theorem mask_ownerId
    (p : StudyPlan) :
    (S.mask p).ownerId = p.ownerId := by
  unfold mask
  split
  · rfl
  · exact StudyPlan.masked_ownerId S.owner p

theorem mask_of_ne
    {p : StudyPlan}
    (h : p.ownerId ≠ S.owner) :
    S.mask p = p := by
  unfold mask
  split
  · rfl
  · exact StudyPlan.masked_of_ne h

/- The plan that is named is found, masked. -/
theorem planById_veil
    {id : String}
    (hNamed : S.shown = true ∨ id = S.named)
    (t : Tables) :
    (Lookup.planById id).rows (S.veil t) =
      ((Lookup.planById id).rows t).map S.mask := by
  by_cases hShown : S.shown = true
  · have hMask : S.mask = fun p => p := by
      funext p
      simp [mask, hShown]
    simp only [Secret.veil, hShown, if_true, hMask, List.map_id']
  · have hId : id = S.named := by
      rcases hNamed with hTrue | hId
      · exact absurd hTrue hShown
      · exact hId
    have hMask : S.mask = (·.masked S.owner) := by
      funext p
      simp [mask, hShown]
    have hNoticed :
        (t.plans.filter (·.isNoticed S.owner S.named)).filter
            (fun p => p.id == id) =
          t.plans.filter (fun p => p.id == id) := by
      apply filter_filter_apart
      intro p _ hSame
      rw [hId] at hSame
      simp [StudyPlan.isNoticed, beq_iff_eq.mp hSame]
    have hMasked :
        (fun p : StudyPlan => p.id == id) ∘
            (StudyPlan.masked S.owner) =
          (fun p : StudyPlan => p.id == id) := by
      funext p
      simp
    rw [hMask]
    simp only [Secret.veil, hShown, Lookup.rows, Tables.plansWithId,
      Tables.concealing]
    simp only [Bool.false_eq_true, if_false, List.filter_map, hMasked,
      hNoticed, List.map_map]
    apply List.map_congr_left
    intro p _
    exact StudyPlan.masked_asRead S.owner p

end Secret

end Timetable
