import Timetable.Proofs.Service.Replacement

/-
  This file tells whose the rows of the store are.  A plan
  names its owner; items and weekdays belong to the owner of
  the plan that they name.

  Key definitions include:
    * `Rows`
    * `Tables.planIdsOf`
    * `Tables.rowsOf`
    * `Tables.rowsBesides`
    * `Tables.Mentions`

  Main theorems include:
    * `Tables.rowsOf_replaced`
    * `Tables.rowsBesides_replaced`
-/

namespace Timetable.Store

------------------------------------------------------------
-- Rows of an Owner
------------------------------------------------------------

/- Rows of the tables that have owners. -/
structure Rows where
  plans : List StudyPlan
  items : List ScheduleItem
  weekdays : List WeekdayChoice

namespace Tables

/- The ids of the plans of an owner. -/
def planIdsOf
    (owner : String)
    (t : Tables) : List String :=
  (t.plans.filter (fun p => p.ownerId == owner)).map (·.id)

/- The rows of an owner. -/
def rowsOf
    (owner : String)
    (t : Tables) : Rows where
  plans := t.plans.filter (fun p => p.ownerId == owner)
  items :=
    t.items.filter (fun i => (t.planIdsOf owner).contains i.planId)
  weekdays :=
    t.weekdays.filter (fun c =>
      (t.planIdsOf owner).contains c.planId)

/- The rows that are not those of an owner. -/
def rowsBesides
    (owner : String)
    (t : Tables) : Rows where
  plans := t.plans.filter (fun p => !(p.ownerId == owner))
  items :=
    t.items.filter (fun i => !(t.planIdsOf owner).contains i.planId)
  weekdays :=
    t.weekdays.filter (fun c =>
      !(t.planIdsOf owner).contains c.planId)

/- An id occurs in the tables, as that of a plan or an item. -/
def Mentions
    (t : Tables)
    (id : String) : Prop :=
  (∃ p ∈ t.plans, p.id = id) ∨
    (∃ i ∈ t.items, i.id = id ∨ i.planId = id) ∨
    ∃ c ∈ t.weekdays, c.planId = id

------------------------------------------------------------
-- Rows after a Replacement
------------------------------------------------------------

section Replacement

variable {row : StudyPlan}
variable {items : List ScheduleItem}
variable {choice : WeekdayChoice}
variable {t : Tables}

theorem replaced_plans :
    (t.replaced row items choice).plans =
      (t.rowsBesides row.ownerId).plans ++ [row] :=
  rfl

theorem replaced_items :
    (t.replaced row items choice).items =
      (t.rowsBesides row.ownerId).items ++ items :=
  rfl

/- Rows that name a plan, behind rows that do not. -/
theorem filter_naming
    {α : Type}
    {name : α → String}
    {id : String}
    {old new : List α}
    (hOld : ∀ x ∈ old, name x ≠ id)
    (hNew : ∀ x ∈ new, name x = id) :
    (old ++ new).filter (fun x => [id].contains (name x)) = new ∧
      (old ++ new).filter (fun x => !([id].contains (name x))) =
        old := by
  simp only [List.filter_append]
  constructor
  · rw [List.filter_eq_nil_iff.mpr (by simpa using hOld),
      List.filter_eq_self.mpr (by simpa using hNew),
      List.nil_append]
  · rw [List.filter_eq_self.mpr (by simpa using hOld),
      List.filter_eq_nil_iff.mpr (by simpa using hNew),
      List.append_nil]

/- The items of other plans do not name a new plan. -/
theorem items_apart
    (hNew : ¬ t.Mentions row.id)
    (i : ScheduleItem)
    (hi : i ∈ (t.rowsBesides row.ownerId).items) :
    i.planId ≠ row.id := by
  intro hSame
  have hMem : i ∈ t.items := (List.mem_filter.mp hi).1
  exact hNew (Or.inr (Or.inl ⟨i, hMem, Or.inr hSame⟩))

/- Nor do the weekdays of other plans. -/
theorem weekdays_apart
    (hNew : ¬ t.Mentions row.id)
    (c : WeekdayChoice)
    (hc : c ∈ (t.rowsBesides row.ownerId).weekdays) :
    c.planId ≠ row.id := by
  intro hSame
  have hMem : c ∈ t.weekdays := (List.mem_filter.mp hc).1
  exact hNew (Or.inr (Or.inr ⟨c, hMem, hSame⟩))

/- A new plan has no weekdays that could be overwritten. -/
theorem replaced_weekdays
    (hNew : ¬ t.Mentions row.id)
    (hChoice : choice.planId = row.id) :
    (t.replaced row items choice).weekdays =
      (t.rowsBesides row.ownerId).weekdays ++ [choice] := by
  have hOthers :
      (t.rowsBesides row.ownerId).weekdays.filter
        (fun old => old.planId != choice.planId) =
        (t.rowsBesides row.ownerId).weekdays := by
    apply List.filter_eq_self.mpr
    intro old hOld
    have hApart := weekdays_apart hNew old hOld
    rw [← hChoice] at hApart
    simpa using hApart
  change
    (t.rowsBesides row.ownerId).weekdays.filter
      (fun old => old.planId != choice.planId) ++ [choice] = _
  rw [hOthers]

/- The owner has no other plan. -/
theorem planIdsOf_replaced :
    (t.replaced row items choice).planIdsOf row.ownerId =
      [row.id] := by
  unfold planIdsOf
  rw [replaced_plans, List.filter_append]
  simp [rowsBesides, List.filter_filter]

/- The rows of the owner are the new ones. -/
theorem rowsOf_replaced
    (hNew : ¬ t.Mentions row.id)
    (hItems : ∀ i ∈ items, i.planId = row.id)
    (hChoice : choice.planId = row.id) :
    (t.replaced row items choice).rowsOf row.ownerId =
      ⟨[row], items, [choice]⟩ := by
  unfold rowsOf
  rw [planIdsOf_replaced, replaced_plans, replaced_items,
    replaced_weekdays hNew hChoice]
  congr 1
  · simp [rowsBesides, List.filter_filter]
  · exact (filter_naming (items_apart hNew) hItems).1
  · exact (filter_naming (weekdays_apart hNew)
      (by simpa using hChoice)).1

/- The other rows are the old ones. -/
theorem rowsBesides_replaced
    (hNew : ¬ t.Mentions row.id)
    (hItems : ∀ i ∈ items, i.planId = row.id)
    (hChoice : choice.planId = row.id) :
    (t.replaced row items choice).rowsBesides row.ownerId =
      t.rowsBesides row.ownerId := by
  rw [rowsBesides, planIdsOf_replaced, replaced_plans,
    replaced_items, replaced_weekdays hNew hChoice,
    (filter_naming (items_apart hNew) hItems).2,
    (filter_naming (weekdays_apart hNew)
      (by simpa using hChoice)).2]
  simp [rowsBesides, List.filter_filter]

end Replacement

end Tables

end Timetable.Store
