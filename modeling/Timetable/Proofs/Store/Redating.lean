import Timetable.Store.Tables

/-
  This file describes how dates are written to the items of
  the store: whatever dates are written, all else about the
  items stays as it is.

  Key definitions include:
    * `ScheduleItem.undated`
    * `redate`
    * `redateAll`
    * `Tables.redated`
    * `Tables.RedatedOnly`

  Main theorems include:
    * `redateAll_undated`
    * `redateAll_eq_self`
    * `Tables.redated_only`
-/

namespace Timetable.Store

------------------------------------------------------------
-- Dates of Items
------------------------------------------------------------

/- An item without its date. -/
def ScheduleItem.undated (i : ScheduleItem) : ScheduleItem :=
  { i with scheduledDate := none }

/- Date the items with an id. -/
def redate
    (id : String)
    (date : Timestamp)
    (items : List ScheduleItem) : List ScheduleItem :=
  items.map (fun i =>
    if i.id == id then { i with scheduledDate := some date }
    else i)

/- Write dates to items, one after the other. -/
def redateAll
    (writes : List (String × Timestamp))
    (items : List ScheduleItem) : List ScheduleItem :=
  writes.foldl (fun items write => redate write.1 write.2 items)
    items

/- The tables with other dates. -/
def Tables.redated
    (writes : List (String × Timestamp))
    (t : Tables) : Tables :=
  { t with items := redateAll writes t.items }

@[simp] theorem redateAll_cons
    (write : String × Timestamp)
    (writes : List (String × Timestamp))
    (items : List ScheduleItem) :
    redateAll (write :: writes) items =
      redateAll writes (redate write.1 write.2 items) :=
  rfl

/- Only dates are written. -/
theorem redate_undated
    (id : String)
    (date : Timestamp)
    (items : List ScheduleItem) :
    (redate id date items).map (·.undated) =
      items.map (·.undated) := by
  unfold redate
  rw [List.map_map]
  apply List.map_congr_left
  intro i _
  simp only [Function.comp_apply]
  split <;> rfl

theorem redateAll_undated
    (writes : List (String × Timestamp))
    (items : List ScheduleItem) :
    (redateAll writes items).map (·.undated) =
      items.map (·.undated) := by
  induction writes generalizing items with
  | nil => rfl
  | cons write writes ih =>
      rw [redateAll_cons, ih, redate_undated]

/- What does not depend on dates is the same for items that differ in dates. -/
theorem map_eq_of_undated
    {α : Type}
    {items others : List ScheduleItem}
    (h : items.map (·.undated) = others.map (·.undated))
    (f : ScheduleItem → α)
    (hf : ∀ i, f i.undated = f i) :
    items.map f = others.map f := by
  have hMap := congrArg (List.map f) h
  simp only [List.map_map] at hMap
  have hComp : f ∘ (fun i => i.undated) = f := funext hf
  rw [hComp] at hMap
  exact hMap

/- Items that differ in dates still do when they are chosen apart from them. -/
theorem filter_undated
    {items others : List ScheduleItem}
    (h : items.map (·.undated) = others.map (·.undated))
    (p : ScheduleItem → Bool)
    (hp : ∀ i, p i.undated = p i) :
    (items.filter p).map (·.undated) =
      (others.filter p).map (·.undated) := by
  have hFilter := congrArg (List.filter p) h
  rw [List.filter_map, List.filter_map] at hFilter
  have hComp : (p ∘ fun i : ScheduleItem => i.undated) = p := funext hp
  rw [hComp] at hFilter
  exact hFilter

theorem redate_ids
    (id : String)
    (date : Timestamp)
    (items : List ScheduleItem) :
    (redate id date items).map (·.id) = items.map (·.id) :=
  map_eq_of_undated (redate_undated id date items) _ (fun _ => rfl)

/- Items with other ids keep their dates. -/
theorem redate_eq_self
    {id : String}
    {date : Timestamp}
    {items : List ScheduleItem}
    (hNone : ∀ i ∈ items, i.id ≠ id) :
    redate id date items = items := by
  have hMap : redate id date items = items.map (fun i => i) := by
    apply List.map_congr_left
    intro i hi
    simp [hNone i hi]
  rw [hMap, List.map_id']

theorem redateAll_eq_self
    {writes : List (String × Timestamp)}
    {items : List ScheduleItem}
    (hNone : ∀ write ∈ writes, ∀ i ∈ items, i.id ≠ write.1) :
    redateAll writes items = items := by
  induction writes with
  | nil => rfl
  | cons write writes ih =>
      rw [redateAll_cons, redate_eq_self (hNone write (by simp))]
      exact ih (fun other hOther => hNone other (by simp [hOther]))

/- An item whose date is not written stays as it is. -/
theorem mem_redateAll
    {writes : List (String × Timestamp)}
    {items : List ScheduleItem}
    {i : ScheduleItem}
    (hi : i ∈ items)
    (hApart : ∀ write ∈ writes, i.id ≠ write.1) :
    i ∈ redateAll writes items := by
  induction writes generalizing items with
  | nil => exact hi
  | cons write writes ih =>
      refine ih ?_ (fun other hOther => hApart other (by simp [hOther]))
      refine List.mem_map.mpr ⟨i, hi, ?_⟩
      simp [hApart write (by simp)]

theorem redateAll_append
    (writes : List (String × Timestamp))
    (items others : List ScheduleItem) :
    redateAll writes (items ++ others) =
      redateAll writes items ++ redateAll writes others := by
  induction writes generalizing items others with
  | nil => rfl
  | cons write writes ih =>
      simp only [redateAll_cons]
      rw [← ih]
      unfold redate
      rw [List.map_append]

/- Items are chosen apart from their dates. -/
theorem redate_filter
    (id : String)
    (date : Timestamp)
    (items : List ScheduleItem)
    (p : ScheduleItem → Bool)
    (hp : ∀ i, p i.undated = p i) :
    (redate id date items).filter p = redate id date (items.filter p) := by
  unfold redate
  rw [List.filter_map]
  congr 1
  apply List.filter_congr
  intro i _
  simp only [Function.comp_apply]
  split
  · exact (hp _).symm.trans (hp i)
  · rfl

theorem redateAll_filter
    (writes : List (String × Timestamp))
    (items : List ScheduleItem)
    (p : ScheduleItem → Bool)
    (hp : ∀ i, p i.undated = p i) :
    (redateAll writes items).filter p =
      redateAll writes (items.filter p) := by
  induction writes generalizing items with
  | nil => rfl
  | cons write writes ih =>
      rw [redateAll_cons, redateAll_cons, ih, redate_filter _ _ _ _ hp]

------------------------------------------------------------
-- Tables that Differ in Dates
------------------------------------------------------------

/- Tables that differ only in the dates of a plan's items. -/
structure Tables.RedatedOnly
    (planId : String)
    (t t' : Tables) : Prop where
  plans : t'.plans = t.plans
  weekdays : t'.weekdays = t.weekdays
  lessons : t'.lessons = t.lessons
  progress : t'.progress = t.progress
  fields : t'.items.map (·.undated) = t.items.map (·.undated)
  others :
    t'.items.filter (fun i => i.planId != planId) =
      t.items.filter (fun i => i.planId != planId)

theorem Tables.RedatedOnly.refl
    (planId : String)
    (t : Tables) :
    t.RedatedOnly planId t :=
  ⟨rfl, rfl, rfl, rfl, rfl, rfl⟩

theorem Tables.RedatedOnly.trans
    {planId : String}
    {t₁ t₂ t₃ : Tables}
    (h₁ : t₁.RedatedOnly planId t₂)
    (h₂ : t₂.RedatedOnly planId t₃) :
    t₁.RedatedOnly planId t₃ where
  plans := h₂.plans.trans h₁.plans
  weekdays := h₂.weekdays.trans h₁.weekdays
  lessons := h₂.lessons.trans h₁.lessons
  progress := h₂.progress.trans h₁.progress
  fields := h₂.fields.trans h₁.fields
  others := h₂.others.trans h₁.others

/- Dates of items that only the plan has are written to its items only. -/
theorem Tables.redated_only
    {planId : String}
    {writes : List (String × Timestamp)}
    {t : Tables}
    (hOwn :
      ∀ write ∈ writes, ∀ i ∈ t.items, i.id = write.1 →
        i.planId = planId) :
    t.RedatedOnly planId (t.redated writes) where
  plans := rfl
  weekdays := rfl
  lessons := rfl
  progress := rfl
  fields := redateAll_undated writes t.items
  others := by
    have hFilter :=
      redateAll_filter writes t.items (fun i => i.planId != planId)
        (fun _ => rfl)
    rw [show (t.redated writes).items = redateAll writes t.items from rfl,
      hFilter]
    apply redateAll_eq_self
    intro write hWrite i hi hId
    rcases List.mem_filter.mp hi with ⟨hMem, hOther⟩
    have hPlan := hOwn write hWrite i hMem hId
    simp [hPlan] at hOther

end Timetable.Store
