import Timetable.Plan.Dating
import Timetable.Proofs.Plan.Weekdays

/-
  This file describes the days that are handed out to the
  slots of a plan: each slot gets one, in the order of week
  and position, and every day is later than the one before.

  Key definitions include:
    * `dayGiven?`

  Main theorems include:
    * `assignDates_eq`
    * `assignDates_slots`
    * `assignDates_ascending`
    * `dayGiven?_of_mem`
-/

namespace Timetable.Plan

------------------------------------------------------------
-- The Rotation
------------------------------------------------------------

/- Days are handed out to the slots themselves. -/
theorem rotate_slots
    (days : List Int)
    (cursor : Date)
    (i : Nat)
    (slots : List Slot) :
    (rotate days cursor i slots).map (·.slot) = slots := by
  induction slots generalizing cursor i with
  | nil => rfl
  | cons slot rest ih => simp [rotate, ih]

/- From a weekday to the next one time passes, even over the end of a week. -/
theorem advance_after
    (cursor : Date)
    {source target : Int}
    (wrapped : Bool)
    (hSource : source ≤ 6)
    (hTarget : 0 ≤ target) :
    cursor < advance cursor source target wrapped := by
  change cursor.day < cursor.day + _
  by_cases hRound : (wrapped || decide (target - source ≤ 0)) = true
  · rw [if_pos hRound]
    omega
  · rw [if_neg hRound]
    have hAhead : ¬ target - source ≤ 0 := by
      intro hBehind
      simp [hBehind] at hRound
    omega

/- The days at the places of a selection are days of a week. -/
theorem ValidDays.getD_range
    {days : List Int}
    (hDays : ValidDays days)
    {i : Nat}
    (hi : i < days.length) :
    0 ≤ days.getD i 0 ∧ days.getD i 0 ≤ 6 := by
  have hPlace : days.getD i 0 = days[i] := by simp [hi]
  rw [hPlace]
  exact hDays.range _ (List.getElem_mem hi)

/- No day is handed out before the cursor. -/
theorem rotate_not_before
    {days : List Int}
    (hDays : ValidDays days)
    (slots : List Slot)
    {cursor : Date}
    {i : Nat}
    (hi : i < days.length) :
    ∀ d ∈ rotate days cursor i slots, cursor ≤ d.date := by
  induction slots generalizing cursor i with
  | nil => simp [rotate]
  | cons slot rest ih =>
      have hNext : (i + 1) % days.length < days.length :=
        Nat.mod_lt _ (by omega)
      have hAfter :=
        advance_after cursor ((i + 1) % days.length == 0)
          (hDays.getD_range hi).2 (hDays.getD_range hNext).1
      intro d hd
      rcases List.mem_cons.mp hd with rfl | hRest
      · exact Int.le_refl _
      · exact Int.le_trans (Int.le_of_lt hAfter) (ih hNext d hRest)

/- Every day is later than those before it. -/
theorem rotate_ascending
    {days : List Int}
    (hDays : ValidDays days)
    (slots : List Slot)
    {cursor : Date}
    {i : Nat}
    (hi : i < days.length) :
    (rotate days cursor i slots).Pairwise
      (fun a b => a.date < b.date) := by
  induction slots generalizing cursor i with
  | nil => exact List.Pairwise.nil
  | cons slot rest ih =>
      have hNext : (i + 1) % days.length < days.length :=
        Nat.mod_lt _ (by omega)
      have hAfter :=
        advance_after cursor ((i + 1) % days.length == 0)
          (hDays.getD_range hi).2 (hDays.getD_range hNext).1
      refine List.pairwise_cons.mpr ⟨?_, ih hNext⟩
      intro d hd
      exact Int.lt_of_lt_of_le hAfter
        (rotate_not_before hDays rest hNext d hd)

/- The rotation starts at a place of the selection. -/
theorem anchor_place
    {days : List Int}
    (hDays : ValidDays days)
    (start : Date) :
    (anchor start days).2 < days.length := by
  unfold anchor
  simp only
  split
  · rename_i i hFound
    exact (List.findIdx?_eq_some_iff_findIdx_eq.mp hFound).1
  · exact List.length_pos_iff.mpr hDays.nonempty

------------------------------------------------------------
-- Assigned Days
------------------------------------------------------------

/- Days are handed out once a selection is accepted. -/
theorem assignDates_eq
    {weekdays days : List Int}
    (hDays : normalizeWeekdays weekdays = .ok days)
    (slots : List Slot)
    (start : Date) :
    assignDates slots start weekdays =
      .ok (rotate days (anchor start days).1 (anchor start days).2
        (slots.mergeSort Slot.before)) := by
  unfold assignDates
  rw [hDays]
  rfl

theorem assignDates_cases
    {slots : List Slot}
    {start : Date}
    {weekdays : List Int}
    {dated : List DatedSlot}
    (h : assignDates slots start weekdays = .ok dated) :
    ∃ days, ValidDays days ∧
      dated =
        rotate days (anchor start days).1 (anchor start days).2
          (slots.mergeSort Slot.before) := by
  cases hDays : normalizeWeekdays weekdays with
  | error e =>
      unfold assignDates at h
      rw [hDays] at h
      cases h
  | ok days =>
      rw [assignDates_eq hDays] at h
      cases h
      exact ⟨days, normalizeWeekdays_valid hDays, rfl⟩

theorem Slot.before_trans
    (a b c : Slot)
    (hFirst : a.before b = true)
    (hSecond : b.before c = true) :
    a.before c = true := by
  simp only [Slot.before, Bool.or_eq_true, Bool.and_eq_true,
    decide_eq_true_eq] at hFirst hSecond ⊢
  omega

theorem Slot.before_total
    (a b : Slot) :
    (a.before b || b.before a) = true := by
  simp only [Slot.before, Bool.or_eq_true, Bool.and_eq_true,
    decide_eq_true_eq]
  omega

/- Days are handed out in the order of week and position, however the slots come. -/
theorem assignDates_mergeSort
    (slots : List Slot)
    (start : Date)
    (weekdays : List Int) :
    assignDates (slots.mergeSort Slot.before) start weekdays =
      assignDates slots start weekdays := by
  unfold assignDates
  rw [List.mergeSort_of_pairwise
    (List.pairwise_mergeSort Slot.before_trans Slot.before_total slots)]

/- Every slot gets a day, and nothing else does. -/
theorem assignDates_slots
    {slots : List Slot}
    {start : Date}
    {weekdays : List Int}
    {dated : List DatedSlot}
    (h : assignDates slots start weekdays = .ok dated) :
    (dated.map (·.slot)).Perm slots := by
  rcases assignDates_cases h with ⟨days, _, rfl⟩
  rw [rotate_slots]
  exact List.mergeSort_perm _ _

/- No two slots get the same day. -/
theorem assignDates_ascending
    {slots : List Slot}
    {start : Date}
    {weekdays : List Int}
    {dated : List DatedSlot}
    (h : assignDates slots start weekdays = .ok dated) :
    dated.Pairwise (fun a b => a.date < b.date) := by
  rcases assignDates_cases h with ⟨days, hDays, rfl⟩
  exact rotate_ascending hDays _ (anchor_place hDays start)

------------------------------------------------------------
-- The Day of an Id
------------------------------------------------------------

/- The day that was given to an id; of several slots the last one counts. -/
def dayGiven?
    (dated : List DatedSlot)
    (id : String) : Option Date :=
  (dated.reverse.find? (fun d => d.slot.id == id)).map (·.date)

theorem dayGiven?_cons
    (d : DatedSlot)
    (rest : List DatedSlot)
    (id : String) :
    dayGiven? (d :: rest) id =
      (dayGiven? rest id).or
        (if d.slot.id = id then some d.date else none) := by
  unfold dayGiven?
  rw [List.reverse_cons, List.find?_append]
  by_cases hId : d.slot.id = id
  · cases rest.reverse.find? (fun d => d.slot.id == id) <;> simp [hId]
  · cases rest.reverse.find? (fun d => d.slot.id == id) <;> simp [hId]

/- An id of a slot is given a day. -/
theorem dayGiven?_isSome_iff
    {dated : List DatedSlot}
    {id : String} :
    (dayGiven? dated id).isSome = true ↔
      id ∈ dated.map (·.slot.id) := by
  simp [dayGiven?, List.find?_isSome]

/- When ids are distinct, an id is given the day of its slot. -/
theorem dayGiven?_of_mem
    {dated : List DatedSlot}
    (hNodup : (dated.map (·.slot.id)).Nodup)
    {d : DatedSlot}
    (hd : d ∈ dated) :
    dayGiven? dated d.slot.id = some d.date := by
  induction dated with
  | nil => cases hd
  | cons first rest ih =>
      rcases List.nodup_cons.mp hNodup with ⟨hFirst, hRest⟩
      rw [dayGiven?_cons]
      rcases List.mem_cons.mp hd with rfl | hLater
      · have hNone : dayGiven? rest d.slot.id = none := by
          rw [← Option.not_isSome_iff_eq_none, dayGiven?_isSome_iff]
          exact hFirst
        simp [hNone]
      · simp [ih hRest hLater]

end Timetable.Plan
