import Mathlib.Data.List.Sort
import Timetable.Calendar.Timestamp
import Timetable.Proofs.Calendar.Dates
import Timetable.Proofs.Plan.SelectedDays

/-
  This file says what the days of a plan depend on: on the
  slots, but not on the order in which they come, on the
  weekdays that are selected, but not on how they are listed,
  and on the day that the clock of the start shows, but not on
  its time or its offset.

  Main theorems include:
    * `mergeSort_before_eq_of_perm`
    * `normalizeWeekdays_congr`
    * `assignDates_refused_iff`
    * `assignDates_invariant`
-/

namespace Timetable.Plan

------------------------------------------------------------
-- Slots in any Order
------------------------------------------------------------

/- Slots that come no later than each other are at the same place. -/
theorem Slot.before_antisymm
    {a b : Slot}
    (hFirst : a.before b = true)
    (hSecond : b.before a = true) :
    (a.week, a.position) = (b.week, b.position) := by
  simp only [Slot.before, Bool.or_eq_true, Bool.and_eq_true,
    decide_eq_true_eq] at hFirst hSecond
  rw [Prod.mk.injEq]
  omega

/- Slots at different places have one order, however they come. -/
theorem mergeSort_before_eq_of_perm
    {slots others : List Slot}
    (hPerm : slots.Perm others)
    (hDistinct : (slots.map (fun s => (s.week, s.position))).Nodup) :
    slots.mergeSort Slot.before = others.mergeSort Slot.before := by
  have hFirst := List.mergeSort_perm slots Slot.before
  have hSecond := List.mergeSort_perm others Slot.before
  apply List.Perm.eq_of_pairwise _
    (List.pairwise_mergeSort Slot.before_trans Slot.before_total slots)
    (List.pairwise_mergeSort Slot.before_trans Slot.before_total others)
    (hFirst.trans (hPerm.trans hSecond.symm))
  intro a b ha hb hThere hBack
  have hMember : b ∈ slots :=
    hPerm.mem_iff.mpr (hSecond.mem_iff.mp hb)
  exact List.inj_on_of_nodup_map hDistinct (hFirst.mem_iff.mp ha) hMember
    (Slot.before_antisymm hThere hBack)

------------------------------------------------------------
-- Weekdays in any Order
------------------------------------------------------------

/- What days are selected does not depend on how they are listed. -/
theorem Selects.congr
    {weekdays others : List Int}
    (hSame : ∀ d, d ∈ weekdays ↔ d ∈ others)
    (hSelects : Selects weekdays) :
    Selects others := by
  constructor
  · rintro rfl
    rcases List.exists_mem_of_ne_nil weekdays hSelects.nonempty with ⟨d, hd⟩
    exact List.not_mem_nil ((hSame d).mp hd)
  · intro d hd
    exact hSelects.range d ((hSame d).mpr hd)

/- The same days make the same selection, in any order and repeated or not. -/
theorem normalizeWeekdays_congr
    {weekdays others days : List Int}
    (hSame : ∀ d, d ∈ weekdays ↔ d ∈ others)
    (hAccepted : normalizeWeekdays weekdays = .ok days) :
    normalizeWeekdays others = .ok days := by
  have hSelects := normalizeWeekdays_isOk_iff.mp ⟨days, hAccepted⟩
  rcases normalizeWeekdays_isOk_iff.mpr (hSelects.congr hSame) with
    ⟨found, hFound⟩
  -- both are in ascending order and have the same days
  have hDays : days = found := by
    apply List.Pairwise.eq_of_mem_iff
      (normalizeWeekdays_valid hAccepted).ascending
      (normalizeWeekdays_valid hFound).ascending
    intro d
    rw [mem_normalizeWeekdays hAccepted, mem_normalizeWeekdays hFound]
    exact hSame d
  rw [hDays]
  exact hFound

/- Days are refused when nothing or something that is no weekday is selected. -/
theorem assignDates_refused_iff
    {slots : List Slot}
    {start : Date}
    {weekdays : List Int} :
    (∃ reason, assignDates slots start weekdays = .error reason) ↔
      ¬ Selects weekdays := by
  rw [← normalizeWeekdays_isOk_iff]
  constructor
  · rintro ⟨reason, hRefused⟩ ⟨days, hAccepted⟩
    rw [assignDates_eq hAccepted] at hRefused
    cases hRefused
  · intro hNone
    cases hNormalized : normalizeWeekdays weekdays with
    | ok days => exact absurd ⟨days, hNormalized⟩ hNone
    | error reason =>
        refine ⟨reason, ?_⟩
        unfold assignDates
        rw [hNormalized]
        rfl

------------------------------------------------------------
-- Assigned Days
------------------------------------------------------------

/-
  Slots at different places get the same days in whatever
  order they come, from lists of the same weekdays, and from
  two starts whose clocks show the same year, month and day of
  the month.  If the list of weekdays is empty or holds a
  number that is none, both are refused, and otherwise both
  succeed.
-/
theorem assignDates_invariant
    {slots others : List Slot}
    (hPerm : slots.Perm others)
    (hDistinct : (slots.map (fun s => (s.week, s.position))).Nodup)
    {start other : Timestamp}
    (hDay : start.date.civil = other.date.civil)
    {weekdays choice : List Int}
    (hSame : ∀ d, d ∈ weekdays ↔ d ∈ choice) :
    (Selects weekdays →
      ∃ dated,
        assignDates slots start.date weekdays = .ok dated ∧
        assignDates others other.date choice = .ok dated) ∧
    (¬ Selects weekdays →
      ∃ reason otherReason,
        assignDates slots start.date weekdays = .error reason ∧
        assignDates others other.date choice = .error otherReason) := by
  constructor
  · intro hSelects
    rcases normalizeWeekdays_isOk_iff.mpr hSelects with ⟨days, hAccepted⟩
    have hOther := normalizeWeekdays_congr hSame hAccepted
    refine ⟨_, assignDates_eq hAccepted slots start.date, ?_⟩
    rw [assignDates_eq hOther, Date.civil_injective hDay,
      mergeSort_before_eq_of_perm hPerm hDistinct]
  · intro hNone
    have hOther : ¬ Selects choice :=
      fun hSelects => hNone (hSelects.congr (fun d => (hSame d).symm))
    rcases assignDates_refused_iff.mpr hNone with ⟨reason, hRefused⟩
    rcases assignDates_refused_iff.mpr hOther with ⟨otherReason, hOtherRefused⟩
    exact ⟨reason, otherReason, hRefused, hOtherRefused⟩

/- Half past eleven at night on the first of January 2024, nine hours ahead. -/
def lateStart : Timestamp :=
  ⟨⟨19723⟩, 84600 * Timestamp.nanosPerSecond, 32400⟩

/- A quarter past midnight on the same day, five hours behind. -/
def earlyStart : Timestamp :=
  ⟨⟨19723⟩, 900 * Timestamp.nanosPerSecond, -18000⟩

/- Three slots of two weeks. -/
def threeSlots : List Slot :=
  [⟨"b", 1, 2⟩, ⟨"c", 2, 1⟩, ⟨"a", 1, 1⟩]

/-
  Three slots that are listed backwards get the same Mondays
  and Fridays from two instants of one day.  With numbers that
  are no weekdays both are refused, each for the first of them.
-/
theorem assignDates_invariant_across_clocks :
    lateStart.instant ≠ earlyStart.instant ∧
    (∃ dated,
      assignDates threeSlots lateStart.date [5, 1, 1] = .ok dated ∧
      assignDates threeSlots.reverse earlyStart.date [1, 5] = .ok dated) ∧
    ∃ reason otherReason,
      assignDates threeSlots lateStart.date [7, 9] = .error reason ∧
      assignDates threeSlots.reverse earlyStart.date [9, 7] =
        .error otherReason := by
  have hPerm : threeSlots.Perm threeSlots.reverse :=
    (List.reverse_perm threeSlots).symm
  have hDistinct :
      (threeSlots.map (fun s => (s.week, s.position))).Nodup := by
    decide
  have hDay : lateStart.date.civil = earlyStart.date.civil := rfl
  have hSame : ∀ d : Int, d ∈ [5, 1, 1] ↔ d ∈ [1, 5] := by
    simp [or_comm]
  have hNone : ∀ d : Int, d ∈ [7, 9] ↔ d ∈ [9, 7] := by
    simp [or_comm]
  refine ⟨by decide, ?_, ?_⟩
  · exact (assignDates_invariant hPerm hDistinct hDay hSame).1
      ⟨by decide, by decide⟩
  · apply (assignDates_invariant hPerm hDistinct hDay hNone).2
    intro hSelects
    exact absurd (hSelects.range 9 (by decide)) (by decide)

end Timetable.Plan
