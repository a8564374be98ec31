import Mathlib.Data.Nat.Nth
import Timetable.Proofs.Order.StableSort
import Timetable.Proofs.Plan.Dating

/-
  This file shows that handing out the selected weekdays in
  turn is to walk through the calendar: the slots of a plan
  get the selected days from the start on, one after the
  other, and no such day is passed over.

  Key definitions include:
    * `selectedDay`
    * `selectedBefore`
    * `IsSelectedDay`

  Main theorems include:
    * `anchor_first`
    * `advance_next`
    * `rotate_selected`
    * `assignDates_enumerates`
-/

namespace Timetable.Plan

------------------------------------------------------------
-- Selected Days of the Calendar
------------------------------------------------------------

/- The day with a number among the selected days from a start on, counted from zero. -/
noncomputable def selectedDay
    (weekdays : List Int)
    (start : Date)
    (i : Nat) : Date :=
  start.addDays
    (Nat.nth (fun n => (start.addDays n).weekday ∈ weekdays) i)

/- How many selected days there are from a start on before a day. -/
def selectedBefore
    (weekdays : List Int)
    (start day : Date) : Nat :=
  Nat.count (fun n => (start.addDays n).weekday ∈ weekdays)
    (day.day - start.day).toNat

/- A selected day from a start on, with the number of those before it. -/
structure IsSelectedDay
    (weekdays : List Int)
    (start : Date)
    (i : Nat)
    (day : Date) : Prop where
  since : start ≤ day
  selected : day.weekday ∈ weekdays
  before : selectedBefore weekdays start day = i

theorem addDays_toNat
    {start day : Date}
    (hSince : start ≤ day) :
    start.addDays (day.day - start.day).toNat = day := by
  have hOrder : start.day ≤ day.day := hSince
  rw [Int.toNat_of_nonneg (by omega)]
  exact congrArg Date.mk (by omega)

/- A day is found by its number. -/
theorem IsSelectedDay.eq_selectedDay
    {weekdays : List Int}
    {start day : Date}
    {i : Nat}
    (h : IsSelectedDay weekdays start i day) :
    day = selectedDay weekdays start i := by
  have hDay := addDays_toNat h.since
  have hSelected := h.selected
  rw [← hDay] at hSelected
  unfold selectedDay
  rw [← h.before, selectedBefore, Nat.nth_count hSelected, hDay]

/- Later days have more selected days before them. -/
theorem selectedBefore_mono
    (weekdays : List Int)
    (start : Date)
    {first second : Date}
    (hOrder : first ≤ second) :
    selectedBefore weekdays start first ≤
      selectedBefore weekdays start second := by
  apply Nat.count_monotone
  have hDays : first.day ≤ second.day := hOrder
  omega

/- The first selected day has none before it. -/
theorem isSelectedDay_zero
    {weekdays : List Int}
    {start day : Date}
    (hSince : start ≤ day)
    (hSelected : day.weekday ∈ weekdays)
    (hNone :
      ∀ other, start ≤ other → other < day →
        other.weekday ∉ weekdays) :
    IsSelectedDay weekdays start 0 day := by
  refine ⟨hSince, hSelected, Nat.count_iff_forall_not.mpr ?_⟩
  intro n hn
  apply hNone
  · change start.day ≤ start.day + n
    omega
  · change start.day + n < day.day
    omega

/- The next selected day has one more before it. -/
theorem IsSelectedDay.next
    {weekdays : List Int}
    {start day later : Date}
    {i : Nat}
    (h : IsSelectedDay weekdays start i day)
    (hLater : day < later)
    (hSelected : later.weekday ∈ weekdays)
    (hNone :
      ∀ other, day < other → other < later →
        other.weekday ∉ weekdays) :
    IsSelectedDay weekdays start (i + 1) later := by
  have hSince : start.day ≤ day.day := h.since
  have hOrder : day.day < later.day := hLater
  have hThere : (start.addDays (day.day - start.day).toNat).weekday ∈ weekdays := by
    rw [addDays_toNat h.since]
    exact h.selected
  have hSplit :
      (later.day - start.day).toNat =
        (day.day - start.day).toNat + 1 +
          (later.day - day.day - 1).toNat := by
    omega
  have hBetween :
      Nat.count
          (fun n =>
            (start.addDays
              (((day.day - start.day).toNat + 1 + n : Nat) : Int)).weekday ∈
                weekdays)
          (later.day - day.day - 1).toNat = 0 := by
    apply Nat.count_iff_forall_not.mpr
    intro n hn
    apply hNone
    · change day.day < start.day + _
      omega
    · change start.day + _ < later.day
      omega
  refine ⟨?_, hSelected, ?_⟩
  · change start.day ≤ later.day
    omega
  · unfold selectedBefore
    rw [hSplit, Nat.count_add, Nat.count_succ, if_pos hThere, hBetween]
    exact congrArg (· + 1) h.before

------------------------------------------------------------
-- Places of a Selection
------------------------------------------------------------

section Places

variable {days : List Int} (hDays : ValidDays days)

include hDays

/- Later places of a selection have later days of the week. -/
theorem ValidDays.getD_lt
    {i j : Nat}
    (hOrder : i < j)
    (hj : j < days.length) :
    days.getD i 0 < days.getD j 0 := by
  have hi : i < days.length := by omega
  have hLess :=
    List.pairwise_iff_getElem.mp hDays.ascending i j hi hj hOrder
  simpa [hi, hj] using hLess

omit hDays in
theorem exists_place
    {d : Int}
    (hd : d ∈ days) :
    ∃ j, j < days.length ∧ days.getD j 0 = d := by
  rcases List.getElem_of_mem hd with ⟨j, hj, rfl⟩
  exact ⟨j, hj, by simp [hj]⟩

omit hDays in
theorem getD_mem
    {j : Nat}
    (hj : j < days.length) :
    days.getD j 0 ∈ days := by
  simp [hj]

/- The first day of a selection is its earliest. -/
theorem ValidDays.first_le
    {d : Int}
    (hd : d ∈ days) :
    days.getD 0 0 ≤ d := by
  rcases exists_place hd with ⟨j, hj, rfl⟩
  rcases Nat.eq_zero_or_pos j with rfl | hPos
  · exact Int.le_refl _
  · exact Int.le_of_lt (hDays.getD_lt hPos hj)

/- The last day of a selection is its latest. -/
theorem ValidDays.le_last
    {i : Nat}
    (hLast : i + 1 = days.length)
    {d : Int}
    (hd : d ∈ days) :
    d ≤ days.getD i 0 := by
  rcases exists_place hd with ⟨j, hj, rfl⟩
  rcases Nat.lt_or_ge j i with hLess | hSame
  · exact Int.le_of_lt (hDays.getD_lt hLess (by omega))
  · rw [show j = i by omega]

/- No day of a selection lies between two places that follow each other. -/
theorem ValidDays.not_mem_between
    {i : Nat}
    (hNext : i + 1 < days.length)
    {d : Int}
    (hAfter : days.getD i 0 < d)
    (hBefore : d < days.getD (i + 1) 0) :
    d ∉ days := by
  intro hd
  rcases exists_place hd with ⟨j, hj, rfl⟩
  rcases Nat.lt_trichotomy j i with hLess | rfl | hMore
  · have hOrder := hDays.getD_lt hLess (by omega)
    omega
  · omega
  · rcases Nat.lt_or_ge (i + 1) j with hBeyond | hAt
    · have hOrder := hDays.getD_lt hBeyond hj
      omega
    · rw [show j = i + 1 by omega] at hBefore
      omega

------------------------------------------------------------
-- The Rotation
------------------------------------------------------------

omit hDays in
theorem weekday_range
    (day : Date) :
    0 ≤ day.weekday ∧ day.weekday ≤ 6 := by
  unfold Date.weekday
  omega

omit hDays in
/- Weekdays count up until the end of a week, and start again in the next one. -/
theorem weekday_ahead
    (first day : Date)
    (hFrom : 0 ≤ first.weekday + (day.day - first.day))
    (hUntil : first.weekday + (day.day - first.day) ≤ 13) :
    day.weekday = first.weekday + (day.day - first.day) ∧
        first.weekday + (day.day - first.day) ≤ 6 ∨
      day.weekday = first.weekday + (day.day - first.day) - 7 ∧
        7 ≤ first.weekday + (day.day - first.day) := by
  unfold Date.weekday at *
  omega

/- The rotation starts with the first selected day. -/
theorem anchor_first
    (start : Date) :
    start ≤ (anchor start days).1 ∧
      (anchor start days).1.weekday = days.getD (anchor start days).2 0 ∧
      ∀ day, start ≤ day → day < (anchor start days).1 →
        day.weekday ∉ days := by
  have hToday := weekday_range start
  unfold anchor
  simp only
  split
  · rename_i i hFound
    rcases List.findIdx?_eq_some_iff_getElem.mp hFound with
      ⟨hi, hAhead, hEarlier⟩
    have hRange := hDays.getD_range hi
    have hReached : start.weekday ≤ days.getD i 0 := by
      simpa [hi] using hAhead
    have hTarget :
        (start.addDays (days.getD i 0 - start.weekday)).day =
          start.day + (days.getD i 0 - start.weekday) :=
      rfl
    refine ⟨?_, ?_, ?_⟩
    · change start.day ≤ start.day + (days.getD i 0 - start.weekday)
      omega
    · have hWeekday := weekday_ahead start
        (start.addDays (days.getD i 0 - start.weekday)) (by omega) (by omega)
      change (start.addDays (days.getD i 0 - start.weekday)).weekday = days.getD i 0
      omega
    · intro day hSince hBefore hMember
      change start.day ≤ day.day at hSince
      change day.day < start.day + (days.getD i 0 - start.weekday) at hBefore
      have hWeekday := weekday_ahead start day (by omega) (by omega)
      rcases exists_place hMember with ⟨j, hj, hPlace⟩
      rcases Nat.lt_or_ge j i with hLess | hMore
      · have hPassed := hEarlier j hLess
        simp only [decide_eq_true_eq] at hPassed
        rw [List.getD_eq_getElem _ _ hj] at hPlace
        omega
      · rcases Nat.eq_or_lt_of_le hMore with rfl | hBeyond
        · omega
        · have hOrder := hDays.getD_lt hBeyond hj
          omega
  · rename_i hNone
    have hPassed : ∀ d ∈ days, d < start.weekday := by
      intro d hd
      have hBehind := List.findIdx?_eq_none_iff.mp hNone d hd
      simpa using hBehind
    have hFirst : days.headD 0 = days.getD 0 0 := by
      cases days <;> rfl
    have hZero : 0 < days.length :=
      List.length_pos_iff.mpr hDays.nonempty
    have hRange := hDays.getD_range hZero
    have hBehind := hPassed _ (getD_mem hZero)
    have hTarget :
        (start.addDays (7 - start.weekday + days.getD 0 0)).day =
          start.day + (7 - start.weekday + days.getD 0 0) :=
      rfl
    rw [hFirst]
    refine ⟨?_, ?_, ?_⟩
    · change start.day ≤ start.day + (7 - start.weekday + days.getD 0 0)
      omega
    · have hWeekday := weekday_ahead start
        (start.addDays (7 - start.weekday + days.getD 0 0)) (by omega) (by omega)
      change (start.addDays (7 - start.weekday + days.getD 0 0)).weekday = days.getD 0 0
      omega
    · intro day hSince hBefore hMember
      change start.day ≤ day.day at hSince
      change day.day < start.day + (7 - start.weekday + days.getD 0 0) at hBefore
      have hLess := hPassed _ hMember
      have hMore := hDays.first_le hMember
      have hWeekday := weekday_ahead start day (by omega) (by omega)
      omega

/- From a selected day the rotation moves to the next one. -/
theorem advance_next
    {cursor : Date}
    {i : Nat}
    (hi : i < days.length)
    (hCursor : cursor.weekday = days.getD i 0) :
    (advance cursor (days.getD i 0) (days.getD ((i + 1) % days.length) 0)
        ((i + 1) % days.length == 0)).weekday =
      days.getD ((i + 1) % days.length) 0 ∧
    ∀ day, cursor < day →
      day < advance cursor (days.getD i 0)
          (days.getD ((i + 1) % days.length) 0)
          ((i + 1) % days.length == 0) →
      day.weekday ∉ days := by
  have hRange := hDays.getD_range hi
  rcases Nat.lt_or_ge (i + 1) days.length with hNext | hEnd
  · -- the next day lies in the same week
    have hAhead : days.getD i 0 < days.getD (i + 1) 0 :=
      hDays.getD_lt (by omega) hNext
    have hNextRange := hDays.getD_range hNext
    have hTarget :
        (advance cursor (days.getD i 0) (days.getD (i + 1) 0) false).day =
          cursor.day + (days.getD (i + 1) 0 - days.getD i 0) := by
      have hForward :
          ¬ (false || decide (days.getD (i + 1) 0 - days.getD i 0 ≤ 0)) =
            true := by
        simp only [Bool.false_or, decide_eq_true_eq]
        omega
      simp only [advance, Date.addDays, if_neg hForward]
    rw [Nat.mod_eq_of_lt hNext, show (i + 1 == 0) = false from rfl]
    constructor
    · have hWeekday := weekday_ahead cursor
        (advance cursor (days.getD i 0) (days.getD (i + 1) 0) false) (by omega) (by omega)
      omega
    · intro day hAfter hBefore
      change cursor.day < day.day at hAfter
      change day.day < (advance cursor _ _ false).day at hBefore
      rw [hTarget] at hBefore
      have hWeekday := weekday_ahead cursor day (by omega) (by omega)
      exact hDays.not_mem_between hNext (by omega) (by omega)
  · -- the round is complete and goes on in the next week
    have hLast : i + 1 = days.length := by omega
    have hZero : 0 < days.length := by omega
    have hFirstRange := hDays.getD_range hZero
    have hTarget :
        (advance cursor (days.getD i 0) (days.getD 0 0) true).day =
          cursor.day + (days.getD 0 0 - days.getD i 0 + 7) :=
      rfl
    rw [hLast, Nat.mod_self, show (0 == 0) = true from rfl]
    constructor
    · have hWeekday := weekday_ahead cursor
        (advance cursor (days.getD i 0) (days.getD 0 0) true) (by omega) (by omega)
      omega
    · intro day hAfter hBefore hMember
      change cursor.day < day.day at hAfter
      change day.day < (advance cursor _ _ true).day at hBefore
      rw [hTarget] at hBefore
      have hLess := hDays.le_last hLast hMember
      have hMore := hDays.first_le hMember
      have hWeekday := weekday_ahead cursor day (by omega) (by omega)
      omega

/- From a selected day on, all days that are handed out are the selected ones in order. -/
theorem rotate_selected
    {start cursor : Date}
    {i k : Nat}
    (hi : i < days.length)
    (hCursor : cursor.weekday = days.getD i 0)
    (hPlace : IsSelectedDay days start k cursor)
    (slots : List Slot)
    {j : Nat}
    {d : DatedSlot}
    (hd : (rotate days cursor i slots)[j]? = some d) :
    IsSelectedDay days start (k + j) d.date := by
  induction slots generalizing cursor i k j with
  | nil => cases hd
  | cons slot rest ih =>
      cases j with
      | zero =>
          cases hd
          exact hPlace
      | succ j =>
          have hNext : (i + 1) % days.length < days.length :=
            Nat.mod_lt _ (by omega)
          rcases advance_next hDays hi hCursor with ⟨hWeekday, hNone⟩
          have hAfter :=
            advance_after cursor ((i + 1) % days.length == 0)
              (hDays.getD_range hi).2 (hDays.getD_range hNext).1
          have hSelected := getD_mem hNext
          rw [← hWeekday] at hSelected
          have hLater :=
            ih hNext hWeekday (hPlace.next hAfter hSelected hNone) hd
          rwa [show k + 1 + j = k + (j + 1) by omega] at hLater

end Places

------------------------------------------------------------
-- Assigned Days
------------------------------------------------------------

theorem IsSelectedDay.congr
    {weekdays days : List Int}
    (hSame : ∀ d, d ∈ days ↔ d ∈ weekdays)
    {start day : Date}
    {i : Nat}
    (h : IsSelectedDay days start i day) :
    IsSelectedDay weekdays start i day := by
  have hPredicate :
      (fun n : Nat => (start.addDays n).weekday ∈ days) =
        fun n : Nat => (start.addDays n).weekday ∈ weekdays :=
    funext fun n => propext (hSame _)
  refine ⟨h.since, (hSame _).mp h.selected, ?_⟩
  rw [← h.before]
  unfold selectedBefore
  simp only [hPredicate]

/- The slots get the selected days from the start on, in order. -/
theorem assignDates_selected
    {weekdays days : List Int}
    (hAccepted : normalizeWeekdays weekdays = .ok days)
    {slots : List Slot}
    {start : Date}
    {dated : List DatedSlot}
    (hDated : assignDates slots start weekdays = .ok dated)
    {i : Nat}
    {d : DatedSlot}
    (hd : dated[i]? = some d) :
    IsSelectedDay weekdays start i d.date := by
  have hDays := normalizeWeekdays_valid hAccepted
  rw [assignDates_eq hAccepted] at hDated
  cases hDated
  have hPlace := anchor_place hDays start
  rcases anchor_first hDays start with ⟨hSince, hWeekday, hNone⟩
  have hSelected := getD_mem hPlace
  rw [← hWeekday] at hSelected
  have hFirst := isSelectedDay_zero hSince hSelected hNone
  have hThere := rotate_selected hDays hPlace hWeekday hFirst _ hd
  rw [Nat.zero_add] at hThere
  exact hThere.congr (mem_normalizeWeekdays hAccepted)

/- No selected day is passed over. -/
theorem assignDates_complete
    {weekdays days : List Int}
    (hAccepted : normalizeWeekdays weekdays = .ok days)
    {slots : List Slot}
    {start day : Date}
    {dated : List DatedSlot}
    (hDated : assignDates slots start weekdays = .ok dated)
    (hSince : start ≤ day)
    (hSelected : day.weekday ∈ weekdays)
    {d : DatedSlot}
    (hd : d ∈ dated)
    (hUntil : day ≤ d.date) :
    ∃ e ∈ dated, e.date = day := by
  rcases List.getElem?_of_mem hd with ⟨j, hj⟩
  have hThere := assignDates_selected hAccepted hDated hj
  have hDay : IsSelectedDay weekdays start _ day :=
    ⟨hSince, hSelected, rfl⟩
  -- the number of the day is at most that of the day given, so that a slot has it
  have hNumber := selectedBefore_mono weekdays start hUntil
  rw [hThere.before] at hNumber
  have hLess : selectedBefore weekdays start day < dated.length :=
    Nat.lt_of_le_of_lt hNumber (List.getElem?_eq_some_iff.mp hj).1
  have hGiven :=
    assignDates_selected hAccepted hDated (List.getElem?_eq_getElem hLess)
  refine ⟨_, List.getElem_mem hLess, ?_⟩
  rw [hGiven.eq_selectedDay, ← hDay.eq_selectedDay]

/-
  For weekdays that are accepted, every slot gets a day, and
  the slots come in the order of week and position, ties as
  they came.  The days are the selected days from the start
  on: the slot with number `i` gets the one with number `i`,
  no day is given twice, and none is passed over that is not
  later than a day that is given.  So the first day is the
  earliest of all.
-/
theorem assignDates_enumerates
    (slots : List Slot)
    (start : Date)
    (weekdays days : List Int)
    (hAccepted : normalizeWeekdays weekdays = .ok days) :
    ∃ dated,
      assignDates slots start weekdays = .ok dated ∧
      StableSort Slot.before slots (dated.map (·.slot)) ∧
      (∀ i d, dated[i]? = some d →
        d.date = selectedDay weekdays start i) ∧
      dated.Pairwise (fun a b => a.date < b.date) ∧
      (∀ day : Date,
        (∃ d ∈ dated, d.date = day) ↔
          start ≤ day ∧ day.weekday ∈ weekdays ∧
            ∃ d ∈ dated, day ≤ d.date) ∧
      (∀ d, dated.head? = some d →
        IsLeast { day | start ≤ day ∧ day.weekday ∈ weekdays } d.date) := by
  have hDated := assignDates_eq hAccepted slots start
  refine ⟨_, hDated, ?_, ?_, assignDates_ascending hDated, ?_, ?_⟩
  · rw [rotate_slots]
    exact stableSort_mergeSort Slot.before_trans Slot.before_total slots
  · intro i d hd
    exact (assignDates_selected hAccepted hDated hd).eq_selectedDay
  · intro day
    constructor
    · rintro ⟨d, hd, rfl⟩
      rcases List.getElem?_of_mem hd with ⟨i, hi⟩
      have hThere := assignDates_selected hAccepted hDated hi
      exact ⟨hThere.since, hThere.selected, d, hd, Int.le_refl _⟩
    · rintro ⟨hSince, hSelected, d, hd, hUntil⟩
      exact assignDates_complete hAccepted hDated hSince hSelected hd hUntil
  · intro d hd
    rw [List.head?_eq_getElem?] at hd
    have hFirst := assignDates_selected hAccepted hDated hd
    refine ⟨⟨hFirst.since, hFirst.selected⟩, ?_⟩
    rintro day ⟨hSince, hSelected⟩
    by_contra hEarlier
    have hUntil : day ≤ d.date := Int.le_of_lt (Int.not_le.mp hEarlier)
    have hNumber := selectedBefore_mono weekdays start hUntil
    rw [hFirst.before] at hNumber
    have hDay : IsSelectedDay weekdays start 0 day :=
      ⟨hSince, hSelected, Nat.le_zero.mp hNumber⟩
    rw [hFirst.eq_selectedDay, ← hDay.eq_selectedDay] at hEarlier
    exact hEarlier (Int.le_refl _)

/-
  Three slots of two weeks, two of them at the same place, get
  Saturday, Sunday and the Saturday after when a plan for
  weekends starts on a Thursday.
-/
theorem assignDates_enumerates_weekends :
    ∃ dated,
      assignDates [⟨"c", 2, 1⟩, ⟨"a", 1, 1⟩, ⟨"b", 1, 1⟩] ⟨0⟩ [6, 0, 6] =
        .ok dated ∧
      dated.map (·.slot.id) = ["a", "b", "c"] ∧
      dated.map (·.date) = [⟨2⟩, ⟨3⟩, ⟨9⟩] ∧
      selectedDay [6, 0, 6] ⟨0⟩ 2 = ⟨9⟩ := by
  have hAccepted : normalizeWeekdays [6, 0, 6] = .ok [0, 6] := by
    decide
  rcases assignDates_enumerates
      [⟨"c", 2, 1⟩, ⟨"a", 1, 1⟩, ⟨"b", 1, 1⟩] ⟨0⟩ [6, 0, 6] [0, 6]
      hAccepted with
    ⟨dated, hDated, _, hDays, _⟩
  have hGiven :
      assignDates [⟨"c", 2, 1⟩, ⟨"a", 1, 1⟩, ⟨"b", 1, 1⟩] ⟨0⟩ [6, 0, 6] =
        .ok
          [⟨⟨"a", 1, 1⟩, ⟨2⟩⟩, ⟨⟨"b", 1, 1⟩, ⟨3⟩⟩, ⟨⟨"c", 2, 1⟩, ⟨9⟩⟩] := by
    have hSorted :
        [(⟨"c", 2, 1⟩ : Slot), ⟨"a", 1, 1⟩, ⟨"b", 1, 1⟩].mergeSort Slot.before =
          [⟨"a", 1, 1⟩, ⟨"b", 1, 1⟩, ⟨"c", 2, 1⟩] := by
      simp [List.mergeSort, List.MergeSort.Internal.splitInTwo, Slot.before]
    rw [assignDates_eq hAccepted, hSorted]
    rfl
  rw [hGiven] at hDated
  cases hDated
  exact ⟨_, hGiven, rfl, rfl, (hDays 2 _ rfl).symm⟩

end Timetable.Plan
