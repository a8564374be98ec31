import Mathlib.Data.Int.CardIntervalMod
import Mathlib.Data.List.Rotate
import Timetable.Proofs.Plan.SelectedDays

/-
  This file counts the days that each weekday is given.  The
  selected weekdays come round one after the other, beginning
  with that of the first selected day from the start on, so
  that each has its turn equally often, except that the first
  of a round that is broken off have one turn more.

  Key definitions include:
    * `roundFrom`
    * `daysUntil`
    * `turns`

  Main theorems include:
    * `roundFrom_eq_rotate`
    * `rotate_weekdays`
    * `count_turns`
    * `assignDates_fair`
-/

namespace Timetable.Plan

------------------------------------------------------------
-- A Round of Weekdays
------------------------------------------------------------

/- The selected weekdays as they come in the seven days from a start on. -/
def roundFrom
    (start : Date)
    (weekdays : List Int) : List Int :=
  ((List.range 7).map (fun n : Nat => (start.addDays n).weekday)).filter
    (fun d => d ∈ weekdays)

/- How many days after a start a weekday comes first. -/
def daysUntil
    (start : Date)
    (d : Int) : Int :=
  (d - start.weekday) % 7

theorem daysUntil_weekday
    (start : Date)
    {n : Nat}
    (hn : n < 7) :
    daysUntil start (start.addDays n).weekday = n := by
  simp only [daysUntil, Date.weekday, Date.addDays]
  omega

/- A weekday that is not behind comes in the week of the start. -/
theorem daysUntil_of_ahead
    {start : Date}
    {d : Int}
    (hAhead : start.weekday ≤ d)
    (hRange : d ≤ 6) :
    daysUntil start d = d - start.weekday := by
  have hToday := weekday_range start
  unfold daysUntil
  omega

/- A weekday that is behind comes in the week after. -/
theorem daysUntil_of_behind
    {start : Date}
    {d : Int}
    (hRange : 0 ≤ d)
    (hBehind : d < start.weekday) :
    daysUntil start d = d - start.weekday + 7 := by
  have hToday := weekday_range start
  unfold daysUntil
  omega

/- A round has the selected days of the week. -/
theorem mem_roundFrom
    {start : Date}
    {weekdays : List Int}
    {d : Int} :
    d ∈ roundFrom start weekdays ↔
      d ∈ weekdays ∧ 0 ≤ d ∧ d ≤ 6 := by
  unfold roundFrom
  rw [List.mem_filter, List.mem_map]
  constructor
  · rintro ⟨⟨n, _, rfl⟩, hd⟩
    exact ⟨of_decide_eq_true hd, weekday_range _⟩
  · rintro ⟨hd, hRange⟩
    refine ⟨⟨(daysUntil start d).toNat, ?_, ?_⟩, decide_eq_true hd⟩
    · unfold daysUntil
      rw [List.mem_range]
      omega
    · simp only [daysUntil, Date.weekday, Date.addDays]
      omega

/- Each weekday of a round comes later than those before it. -/
theorem roundFrom_ascending
    (start : Date)
    (weekdays : List Int) :
    (roundFrom start weekdays).Pairwise
      (fun a b => daysUntil start a < daysUntil start b) := by
  apply List.Pairwise.filter
  rw [List.pairwise_map]
  apply List.pairwise_lt_range.imp_of_mem
  intro m n hm hn hLess
  rw [daysUntil_weekday start (List.mem_range.mp hm),
    daysUntil_weekday start (List.mem_range.mp hn)]
  exact Int.ofNat_lt.mpr hLess

theorem roundFrom_nodup
    (start : Date)
    (weekdays : List Int) :
    (roundFrom start weekdays).Nodup := by
  apply (roundFrom_ascending start weekdays).imp
  rintro a _ hLess rfl
  exact Int.lt_irrefl _ hLess

/- A round has every selected weekday once. -/
theorem roundFrom_perm
    (start : Date)
    {weekdays : List Int}
    (hSelects : Selects weekdays) :
    (roundFrom start weekdays).Perm weekdays.dedup := by
  rw [List.perm_ext_iff_of_nodup (roundFrom_nodup start weekdays)
    weekdays.nodup_dedup]
  intro d
  rw [mem_roundFrom, List.mem_dedup]
  constructor
  · exact And.left
  · exact fun hd => ⟨hd, hSelects.range d hd⟩

theorem roundFrom_congr
    {weekdays days : List Int}
    (hSame : ∀ d, d ∈ days ↔ d ∈ weekdays)
    (start : Date) :
    roundFrom start days = roundFrom start weekdays := by
  unfold roundFrom
  apply List.filter_congr
  intro d _
  rw [decide_eq_decide]
  exact hSame d

------------------------------------------------------------
-- The Round of a Selection
------------------------------------------------------------

section Places

variable {days : List Int} (hDays : ValidDays days)

include hDays

/-
  The first day that is not behind divides the days: those
  before its place are behind, and those from it on are not.
-/
theorem divided_by_place
    {today : Int}
    {i : Nat}
    (hFound : days.findIdx? (fun d => today ≤ d) = some i) :
    (∀ d ∈ days.drop i, today ≤ d) ∧ ∀ d ∈ days.take i, d < today := by
  rcases List.findIdx?_eq_some_iff_getElem.mp hFound with
    ⟨hi, hAhead, hEarlier⟩
  constructor
  · intro d hd
    rcases List.mem_drop_iff_getElem.mp hd with ⟨j, hj, rfl⟩
    have hReached : today ≤ days[i] := of_decide_eq_true hAhead
    rcases Nat.eq_zero_or_pos j with rfl | hPos
    · exact hReached
    · have hOrder :=
        List.pairwise_iff_getElem.mp hDays.ascending i (i + j) hi
          (by omega) (by omega)
      exact hReached.trans hOrder.le
  · intro d hd
    rcases List.mem_take_iff_getElem.mp hd with ⟨j, hj, rfl⟩
    simpa using hEarlier j (by omega)

/-
  From the place where a rotation starts, the days come later
  and later: first those that are ahead in the week of the
  start, and then those that are behind, a week later.
-/
theorem rotate_anchor_ascending
    (start : Date) :
    (days.rotate (anchor start days).2).Pairwise
      (fun a b => daysUntil start a < daysUntil start b) := by
  unfold anchor
  simp only
  split
  · rename_i i hFound
    have hDivided := divided_by_place hDays hFound
    rcases List.findIdx?_eq_some_iff_getElem.mp hFound with ⟨hi, _⟩
    have hLater :
        ∀ d ∈ days.drop i, daysUntil start d = d - start.weekday :=
      fun d hd =>
        daysUntil_of_ahead (hDivided.1 d hd)
          (hDays.range d (List.mem_of_mem_drop hd)).2
    have hPassed :
        ∀ d ∈ days.take i, daysUntil start d = d - start.weekday + 7 :=
      fun d hd =>
        daysUntil_of_behind (hDays.range d (List.mem_of_mem_take hd)).1
          (hDivided.2 d hd)
    rw [List.rotate_eq_drop_append_take hi.le, List.pairwise_append]
    refine ⟨?_, ?_, ?_⟩
    · apply (hDays.ascending.sublist (List.drop_sublist i days)).imp_of_mem
      intro a b ha hb hLess
      rw [hLater a ha, hLater b hb]
      omega
    · apply (hDays.ascending.sublist (List.take_sublist i days)).imp_of_mem
      intro a b ha hb hLess
      rw [hPassed a ha, hPassed b hb]
      omega
    · intro a ha b hb
      have hFirst := hDays.range a (List.mem_of_mem_drop ha)
      have hSecond := hDays.range b (List.mem_of_mem_take hb)
      rw [hLater a ha, hPassed b hb]
      omega
  · rename_i hNone
    have hPassed : ∀ d ∈ days, daysUntil start d = d - start.weekday + 7 := by
      intro d hd
      have hBehind := List.findIdx?_eq_none_iff.mp hNone d hd
      exact daysUntil_of_behind (hDays.range d hd).1 (by simpa using hBehind)
    rw [List.rotate_zero]
    apply hDays.ascending.imp_of_mem
    intro a b ha hb hLess
    rw [hPassed a ha, hPassed b hb]
    omega

/- The rotation goes through a selection in rounds from the start on. -/
theorem roundFrom_eq_rotate
    (start : Date) :
    roundFrom start days = days.rotate (anchor start days).2 := by
  have hPerm :
      (roundFrom start days).Perm
        (days.rotate (anchor start days).2) := by
    have hRound := roundFrom_perm start ⟨hDays.nonempty, hDays.range⟩
    rw [List.dedup_eq_self.mpr (hDays.ascending.imp Int.ne_of_lt)] at hRound
    exact hRound.trans (List.rotate_perm _ _).symm
  apply List.Perm.eq_of_pairwise _ (roundFrom_ascending start days)
    (rotate_anchor_ascending hDays start) hPerm
  intro a b _ _ hLess hMore
  exact absurd hLess (Int.lt_asymm hMore)

/- Days that are handed out have the weekdays of a selection in turn. -/
theorem rotate_weekdays
    {cursor : Date}
    {i : Nat}
    (hi : i < days.length)
    (hCursor : cursor.weekday = days.getD i 0)
    (slots : List Slot) :
    (rotate days cursor i slots).map (·.date.weekday) =
      (List.range slots.length).map (fun j =>
        days.getD ((i + j) % days.length) 0) := by
  -- what each step keeps is that the cursor has the weekday at its place
  induction slots generalizing cursor i with
  | nil => rfl
  | cons slot rest ih =>
      have hNext : (i + 1) % days.length < days.length :=
        Nat.mod_lt _ (by omega)
      have hWeekday := (advance_next hDays hi hCursor).1
      have hLater :
          ∀ j,
            ((i + 1) % days.length + j) % days.length =
              (i + (j + 1)) % days.length := by
        intro j
        rw [Nat.mod_add_mod, Nat.add_assoc, Nat.add_comm 1 j]
      have hFirst : days.getD ((i + 0) % days.length) 0 = cursor.weekday := by
        rw [Nat.add_zero, Nat.mod_eq_of_lt hi, hCursor]
      rw [rotate, List.map_cons, ih hNext hWeekday, List.length_cons,
        List.range_succ_eq_map, List.map_cons, List.map_map, hFirst]
      apply congrArg (cursor.weekday :: ·)
      apply List.map_congr_left
      intro j _
      rw [hLater]
      rfl

end Places

------------------------------------------------------------
-- Turns
------------------------------------------------------------

/- The members of a round in turn, as many as there are turns. -/
def turns
    (round : List Int)
    (count : Nat) : List Int :=
  (List.range count).map (fun j => round.getD (j % round.length) 0)

/-
  Each member of a round has a turn in every full round, and
  one more if it comes before the last round is broken off.
-/
theorem count_turns
    {round : List Int}
    (hRound : round ≠ [])
    (hNodup : round.Nodup)
    (count : Nat)
    (d : Int) :
    (turns round count).count d =
      if d ∈ round then
        count / round.length +
          if d ∈ round.take (count % round.length) then 1 else 0
      else 0 := by
  have hLength : 0 < round.length := List.length_pos_iff.mpr hRound
  have hPlace : ∀ j, j % round.length < round.length :=
    fun j => Nat.mod_lt j hLength
  by_cases hMember : d ∈ round
  · rcases List.getElem_of_mem hMember with ⟨v, hv, rfl⟩
    -- a day is at one place only, so that a turn tells the remainder
    have hTurn :
        ∀ j, round.getD (j % round.length) 0 = round[v] ↔
          j ≡ v [MOD round.length] := by
      intro j
      rw [List.getD_eq_getElem _ _ (hPlace j), hNodup.getElem_inj_iff,
        Nat.ModEq, Nat.mod_eq_of_lt hv]
    have hTaken :
        round[v] ∈ round.take (count % round.length) ↔
          v < count % round.length := by
      rw [List.mem_take_iff_getElem]
      constructor
      · rintro ⟨j, hj, hSame⟩
        rw [hNodup.getElem_inj_iff] at hSame
        omega
      · intro hLess
        exact ⟨v, by omega, rfl⟩
    rw [if_pos hMember, turns, List.count_eq_countP, List.countP_map]
    calc
      (List.range count).countP
            ((fun x => x == round[v]) ∘
              fun j => round.getD (j % round.length) 0)
        = (List.range count).countP
            (fun j => decide (j ≡ v [MOD round.length])) := by
          apply List.countP_congr
          intro j _
          rw [Function.comp_apply, beq_iff_eq, decide_eq_true_iff]
          exact hTurn j
      _ = count / round.length +
            if v < count % round.length then 1 else 0 := by
          change Nat.count (· ≡ v [MOD round.length]) count = _
          rw [Nat.count_modEq_card count hLength, Nat.mod_eq_of_lt hv]
      _ = _ := by
          simp only [hTaken]
  · rw [if_neg hMember, List.count_eq_zero]
    intro hTurn
    rcases List.mem_map.mp hTurn with ⟨j, _, rfl⟩
    exact hMember (getD_mem (hPlace j))

/- The weekdays of assigned days are those of the round in turn. -/
theorem assignDates_turns
    {weekdays days : List Int}
    (hAccepted : normalizeWeekdays weekdays = .ok days)
    {slots : List Slot}
    {start : Date}
    {dated : List DatedSlot}
    (hDated : assignDates slots start weekdays = .ok dated) :
    dated.map (·.date.weekday) =
      turns (roundFrom start weekdays) slots.length := by
  have hDays := normalizeWeekdays_valid hAccepted
  have hPlace := anchor_place hDays start
  rw [assignDates_eq hAccepted] at hDated
  cases hDated
  rw [rotate_weekdays hDays hPlace (anchor_first hDays start).2.1,
    (List.mergeSort_perm slots Slot.before).length_eq, turns,
    ← roundFrom_congr (mem_normalizeWeekdays hAccepted) start,
    roundFrom_eq_rotate hDays start, List.length_rotate]
  apply List.map_congr_left
  intro j _
  have hj : j % days.length < days.length := Nat.mod_lt _ (by omega)
  rw [List.getD_eq_getElem _ _ (Nat.mod_lt _ (by omega)),
    List.getD_eq_getElem _ _ (by rwa [List.length_rotate]),
    List.getElem_rotate]
  simp only [Nat.mod_add_mod, Nat.add_comm]

/-
  Among the slots of a plan the selected weekdays are shared
  out fairly.  Each has as many days as there are full rounds,
  and one more if it is among the first of a round from the
  start on, as many as the slots that full rounds leave over.
  No other weekday has any.
-/
theorem assignDates_fair
    (slots : List Slot)
    (start : Date)
    {weekdays : List Int}
    (hSelects : Selects weekdays) :
    ∃ dated,
      assignDates slots start weekdays = .ok dated ∧
      (roundFrom start weekdays).Perm weekdays.dedup ∧
      ∀ d,
        dated.countP (fun s => s.date.weekday = d) =
          if d ∈ weekdays then
            slots.length / weekdays.dedup.length +
              if d ∈ (roundFrom start weekdays).take
                  (slots.length % weekdays.dedup.length) then 1
              else 0
          else 0 := by
  rcases normalizeWeekdays_isOk_iff.mpr hSelects with ⟨days, hAccepted⟩
  have hDated := assignDates_eq hAccepted slots start
  have hPerm := roundFrom_perm start hSelects
  have hMember : ∀ d, d ∈ roundFrom start weekdays ↔ d ∈ weekdays := by
    intro d
    rw [hPerm.mem_iff, List.mem_dedup]
  have hRound : roundFrom start weekdays ≠ [] := by
    rcases List.exists_mem_of_ne_nil weekdays hSelects.nonempty with ⟨d, hd⟩
    exact List.ne_nil_of_mem ((hMember d).mpr hd)
  refine ⟨_, hDated, hPerm, ?_⟩
  intro d
  have hCount :=
    count_turns hRound (roundFrom_nodup start weekdays) slots.length d
  rw [← assignDates_turns hAccepted hDated, List.count_eq_countP,
    List.countP_map, hPerm.length_eq] at hCount
  simp only [hMember] at hCount
  rw [← hCount]
  apply List.countP_congr
  intro s _
  rw [Function.comp_apply, beq_iff_eq, decide_eq_true_iff]

/- Five slots of two weeks. -/
def fiveSlots : List Slot :=
  [⟨"a", 1, 1⟩, ⟨"b", 1, 2⟩, ⟨"c", 1, 3⟩, ⟨"d", 2, 1⟩, ⟨"e", 2, 2⟩]

/-
  From a Thursday on, Friday and Monday come before Wednesday:
  they have two of five slots each, and Wednesday has one.
-/
theorem assignDates_fair_from_thursday :
    Selects [3, 1, 3, 5] ∧
    ∃ dated,
      assignDates fiveSlots ⟨0⟩ [3, 1, 3, 5] = .ok dated ∧
      roundFrom ⟨0⟩ [3, 1, 3, 5] = [5, 1, 3] ∧
      dated.countP (fun s => s.date.weekday = 5) = 2 ∧
      dated.countP (fun s => s.date.weekday = 1) = 2 ∧
      dated.countP (fun s => s.date.weekday = 3) = 1 ∧
      dated.countP (fun s => s.date.weekday = 0) = 0 := by
  have hSelects : Selects [3, 1, 3, 5] := ⟨by decide, by decide⟩
  rcases assignDates_fair fiveSlots ⟨0⟩ hSelects with
    ⟨dated, hDated, _, hCount⟩
  refine ⟨hSelects, dated, hDated, by decide, ?_, ?_, ?_, ?_⟩
  · rw [hCount]
    decide
  · rw [hCount]
    decide
  · rw [hCount]
    decide
  · rw [hCount]
    decide

end Timetable.Plan
