import Timetable.Plan.Weekday

/-
  This file shows that weekdays which the service accepts or
  chooses by itself are valid: days of the week, at least one
  of them, in ascending order.

  Key definitions include:
    * `ValidDays`
    * `Selects`

  Main theorems include:
    * `normalizeWeekdays_valid`
    * `normalizeWeekdays_isOk_iff`
    * `ValidDays.normalize`
    * `defaultWeekdays_valid`
-/

namespace Timetable.Plan

/- Days of a week, at least one, in ascending order. -/
structure ValidDays (days : List Int) : Prop where
  nonempty : days ≠ []
  ascending : days.Pairwise (· < ·)
  range : ∀ d ∈ days, 0 ≤ d ∧ d ≤ 6

------------------------------------------------------------
-- Insertion
------------------------------------------------------------

theorem mem_insertDay
    (d e : Int)
    (days : List Int) :
    e ∈ insertDay d days ↔ e = d ∨ e ∈ days := by
  induction days with
  | nil => simp [insertDay]
  | cons first rest ih =>
      unfold insertDay
      split
      · simp
      · split
        · rename_i hSame
          subst hSame
          simp
        · rw [List.mem_cons, ih, List.mem_cons]
          constructor
          · rintro (h | h | h) <;> simp [h]
          · rintro (h | h | h) <;> simp [h]

theorem insertDay_ascending
    (d : Int)
    (days : List Int)
    (hAscending : days.Pairwise (· < ·)) :
    (insertDay d days).Pairwise (· < ·) := by
  induction days with
  | nil => simp [insertDay]
  | cons first rest ih =>
      rcases List.pairwise_cons.mp hAscending with ⟨hFirst, hRest⟩
      unfold insertDay
      split
      · rename_i hLess
        refine List.pairwise_cons.mpr ⟨?_, hAscending⟩
        intro e he
        rcases List.mem_cons.mp he with rfl | he
        · exact hLess
        · exact Int.lt_trans hLess (hFirst e he)
      · split
        · exact hAscending
        · rename_i hNotLess hOther
          refine List.pairwise_cons.mpr ⟨?_, ih hRest⟩
          intro e he
          rcases (mem_insertDay d e rest).mp he with rfl | he
          · omega
          · exact hFirst e he

------------------------------------------------------------
-- Selections
------------------------------------------------------------

/- Inserting days one by one keeps the order and adds nothing else. -/
theorem foldl_insertDay
    (days sorted : List Int)
    (hAscending : sorted.Pairwise (· < ·)) :
    (days.foldl (fun sorted d => insertDay d sorted)
        sorted).Pairwise (· < ·) ∧
      ∀ e, e ∈ days.foldl (fun sorted d => insertDay d sorted) sorted ↔
        e ∈ sorted ∨ e ∈ days := by
  induction days generalizing sorted with
  | nil => simp [hAscending]
  | cons d rest ih =>
      rcases ih (insertDay d sorted)
          (insertDay_ascending d sorted hAscending) with
        ⟨hOrder, hMem⟩
      refine ⟨hOrder, ?_⟩
      intro e
      rw [List.foldl_cons, hMem e, mem_insertDay, List.mem_cons]
      constructor
      · rintro ((h | h) | h) <;> simp [h]
      · rintro (h | h | h) <;> simp [h]

/- A selection that is accepted is put into a valid form. -/
theorem normalizeWeekdays_valid
    {days normalized : List Int}
    (h : normalizeWeekdays days = .ok normalized) :
    ValidDays normalized := by
  unfold normalizeWeekdays at h
  split at h
  · cases h
  · rename_i hSome
    split at h
    · cases h
    · rename_i hRange
      cases h
      rcases foldl_insertDay days [] List.Pairwise.nil with
        ⟨hOrder, hMem⟩
      refine ⟨?_, hOrder, ?_⟩
      · intro hNone
        rcases days with _ | ⟨d, rest⟩
        · simp at hSome
        · have hIn : d ∈ ascendingDays (d :: rest) :=
            (hMem d).mpr (Or.inr (by simp))
          rw [hNone] at hIn
          cases hIn
      · intro d hd
        have hIn : d ∈ days := by
          rcases (hMem d).mp hd with h | h
          · cases h
          · exact h
        have hDay := List.find?_eq_none.mp hRange d hIn
        simp only [isWeekday, Bool.not_eq_true', Bool.not_eq_false,
          Bool.and_eq_true, decide_eq_true_eq] at hDay
        exact hDay

/- Numbers that select days of a week: at least one, in any order, repeated or not. -/
structure Selects (weekdays : List Int) : Prop where
  nonempty : weekdays ≠ []
  range : ∀ d ∈ weekdays, 0 ≤ d ∧ d ≤ 6

/- What is accepted is put into order, and nothing is added or left out. -/
theorem mem_normalizeWeekdays
    {weekdays days : List Int}
    (h : normalizeWeekdays weekdays = .ok days)
    (d : Int) :
    d ∈ days ↔ d ∈ weekdays := by
  unfold normalizeWeekdays at h
  split at h
  · cases h
  · split at h
    · cases h
    · cases h
      have hMem := (foldl_insertDay weekdays [] List.Pairwise.nil).2 d
      simpa [ascendingDays] using hMem

/- Accepted is what selects days, and nothing else. -/
theorem normalizeWeekdays_isOk_iff
    {weekdays : List Int} :
    (∃ days, normalizeWeekdays weekdays = .ok days) ↔
      Selects weekdays := by
  unfold normalizeWeekdays
  constructor
  · rintro ⟨days, h⟩
    split at h
    · cases h
    · rename_i hSome
      split at h
      · cases h
      · rename_i hRange
        refine ⟨by simpa using hSome, ?_⟩
        intro d hd
        have hDay := List.find?_eq_none.mp hRange d hd
        simpa [isWeekday] using hDay
  · rintro ⟨hSome, hRange⟩
    have hNone : weekdays.find? (fun d => !isWeekday d) = none := by
      apply List.find?_eq_none.mpr
      intro d hd
      simpa [isWeekday] using hRange d hd
    rw [if_neg (by simpa using hSome), hNone]
    exact ⟨_, rfl⟩

/- A day behind all others of a list is inserted at its end. -/
theorem insertDay_eq_append
    {d : Int}
    {days : List Int}
    (hLast : ∀ e ∈ days, e < d) :
    insertDay d days = days ++ [d] := by
  induction days with
  | nil => rfl
  | cons first rest ih =>
      have hFirst := hLast first (by simp)
      unfold insertDay
      rw [if_neg (by omega), if_neg (by omega),
        ih (fun e he => hLast e (by simp [he]))]
      rfl

theorem foldl_insertDay_eq_append
    (days sorted : List Int)
    (hAscending : (sorted ++ days).Pairwise (· < ·)) :
    days.foldl (fun sorted d => insertDay d sorted) sorted =
      sorted ++ days := by
  induction days generalizing sorted with
  | nil => simp
  | cons d rest ih =>
      have hBefore : ∀ e ∈ sorted, e < d := by
        intro e he
        exact (List.pairwise_append.mp hAscending).2.2 e he d (by simp)
      have hAppend : sorted ++ d :: rest = (sorted ++ [d]) ++ rest := by
        simp
      rw [List.foldl_cons, insertDay_eq_append hBefore, hAppend]
      rw [hAppend] at hAscending
      exact ih (sorted ++ [d]) hAscending

/- Valid days are accepted as they are. -/
theorem ValidDays.normalize
    {days : List Int}
    (hDays : ValidDays days) :
    normalizeWeekdays days = .ok days := by
  have hSome : days.isEmpty = false := by
    simpa using hDays.nonempty
  have hRange : days.find? (fun d => !isWeekday d) = none := by
    apply List.find?_eq_none.mpr
    intro d hd
    simp [isWeekday, hDays.range d hd]
  unfold normalizeWeekdays ascendingDays
  rw [hSome, hRange, foldl_insertDay_eq_append days [] hDays.ascending]
  rfl

/- The days that are chosen for a plan at first are valid. -/
theorem defaultWeekdays_valid
    (daysPerWeek : Int) :
    ValidDays (defaultWeekdays daysPerWeek) := by
  unfold defaultWeekdays
  split
  · exact ⟨by decide, by decide, by decide⟩
  · split
    · exact ⟨by decide, by decide, by decide⟩
    · split
      · exact ⟨by decide, by decide, by decide⟩
      · split
        · exact ⟨by decide, by decide, by decide⟩
        · exact ⟨by decide, by decide, by decide⟩

end Timetable.Plan
