import Mathlib.Logic.ExistsUnique
import Timetable.Proofs.Plan.Numbering
import Timetable.Proofs.Plan.Weeks

/-
  This file says what the weeks of a period are.  They are
  numbered from one and follow each other without a gap, each
  has seven days except perhaps the last, and together they
  are the period.  A week has no time when it has a day in
  common with a vacation, and otherwise the minutes of all
  weeks, but never less than none.

  Key definitions include:
    * `weekCount`
    * `Tiles`

  Main theorems include:
    * `weeksFrom_eq_map`
    * `buildWeeks_tiles`
    * `weeklyMinutes_eq_max`
    * `buildWeeks_divides`
-/

namespace Timetable.Plan

variable {α : Type}

------------------------------------------------------------
-- Weeks in a Row
------------------------------------------------------------

/- How many weeks there are from a day on until the end of a period. -/
def weekCount (start finish : Date) : Nat :=
  ((finish.day - start.day) / 7 + 1).toNat

theorem eq_of_day
    {first second : Date}
    (hDay : first.day = second.day) :
    first = second := by
  cases first
  cases second
  exact congrArg Date.mk hDay

section Rows

variable [Scalar α]

/- The weeks of a period, each from the day on which it starts. -/
theorem weeksFrom_eq_map
    (finish : Date)
    (vacations : List Vacation)
    (minutes : α)
    (cursor : Date)
    (number : Int) :
    weeksFrom finish vacations minutes cursor number =
      (List.range (weekCount cursor finish)).map (fun i : Nat =>
        weekAt finish vacations minutes (cursor.addDays (7 * i)) (number + i)) := by
  fun_induction weeksFrom finish vacations minutes cursor number with
  | case1 cursor number hOver =>
      have hNone : weekCount cursor finish = 0 := by
        have hLess : finish.day < cursor.day := hOver
        unfold weekCount
        omega
      simp [hNone]
  | case2 cursor number hCursor ih =>
      have hMore :
          weekCount cursor finish =
            weekCount (cursor.addDays 7) finish + 1 := by
        have hLess : ¬ finish.day < cursor.day := hCursor
        simp only [weekCount, Date.addDays]
        omega
      have hLater :
          ∀ i : Nat,
            weekAt finish vacations minutes
                ((cursor.addDays 7).addDays (7 * i)) (number + 1 + i) =
              weekAt finish vacations minutes
                (cursor.addDays (7 * (i + 1 : Nat))) (number + (i + 1 : Nat)) := by
        intro i
        have hDay :
            (cursor.addDays 7).addDays (7 * i) =
              cursor.addDays (7 * (i + 1 : Nat)) := by
          simp only [Date.addDays, Date.mk.injEq]
          omega
        have hNumber : number + 1 + (i : Int) = number + (i + 1 : Nat) := by
          omega
        rw [hDay, hNumber]
      have hFirst : cursor.addDays (7 * (0 : Nat)) = cursor := by
        simp [Date.addDays]
      have hStart : number + ((0 : Nat) : Int) = number := by
        omega
      rw [hMore, List.range_succ_eq_map, List.map_cons, List.map_map, ih,
        hFirst, hStart]
      exact congrArg (_ :: ·) (List.map_congr_left (fun i _ => hLater i))

theorem weekAt_finish_day
    (finish : Date)
    (vacations : List Vacation)
    (minutes : α)
    (cursor : Date)
    (number : Int) :
    (weekAt finish vacations minutes cursor number).finish.day =
      min (cursor.day + 6) finish.day := by
  change (Date.earlier (cursor.addDays 6) finish).day = _
  unfold Date.earlier
  split
  · rename_i hLess
    change finish.day < cursor.day + 6 at hLess
    omega
  · rename_i hLess
    change ¬ finish.day < cursor.day + 6 at hLess
    change cursor.day + 6 = _
    omega

end Rows

------------------------------------------------------------
-- Periods and their Weeks
------------------------------------------------------------

/-
  Weeks are numbered from one and divide a period among them:
  each of seven days except the last, each from the day after
  the one before, and so each day of the period in one week.
-/
structure Tiles
    (start finish : Date)
    (weeks : List (Week α)) : Prop where
  count : (weeks.length : Int) = (finish.day - start.day) / 7 + 1
  numbers : weeks.map (·.number) = countingTo weeks.length
  first : ∀ w, weeks.head? = some w → w.start = start
  full :
    ∀ i v w, weeks[i]? = some v → weeks[i + 1]? = some w →
      v.finish = v.start.addDays 6
  follows :
    ∀ i v w, weeks[i]? = some v → weeks[i + 1]? = some w →
      w.start = v.finish.addDays 1
  last :
    ∀ w, weeks.getLast? = some w →
      w.finish = finish ∧ w.start ≤ finish ∧ finish ≤ w.start.addDays 6
  once :
    ∀ day, start ≤ day → day ≤ finish →
      ∃! w, w ∈ weeks ∧ w.start ≤ day ∧ day ≤ w.finish

section Tables

variable [Scalar α]

/- The week at a place of a table. -/
theorem getElem?_buildWeeks
    {start finish : Date}
    {vacations : List Vacation}
    {hoursPerDay : α}
    {studyDays : Int}
    {i : Nat}
    {w : Week α}
    (hw :
      (buildWeeks start finish vacations hoursPerDay studyDays)[i]? =
        some w) :
    i < weekCount start finish ∧
      w.number = 1 + i ∧ w.start.day = start.day + 7 * i ∧
      w.finish.day = min (start.day + 7 * i + 6) finish.day := by
  unfold buildWeeks at hw
  rw [weeksFrom_eq_map, List.getElem?_map, Option.map_eq_some_iff] at hw
  rcases hw with ⟨j, hj, rfl⟩
  rcases List.getElem?_eq_some_iff.mp hj with ⟨hi, hPlace⟩
  rw [List.length_range] at hi
  rw [List.getElem_range] at hPlace
  subst hPlace
  exact ⟨hi, rfl, rfl, weekAt_finish_day _ _ _ _ _⟩

theorem length_buildWeeks
    (start finish : Date)
    (vacations : List Vacation)
    (hoursPerDay : α)
    (studyDays : Int) :
    (buildWeeks start finish vacations hoursPerDay studyDays).length =
      weekCount start finish := by
  unfold buildWeeks
  rw [weeksFrom_eq_map, List.length_map, List.length_range]

/- The weeks of a period divide it. -/
theorem buildWeeks_tiles
    {start finish : Date}
    (hPeriod : start ≤ finish)
    (vacations : List Vacation)
    (hoursPerDay : α)
    (studyDays : Int) :
    Tiles start finish
      (buildWeeks start finish vacations hoursPerDay studyDays) := by
  have hOrder : start.day ≤ finish.day := hPeriod
  have hCount :
      (weekCount start finish : Int) =
        (finish.day - start.day) / 7 + 1 := by
    unfold weekCount
    omega
  have hLength :=
    length_buildWeeks start finish vacations hoursPerDay studyDays
  refine ⟨?_, ?_, ?_, ?_, ?_, ?_, ?_⟩
  · rw [hLength, hCount]
  · rw [hLength]
    unfold buildWeeks countingTo
    rw [weeksFrom_eq_map, List.map_map]
    apply List.map_congr_left
    intro i _
    exact Int.add_comm 1 i
  · intro w hw
    rw [List.head?_eq_getElem?] at hw
    rcases getElem?_buildWeeks hw with ⟨_, _, hStart, _⟩
    apply eq_of_day
    omega
  · intro i v w hv hw
    rcases getElem?_buildWeeks hv with ⟨_, _, hStart, hFinish⟩
    rcases getElem?_buildWeeks hw with ⟨hLess, _, _, _⟩
    apply eq_of_day
    change v.finish.day = v.start.day + 6
    omega
  · intro i v w hv hw
    rcases getElem?_buildWeeks hv with ⟨_, _, _, hFinish⟩
    rcases getElem?_buildWeeks hw with ⟨hLess, _, hStart, _⟩
    apply eq_of_day
    change w.start.day = v.finish.day + 1
    omega
  · intro w hw
    rw [List.getLast?_eq_getElem?, hLength] at hw
    rcases getElem?_buildWeeks hw with ⟨_, _, hStart, hFinish⟩
    refine ⟨eq_of_day ?_, ?_, ?_⟩
    · omega
    · change w.start.day ≤ finish.day
      omega
    · change finish.day ≤ w.start.day + 6
      omega
  · intro day hSince hUntil
    change start.day ≤ day.day at hSince
    change day.day ≤ finish.day at hUntil
    -- the week of a day is found by division
    have hPlace :
        ((day.day - start.day) / 7).toNat <
          (buildWeeks start finish vacations hoursPerDay studyDays).length := by
      rw [hLength]
      omega
    have hFound := List.getElem?_eq_getElem hPlace
    rcases getElem?_buildWeeks hFound with ⟨_, _, hStart, hFinish⟩
    refine ⟨_, ⟨List.getElem_mem hPlace, ?_, ?_⟩, ?_⟩
    · change _ ≤ day.day
      omega
    · change day.day ≤ _
      omega
    · rintro w ⟨hw, hFrom, hTill⟩
      change w.start.day ≤ day.day at hFrom
      change day.day ≤ w.finish.day at hTill
      rcases List.getElem?_of_mem hw with ⟨i, hi⟩
      rcases getElem?_buildWeeks hi with ⟨_, _, hStart', hFinish'⟩
      have hSame : i = ((day.day - start.day) / 7).toNat := by
        omega
      subst hSame
      rw [hFound] at hi
      exact (Option.some.inj hi).symm

end Tables

------------------------------------------------------------
-- Time for Study
------------------------------------------------------------

/- The minutes of a week are never less than none. -/
theorem weeklyMinutes_eq_max
    {hoursPerDay : Float}
    {studyDays : Int}
    (hNumber :
      (hoursPerDay * Float.ofInt studyDays * 60).isNaN = false) :
    weeklyMinutes hoursPerDay studyDays =
      max 0 (hoursPerDay * Float.ofInt studyDays * 60) := by
  change (if hoursPerDay * Float.ofInt studyDays * 60 < 0 then 0
      else hoursPerDay * Float.ofInt studyDays * 60) =
    if 0 ≤ hoursPerDay * Float.ofInt studyDays * 60 then
      hoursPerDay * Float.ofInt studyDays * 60
    else 0
  generalize hoursPerDay * Float.ofInt studyDays * 60 = minutes at *
  by_cases hLess : minutes < 0
  · rw [if_pos hLess, if_neg (Decimal.not_le_of_lt hLess)]
  · have hEnough : 0 ≤ minutes := by
      by_contra hNot
      exact hLess (Decimal.lt_of_not_le hNumber (by decide +kernel) hNot)
    rw [if_neg hLess, if_pos hEnough]

/- What is not a number is neither less than none nor made one. -/
theorem weeklyMinutes_isNaN
    {hoursPerDay : Float}
    {studyDays : Int}
    (hNone :
      (hoursPerDay * Float.ofInt studyDays * 60).isNaN = true) :
    (weeklyMinutes hoursPerDay studyDays).isNaN = true := by
  change (if hoursPerDay * Float.ofInt studyDays * 60 < 0 then 0
    else hoursPerDay * Float.ofInt studyDays * 60).isNaN = true
  generalize hoursPerDay * Float.ofInt studyDays * 60 = minutes at *
  have hNot : ¬ minutes < 0 := by
    rw [Decimal.lt_iff_compare]
    change minutes.toModel.unpack.isNaN = true at hNone
    cases hModel : minutes.toModel.unpack with
    | notANumber => exact nofun
    | _ =>
        rw [hModel] at hNone
        cases hNone
  rw [if_neg hNot]
  exact hNone

/- A week has the minutes of all weeks, or none. -/
theorem capacity_of_mem_buildWeeks
    [Scalar α]
    {start finish : Date}
    {vacations : List Vacation}
    {hoursPerDay : α}
    {studyDays : Int}
    {w : Week α}
    (hw : w ∈ buildWeeks start finish vacations hoursPerDay studyDays) :
    w.capacity =
      if w.isVacation then Scalar.zero
      else weeklyMinutes hoursPerDay studyDays := by
  rcases mem_weeksFrom hw with ⟨day, n, _, rfl⟩
  rfl

/-
  A period that ends no sooner than it starts is divided among
  its weeks.  With vacations that do so too, a week counts as
  vacation when it has a day in common with one.  Then it has
  no minutes, and otherwise those of the hours of the days of
  study, but never less than none.
-/
theorem buildWeeks_divides
    (start finish : Date)
    (vacations : List Vacation)
    (hoursPerDay : Float)
    (studyDays : Int)
    (weeks : List (Week Float))
    (hWeeks :
      weeks = buildWeeks start finish vacations hoursPerDay studyDays)
    (hPeriod : start ≤ finish)
    (hVacations : ∀ v ∈ vacations, v.start ≤ v.finish) :
    Tiles start finish weeks ∧
    ∀ w ∈ weeks,
      (w.isVacation = true ↔ ∃ v ∈ vacations, w.Meets v) ∧
      (w.isVacation = true → w.capacity = 0) ∧
      (w.isVacation = false →
        if (hoursPerDay * Float.ofInt studyDays * 60).isNaN then
          w.capacity.isNaN = true
        else
          w.capacity = max 0 (hoursPerDay * Float.ofInt studyDays * 60)) := by
  subst hWeeks
  refine ⟨buildWeeks_tiles hPeriod vacations hoursPerDay studyDays, ?_⟩
  intro w hw
  have hCapacity := capacity_of_mem_buildWeeks hw
  refine ⟨buildWeeks_isVacation_iff hVacations hw, ?_, ?_⟩
  · intro hVacation
    rw [hCapacity, if_pos hVacation]
    rfl
  · intro hStudy
    rw [hStudy, if_neg Bool.false_ne_true] at hCapacity
    rw [hCapacity]
    split
    · rename_i hNone
      exact weeklyMinutes_isNaN hNone
    · rename_i hNumber
      exact weeklyMinutes_eq_max (Bool.eq_false_iff.mpr hNumber)

/-
  Of a week and three days the vacation on the second of these
  takes the shorter week, and the other keeps six hours.
-/
theorem buildWeeks_divides_ten_days :
    (buildWeeks ⟨0⟩ ⟨9⟩ [⟨⟨8⟩, ⟨8⟩⟩] (1.5 : Float) 4).length = 2 ∧
    ∀ w ∈ buildWeeks ⟨0⟩ ⟨9⟩ [⟨⟨8⟩, ⟨8⟩⟩] (1.5 : Float) 4,
      (w.start = ⟨7⟩ → w.isVacation = true ∧ w.capacity = 0) ∧
      (w.finish = ⟨6⟩ → w.isVacation = false ∧ w.capacity = 360) := by
  rcases
      buildWeeks_divides ⟨0⟩ ⟨9⟩ [⟨⟨8⟩, ⟨8⟩⟩] 1.5 4 _ rfl (by decide)
        (by decide) with
    ⟨hTiles, hWeeks⟩
  have hCount := hTiles.count
  refine ⟨Int.ofNat.inj hCount, ?_⟩
  intro w hw
  rcases hWeeks w hw with ⟨hVacation, hNone, hTime⟩
  have hTable :
      buildWeeks ⟨0⟩ ⟨9⟩ [⟨⟨8⟩, ⟨8⟩⟩] (1.5 : Float) 4 =
        [weekAt ⟨9⟩ [⟨⟨8⟩, ⟨8⟩⟩] (weeklyMinutes 1.5 4) ⟨0⟩ 1,
          weekAt ⟨9⟩ [⟨⟨8⟩, ⟨8⟩⟩] (weeklyMinutes 1.5 4) ⟨7⟩ 2] := by
    unfold buildWeeks
    rw [weeksFrom_eq_map]
    rfl
  rw [hTable] at hw
  rcases List.mem_cons.mp hw with rfl | hSecond
  · refine ⟨nofun, fun _ => ⟨rfl, ?_⟩⟩
    have hMinutes := hTime rfl
    rw [if_neg (by decide +kernel)] at hMinutes
    rw [hMinutes]
    decide +kernel
  · rw [List.mem_singleton.mp hSecond] at hVacation hNone ⊢
    have hMeets := hVacation.mpr
      ⟨⟨⟨8⟩, ⟨8⟩⟩, List.mem_cons_self, ⟨8⟩, by decide, by decide⟩
    exact ⟨fun _ => ⟨hMeets, hNone hMeets⟩, nofun⟩

end Timetable.Plan
