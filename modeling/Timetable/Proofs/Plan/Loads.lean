import Timetable.Proofs.Plan.Placement

/-
  This file bounds what a distribution puts into a week.  The
  lessons of a week, added in order, stay within the capacity
  of the week as long as they are not forced; a forced lesson
  is alone in its week and too long for it, or is one of those
  that were left over.

  Key definitions include:
    * `minutesIn`
    * `FitsInOrder`

  Main theorems include:
    * `WeekLoad.Admits.holds`
    * `Composed.split_placed`
    * `distribute_loads`
-/

namespace Timetable.Plan

variable {α : Type} [Scalar α]

------------------------------------------------------------
-- Minutes of Assignments
------------------------------------------------------------

/- The minutes of assignments, added in order. -/
def minutesOf (assignments : List (Assignment α)) : α :=
  Scalar.sum (assignments.map (·.cost))

/- The minutes that assignments take of a week, added in order. -/
def minutesIn
    (week : Int)
    (assignments : List (Assignment α)) : α :=
  minutesOf (assignments.filter (fun a => a.week = week))

theorem minutesOf_concat
    (assignments : List (Assignment α))
    (a : Assignment α) :
    minutesOf (assignments ++ [a]) = minutesOf assignments + a.cost := by
  simp [minutesOf, Scalar.sum]

------------------------------------------------------------
-- One Week
------------------------------------------------------------

/- Lessons are placed without force, each within a capacity that earlier ones use up. -/
def FitsInOrder
    (capacity : α)
    (assignments : List (Assignment α)) : Prop :=
  ∀ before a after, assignments = before ++ a :: after →
    a.forced = false ∧
    minutesOf (before ++ [a]) ≤ capacity + tolerance

theorem FitsInOrder.concat
    {capacity : α}
    {assignments : List (Assignment α)}
    (h : FitsInOrder capacity assignments)
    {last : Assignment α}
    (hForced : last.forced = false)
    (hFits : minutesOf assignments + last.cost ≤ capacity + tolerance) :
    FitsInOrder capacity (assignments ++ [last]) := by
  intro before a after hSplit
  rcases List.eq_nil_or_concat after with rfl | ⟨others, b, rfl⟩
  · rcases List.append_inj' hSplit rfl with ⟨rfl, hLast⟩
    cases hLast
    refine ⟨hForced, ?_⟩
    rw [minutesOf_concat]
    exact hFits
  · rw [List.concat_eq_append, ← List.cons_append,
      ← List.append_assoc] at hSplit
    exact h before a others (List.append_inj' hSplit rfl).1

namespace WeekLoad

/- The used minutes of a week are those of its lessons. -/
def Accounts (load : WeekLoad α) : Prop :=
  load.used = minutesOf load.assignments

theorem Accounts.add
    {load : WeekLoad α}
    (h : load.Accounts)
    (l : CostedLesson α)
    (forced : Bool) :
    (load.add l forced).Accounts := by
  unfold Accounts
  rw [WeekLoad.add, minutesOf_concat]
  exact congrArg (· + l.cost) h

theorem Accounts.addAll
    {load : WeekLoad α}
    (h : load.Accounts)
    (placed : List (CostedLesson α × Bool)) :
    (load.addAll placed).Accounts := by
  induction placed generalizing load with
  | nil => exact h
  | cons entry placed ih => exact ih (h.add entry.1 entry.2)

theorem Filled.accounts
    {load : WeekLoad α}
    (h : load.Filled) :
    load.Accounts := by
  rcases h with ⟨placed, _, hLoad, _⟩
  have hOpened : (opened load.week).Accounts := rfl
  rw [hLoad]
  exact hOpened.addAll placed

/-
  A week holds lessons that fit in order, or one forced lesson
  that does not fit the empty week.
-/
def Holds
    (capacity : α)
    (assignments : List (Assignment α)) : Prop :=
  FitsInOrder capacity assignments ∨
  ∃ a,
    assignments = [a] ∧ a.forced = true ∧
    ¬ Scalar.zero + a.cost ≤ capacity + tolerance

/- What a week admits keeps within its capacity, or is alone. -/
theorem Admits.holds
    {load : WeekLoad α}
    {placed : List (CostedLesson α × Bool)}
    (hAdmits : load.Admits placed)
    (hAccounts : load.Accounts)
    (hFits : FitsInOrder load.week.capacity load.assignments) :
    Holds load.week.capacity (load.addAll placed).assignments := by
  induction placed generalizing load with
  | nil => exact Or.inl hFits
  | cons entry placed ih =>
      rcases entry with ⟨l, forced⟩
      cases forced with
      | false =>
          rcases hAdmits with ⟨hFit, hRest⟩
          have hRoom := of_decide_eq_true hFit
          rw [hAccounts] at hRoom
          exact ih hRest (hAccounts.add l false) (hFits.concat rfl hRoom)
      | true =>
          rcases hAdmits with ⟨hEmpty, hFit, rfl⟩
          have hNone : load.assignments = [] :=
            List.isEmpty_iff.mp hEmpty
          have hRoom := of_decide_eq_false hFit
          rw [hAccounts, hNone] at hRoom
          have hOnly :
              (load.add l true).assignments =
                [⟨l.id, l.frontId, load.week.number, 1, l.cost, true⟩] := by
            simp [WeekLoad.add, hNone]
          exact Or.inr ⟨_, hOnly, rfl, hRoom⟩

theorem Filled.holds
    {load : WeekLoad α}
    (h : load.Filled) :
    Holds load.week.capacity load.assignments := by
  rcases h with ⟨placed, _, hLoad, hAdmits⟩
  have hStart : FitsInOrder load.week.capacity ([] : List (Assignment α)) := by
    intro before a after hSplit
    simp at hSplit
  have hHolds := hAdmits.holds rfl hStart
  rw [← hLoad] at hHolds
  exact hHolds

end WeekLoad

------------------------------------------------------------
-- All Weeks
------------------------------------------------------------

omit [Scalar α] in
/- An assignment of filled weeks belongs to one of them. -/
theorem split_flatMap_assignments
    {loads : List (WeekLoad α)}
    {before after : List (Assignment α)}
    {a : Assignment α}
    (hSplit : loads.flatMap (·.assignments) = before ++ a :: after) :
    ∃ first load second inner outer,
      loads = first ++ load :: second ∧
      load.assignments = inner ++ a :: outer ∧
      before = first.flatMap (·.assignments) ++ inner ∧
      after = outer ++ second.flatMap (·.assignments) := by
  induction loads generalizing before with
  | nil => simp at hSplit
  | cons load loads ih =>
      rw [List.flatMap_cons] at hSplit
      rcases List.append_eq_append_iff.mp hSplit with
        ⟨rest, rfl, hRest⟩ | ⟨rest, hLoad, hRest⟩
      · rcases ih hRest with
          ⟨first, other, second, inner, outer, rfl, hOther, rfl, hAfter⟩
        refine ⟨load :: first, other, second, inner, outer, rfl, hOther,
          ?_, hAfter⟩
        rw [List.flatMap_cons, List.append_assoc]
      · rcases List.cons_eq_append_iff.mp hRest with
          ⟨rfl, hNext⟩ | ⟨outer, rfl, hAfter⟩
        · rw [← List.nil_append (a :: after)] at hNext
          rcases ih hNext with
            ⟨first, other, second, inner, outer, rfl, hOther, hBefore,
              hAfter⟩
          refine ⟨load :: first, other, second, inner, outer, rfl, hOther,
            ?_, hAfter⟩
          rw [List.append_nil] at hLoad
          rw [List.flatMap_cons, List.append_assoc, ← hBefore,
            List.append_nil, hLoad]
        · exact ⟨[], load, loads, before, outer, rfl, hLoad, rfl, hAfter⟩

section Composed

variable
  {weeks : List (Week α)}
  {d : Distribution α}
  {loads : List (WeekLoad α)}
  {surplus : List (Assignment α)}

/- Weeks with different numbers are filled once. -/
theorem Composed.distinct
    (h : Composed weeks d loads surplus)
    (hDistinct : (weeks.map (·.number)).Nodup) :
    (loads.map (·.week.number)).Nodup := by
  have hSublist :
      (loads.map (·.week.number)).Sublist (weeks.map (·.number)) := by
    have hWeeks := h.inOrder.trans List.filter_sublist
    have hNumbers := hWeeks.map (·.number)
    rw [List.map_map] at hNumbers
    exact hNumbers
  exact hDistinct.sublist hSublist

/-
  A lesson that was not left over stands in a filled week, and
  all other lessons of that week stand there, too.
-/
theorem Composed.split_placed
    (h : Composed weeks d loads surplus)
    (hDistinct : (weeks.map (·.number)).Nodup)
    {before after : List (Assignment α)}
    {a : Assignment α}
    (hSplit : loads.flatMap (·.assignments) = before ++ a :: after) :
    ∃ load ∈ loads, ∃ inner outer,
      load.week.number = a.week ∧
      load.assignments = inner ++ a :: outer ∧
      before.filter (fun b => b.week = a.week) = inner ∧
      after.filter (fun b => b.week = a.week) = outer := by
  rcases split_flatMap_assignments hSplit with
    ⟨first, load, second, inner, outer, hLoads, hLoad, rfl, rfl⟩
  have hNumbers := h.distinct hDistinct
  have hFilled := h.filled
  subst hLoads
  have hOwn := (hFilled load (by simp)).weeks
  rw [hLoad] at hOwn
  have hWeek : a.week = load.week.number := hOwn a (by simp)
  rw [List.map_append, List.map_cons, List.nodup_append,
    List.nodup_cons] at hNumbers
  rcases hNumbers with ⟨_, ⟨hSecond, _⟩, hFirst⟩
  have hOthers :
      ∀ others : List (WeekLoad α),
        (∀ other ∈ others, other ∈ first ++ load :: second) →
        (∀ other ∈ others, other.week.number ≠ load.week.number) →
        (others.flatMap (·.assignments)).filter
          (fun b => b.week = a.week) = [] := by
    intro others hMembers hOther
    rw [List.filter_eq_nil_iff]
    intro b hb
    rcases List.mem_flatMap.mp hb with ⟨other, hIn, hHeld⟩
    have hNumber := (hFilled other (hMembers other hIn)).weeks b hHeld
    rw [hNumber, hWeek]
    simpa using hOther other hIn
  have hKept :
      ∀ some : List (Assignment α), (∀ b ∈ some, b ∈ inner ++ a :: outer) →
        some.filter (fun b => b.week = a.week) = some := by
    intro some hSome
    rw [List.filter_eq_self]
    intro b hb
    rw [hOwn b (hSome b hb), hWeek]
    simp
  refine ⟨load, by simp, inner, outer, hWeek.symm, hLoad, ?_, ?_⟩
  · rw [List.filter_append, hOthers first, hKept inner, List.nil_append]
    · intro b hb
      simp [hb]
    · intro other hOther
      simp [hOther]
    · intro other hOther
      exact hFirst _ (List.mem_map_of_mem hOther) _ List.mem_cons_self
  · rw [List.filter_append, hOthers second, hKept outer, List.append_nil]
    · intro b hb
      simp [hb]
    · intro other hOther
      simp [hOther]
    · intro other hOther hSame
      apply hSecond
      rw [← hSame]
      exact List.mem_map_of_mem hOther

/- A lesson of a distribution is one that was placed, or one that was left over. -/
theorem Composed.split_assignments
    (h : Composed weeks d loads surplus)
    {before after : List (Assignment α)}
    {a : Assignment α}
    (hSplit : d.assignments = before ++ a :: after) :
    (∃ rest, loads.flatMap (·.assignments) = before ++ a :: rest) ∨
    (a ∈ surplus ∧
      (loads.flatMap (·.assignments)).length ≤ before.length) := by
  rw [h.assignments] at hSplit
  rcases List.append_eq_append_iff.mp hSplit with
    ⟨more, hBefore, hSurplus⟩ | ⟨more, hPlaced, hRest⟩
  · refine Or.inr ⟨by simp [hSurplus], ?_⟩
    rw [hBefore, List.length_append]
    exact Nat.le_add_right _ _
  · rcases List.cons_eq_append_iff.mp hRest with
      ⟨rfl, hSurplus⟩ | ⟨rest, rfl, _⟩
    · refine Or.inr ⟨by simp [hSurplus], ?_⟩
      rw [hPlaced, List.append_nil]
    · exact Or.inl ⟨rest, hPlaced⟩

/- Lessons that are not forced keep within the capacity of their week. -/
theorem Composed.unforced_within
    (h : Composed weeks d loads surplus)
    (hDistinct : (weeks.map (·.number)).Nodup)
    {before after : List (Assignment α)}
    {a : Assignment α}
    (hSplit : d.assignments = before ++ a :: after)
    (hForced : a.forced = false) :
    ∃ w ∈ weeks,
      w.number = a.week ∧
      minutesIn a.week (before ++ [a]) ≤ w.capacity + tolerance := by
  rcases h.split_assignments hSplit with ⟨rest, hPlaced⟩ | ⟨hSurplus, _⟩
  · rcases h.split_placed hDistinct hPlaced with
      ⟨load, hLoad, inner, outer, hWeek, hHeld, hBefore, _⟩
    refine ⟨load.week, (h.mem_week hLoad).1, hWeek, ?_⟩
    have hMinutes :
        minutesIn a.week (before ++ [a]) = minutesOf (inner ++ [a]) := by
      simp [minutesIn, List.filter_append, hBefore]
    rw [hMinutes]
    rcases (h.filled load hLoad).holds with hFits | ⟨b, hOnly, hAlone, _⟩
    · exact (hFits inner a outer hHeld).2
    · have hSame : a ∈ [b] := by
        rw [← hOnly, hHeld]
        simp
      rw [← List.mem_singleton.mp hSame, hForced] at hAlone
      cases hAlone
  · rw [h.forced a hSurplus] at hForced
    cases hForced

/- A forced lesson that was not left over is alone in a week that is too short for it. -/
theorem Composed.forced_alone
    (h : Composed weeks d loads surplus)
    (hDistinct : (weeks.map (·.number)).Nodup)
    {before after : List (Assignment α)}
    {a : Assignment α}
    (hSplit : loads.flatMap (·.assignments) = before ++ a :: after)
    (hForced : a.forced = true) :
    (∀ b ∈ before ++ after, b.week ≠ a.week) ∧
    ∃ w ∈ weeks,
      w.number = a.week ∧
      ¬ Scalar.zero + a.cost ≤ w.capacity + tolerance := by
  rcases h.split_placed hDistinct hSplit with
    ⟨load, hLoad, inner, outer, hWeek, hHeld, hBefore, hAfter⟩
  rcases (h.filled load hLoad).holds with hFits | ⟨b, hOnly, _, hLong⟩
  · rw [(hFits inner a outer hHeld).1] at hForced
    cases hForced
  · rw [hHeld] at hOnly
    rcases List.append_eq_singleton_iff.mp hOnly with
      ⟨rfl, hSame⟩ | ⟨_, hNone⟩
    · cases hSame
      constructor
      · intro c hc hEq
        have hKept :
            c ∈ (before ++ after).filter (fun b => b.week = a.week) :=
          List.mem_filter.mpr ⟨hc, by simpa using hEq⟩
        rw [List.filter_append, hBefore, hAfter] at hKept
        cases hKept
      · exact ⟨load.week, (h.mem_week hLoad).1, hWeek, hLong⟩
    · cases hNone

end Composed

/-
  Over weeks with different numbers, a distribution consists
  of what was placed and of what was left over.  A lesson that
  is not forced ends within the capacity of its week, counting
  the lessons of the week up to it.  A forced lesson that was
  placed is the only one of its week, and did not fit it while
  it was empty, so that only what was left over is forced into
  a week that holds something.
-/
theorem distribute_loads
    {lessons : List (CostedLesson α)}
    {weeks : List (Week α)}
    {mode : Mode}
    {frontOrder : List String}
    {d : Distribution α}
    (hDistinct : (weeks.map (·.number)).Nodup)
    (hDistribute : distribute lessons weeks mode frontOrder = .ok d) :
    ∃ placed surplus,
      d.assignments = placed ++ surplus ∧
      surplus.length = d.overflow ∧
      (∀ before a after, d.assignments = before ++ a :: after →
        a.forced = false →
        ∃ w ∈ weeks,
          w.number = a.week ∧
          minutesIn a.week (before ++ [a]) ≤ w.capacity + tolerance) ∧
      (∀ before a after, placed = before ++ a :: after →
        a.forced = true →
        (∀ b ∈ before ++ after, b.week ≠ a.week) ∧
        ∃ w ∈ weeks,
          w.number = a.week ∧
          ¬ Scalar.zero + a.cost ≤ w.capacity + tolerance) ∧
      (∀ before a after, d.assignments = before ++ a :: after →
        a.forced = true → (∃ b ∈ before, b.week = a.week) →
        placed.length ≤ before.length) := by
  rcases distribute_composed hDistribute with ⟨loads, surplus, hComposed⟩
  refine ⟨loads.flatMap (·.assignments), surplus, hComposed.assignments,
    hComposed.overflow, ?_, ?_, ?_⟩
  · intro before a after hSplit hForced
    exact hComposed.unforced_within hDistinct hSplit hForced
  · intro before a after hSplit hForced
    exact hComposed.forced_alone hDistinct hSplit hForced
  · intro before a after hSplit hForced hHeld
    rcases hComposed.split_assignments hSplit with
      ⟨rest, hPlaced⟩ | ⟨_, hLength⟩
    · rcases hHeld with ⟨b, hb, hWeek⟩
      have hAlone :=
        (hComposed.forced_alone hDistinct hPlaced hForced).1 b
          (List.mem_append_left rest hb)
      exact absurd hWeek hAlone
    · exact hLength

/- Lessons of a front that is packed into two weeks of an hour keep within it. -/
theorem distribute_loads_of_two_weeks :
    ∃ d,
      distribute
          ([("a", "x", 50), ("b", "x", 90), ("c", "x", 20)].map
            CostedLesson.ofOrigin)
          [⟨1, .unset, .unset, false, (60 : Float)⟩,
            ⟨2, .unset, .unset, false, 60⟩]
          .sequential [] = .ok d ∧
      ∀ before a after, d.assignments = before ++ a :: after →
        a.forced = false →
        minutesIn a.week (before ++ [a]) ≤ 60 + tolerance := by
  have hLessons :
      ([("a", "x", (50 : Float)), ("b", "x", 90), ("c", "x", 20)].map
        CostedLesson.ofOrigin) ≠ [] := by
    simp
  rcases
      distribute_isOk hLessons
        [⟨1, .unset, .unset, false, 60⟩, ⟨2, .unset, .unset, false, 60⟩]
        .sequential [] with
    ⟨d, hDistribute⟩
  rcases distribute_loads (by decide) hDistribute with
    ⟨_, _, _, _, hWithin, _⟩
  refine ⟨d, hDistribute, ?_⟩
  intro before a after hSplit hForced
  rcases hWithin before a after hSplit hForced with
    ⟨w, hw, _, hMinutes⟩
  have hHour : w.capacity = 60 := by
    rcases List.mem_cons.mp hw with rfl | hSecond
    · rfl
    · rw [List.mem_singleton.mp hSecond]
  rw [hHour] at hMinutes
  exact hMinutes

end Timetable.Plan
