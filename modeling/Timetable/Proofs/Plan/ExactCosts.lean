import Mathlib.Algebra.Order.BigOperators.Group.List
import Mathlib.Algebra.Order.Field.Rat
import Mathlib.Tactic.Linarith
import Mathlib.Tactic.NormNum
import Timetable.Proofs.Plan.Conservation

/-
  This file reads planning over the rationals, where sums do
  not depend on their order and nothing is rounded.  It says
  what lessons cost together, what a week has used, and which
  lessons fit.

  Main theorems include:
    * `totalCost_append`
    * `totalCost_le_of_sublist`
    * `WeekLoad.used_addAll`
    * `WeekLoad.fits_eq_false_iff`
-/

namespace Timetable.Plan

------------------------------------------------------------
-- Numbers
------------------------------------------------------------

theorem zero_eq :
    (Scalar.zero : Rat) = 0 :=
  rfl

/- The sum of a list is that of the library. -/
theorem sum_eq
    (xs : List Rat) :
    Scalar.sum xs = xs.sum :=
  List.sum_eq_foldl.symm

theorem tolerance_pos :
    0 < (tolerance : Rat) := by
  change (0 : Rat) < ((1 : Nat) : Rat) / ((Nat.pow 10 9 : Nat) : Rat)
  norm_num

------------------------------------------------------------
-- Costs of Lessons
------------------------------------------------------------

theorem totalCost_eq_sum
    (lessons : List (CostedLesson Rat)) :
    totalCost lessons = (lessons.map (·.cost)).sum :=
  sum_eq _

@[simp] theorem totalCost_nil :
    totalCost ([] : List (CostedLesson Rat)) = 0 :=
  rfl

@[simp] theorem totalCost_cons
    (l : CostedLesson Rat)
    (lessons : List (CostedLesson Rat)) :
    totalCost (l :: lessons) = l.cost + totalCost lessons := by
  simp [totalCost_eq_sum]

@[simp] theorem totalCost_append
    (first second : List (CostedLesson Rat)) :
    totalCost (first ++ second) = totalCost first + totalCost second := by
  simp [totalCost_eq_sum]

/- No lesson takes less than no time. -/
def NonnegCosts (lessons : List (CostedLesson Rat)) : Prop :=
  ∀ l ∈ lessons, 0 ≤ l.cost

theorem NonnegCosts.of_subset
    {some lessons : List (CostedLesson Rat)}
    (h : NonnegCosts lessons)
    (hSubset : some ⊆ lessons) :
    NonnegCosts some :=
  fun l hl => h l (hSubset hl)

theorem NonnegCosts.cost_nonneg
    {lessons : List (CostedLesson Rat)}
    (h : NonnegCosts lessons) :
    ∀ cost ∈ lessons.map (·.cost), 0 ≤ cost := by
  intro cost hCost
  rcases List.mem_map.mp hCost with ⟨l, hl, rfl⟩
  exact h l hl

theorem NonnegCosts.totalCost_nonneg
    {lessons : List (CostedLesson Rat)}
    (h : NonnegCosts lessons) :
    0 ≤ totalCost lessons := by
  rw [totalCost_eq_sum]
  exact List.sum_nonneg h.cost_nonneg

/- Some of the lessons do not cost more than all of them. -/
theorem totalCost_le_of_sublist
    {some lessons : List (CostedLesson Rat)}
    (h : NonnegCosts lessons)
    (hSublist : some.Sublist lessons) :
    totalCost some ≤ totalCost lessons := by
  rw [totalCost_eq_sum, totalCost_eq_sum]
  exact (hSublist.map _).sum_le_sum h.cost_nonneg

theorem cost_le_totalCost
    {lessons : List (CostedLesson Rat)}
    (h : NonnegCosts lessons)
    {l : CostedLesson Rat}
    (hl : l ∈ lessons) :
    l.cost ≤ totalCost lessons := by
  have hAlone :=
    totalCost_le_of_sublist h (List.singleton_sublist.mpr hl)
  rw [totalCost_cons, totalCost_nil] at hAlone
  linarith

/- What lessons cost does not depend on their order. -/
theorem totalCost_perm
    {lessons others : List (CostedLesson Rat)}
    (hPerm : lessons.Perm others) :
    totalCost lessons = totalCost others := by
  rw [totalCost_eq_sum, totalCost_eq_sum]
  exact (hPerm.map _).sum_eq

------------------------------------------------------------
-- Weeks under Construction
------------------------------------------------------------

namespace WeekLoad

@[simp] theorem used_opened
    (w : Week Rat) :
    (opened w).used = 0 :=
  rfl

@[simp] theorem used_add
    (load : WeekLoad Rat)
    (l : CostedLesson Rat)
    (forced : Bool) :
    (load.add l forced).used = load.used + l.cost :=
  rfl

@[simp] theorem week_add
    (load : WeekLoad Rat)
    (l : CostedLesson Rat)
    (forced : Bool) :
    (load.add l forced).week = load.week :=
  rfl

theorem used_addAll
    (load : WeekLoad Rat)
    (placed : List (CostedLesson Rat × Bool)) :
    (load.addAll placed).used =
      load.used + totalCost (placed.map (·.1)) := by
  induction placed generalizing load with
  | nil => simp
  | cons entry placed ih =>
      rw [addAll_cons, ih, used_add, List.map_cons, totalCost_cons,
        add_assoc]

theorem used_addAll_unforced
    (load : WeekLoad Rat)
    (taken : List (CostedLesson Rat)) :
    (load.addAll (unforced taken)).used = load.used + totalCost taken := by
  rw [used_addAll, unforced_lessons]

theorem fits_iff
    (load : WeekLoad Rat)
    (l : CostedLesson Rat) :
    load.fits l = true ↔
      load.used + l.cost ≤ load.week.capacity + tolerance :=
  decide_eq_true_iff

/- A lesson does not fit when it would take the week beyond its capacity. -/
theorem fits_eq_false_iff
    (load : WeekLoad Rat)
    (l : CostedLesson Rat) :
    load.fits l = false ↔
      load.week.capacity + tolerance < load.used + l.cost := by
  rw [← Bool.not_eq_true, fits_iff, not_le]

/- A week of use has minutes. -/
theorem capacity_pos
    {w : Week Rat}
    (hUseful : w.isUseful = true) :
    0 < w.capacity := by
  have hTime : ¬ w.capacity ≤ 0 := by
    simp only [Week.isUseful, Bool.and_eq_true, Bool.not_eq_true',
      decide_eq_false_iff_not] at hUseful
    exact hUseful.2
  exact not_le.mp hTime

end WeekLoad

end Timetable.Plan
