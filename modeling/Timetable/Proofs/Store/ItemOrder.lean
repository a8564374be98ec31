import Timetable.Proofs.Order.StableSort
import Timetable.Store.Row

/-
  This file says in which order the items of a plan are read:
  by week and position, with items of one place as they came.
  Where each item has a place of its own, there is no other
  order by week and position.

  Main theorems include:
    * `stableSort_inOrder`
    * `inOrder_unique`
-/

namespace Timetable.Store

theorem ScheduleItem.before_iff
    {a b : ScheduleItem} :
    a.before b = true ↔
      a.week < b.week ∨ (a.week = b.week ∧ a.position ≤ b.position) := by
  simp [ScheduleItem.before]

theorem ScheduleItem.before_trans
    (a b c : ScheduleItem)
    (hFirst : a.before b = true)
    (hSecond : b.before c = true) :
    a.before c = true := by
  rw [before_iff] at hFirst hSecond ⊢
  omega

theorem ScheduleItem.before_total
    (a b : ScheduleItem) :
    (a.before b || b.before a) = true := by
  rw [Bool.or_eq_true, before_iff, before_iff]
  omega

theorem stableSort_inOrder
    (items : List ScheduleItem) :
    StableSort ScheduleItem.before items (inOrder items) :=
  stableSort_mergeSort ScheduleItem.before_trans
    ScheduleItem.before_total items

/-
  Whatever order a store answers items in, if it is by week
  and position then it is this one.
-/
theorem inOrder_unique
    {items answer : List ScheduleItem}
    (hPlaces :
      ∀ i ∈ items, ∀ j ∈ items,
        i.week = j.week → i.position = j.position → i = j)
    (hPerm : answer.Perm items)
    (hOrdered : answer.Pairwise (fun i j => i.before j = true)) :
    answer = inOrder items := by
  have hSorted := stableSort_inOrder items
  refine List.Perm.eq_of_pairwise ?_ hOrdered hSorted.ordered
    (hPerm.trans hSorted.perm.symm)
  intro i j hi hj hFirst hSecond
  rw [ScheduleItem.before_iff] at hFirst hSecond
  exact hPlaces i (hPerm.mem_iff.mp hi) j (hSorted.perm.mem_iff.mp hj)
    (by omega) (by omega)

end Timetable.Store
