import Mathlib.Data.List.Basic

/-
  This file sorts by halves with a recursion that the kernel
  can run, which that of the merges inside `List.mergeSort`
  is not.  To run a sample that sorts, it is unfolded as far
  as its sorts, and these are rewritten.

  Key definitions include:
    * `mergeHalves`
    * `sortHalves`

  Main theorems include:
    * `mergeSort_eq_sortHalves`
-/

namespace Timetable

variable {α : Type} {le : α → α → Bool}

------------------------------------------------------------
-- Merging
------------------------------------------------------------

/- Merge an element and what is left of its list with another list. -/
private def mergePast
    (le : α → α → Bool)
    (x : α)
    (mergeRest : List α → List α) : List α → List α
| [] => x :: mergeRest []
| y :: ys =>
    if le x y then x :: mergeRest (y :: ys)
    else y :: mergePast le x mergeRest ys

/- Merge two lists; of ties those of the first list come first. -/
def mergeHalves (le : α → α → Bool) : List α → List α → List α
| [], ys => ys
| x :: xs, ys => mergePast le x (mergeHalves le xs) ys

theorem mergeHalves_eq_merge
    (xs ys : List α) :
    mergeHalves le xs ys = xs.merge ys le := by
  induction xs generalizing ys with
  | nil => simp [mergeHalves]
  | cons x xs ih =>
      unfold mergeHalves
      induction ys with
      | nil => simp [mergePast, ih]
      | cons y ys ihRest =>
          rw [mergePast, List.cons_merge_cons, ih, ihRest]

------------------------------------------------------------
-- Sorting
------------------------------------------------------------

/- Sort halves and merge them, for as many rounds as there are elements. -/
def sortHalves (le : α → α → Bool) : Nat → List α → List α
| 0, xs => xs
| _ + 1, [] => []
| _ + 1, [a] => [a]
| rounds + 1, a :: b :: rest =>
    let xs := a :: b :: rest
    let half := (xs.length + 1) / 2
    mergeHalves le (sortHalves le rounds (xs.take half))
      (sortHalves le rounds (xs.drop half))

theorem sortHalves_eq_mergeSort
    {rounds : Nat}
    {xs : List α}
    (hRounds : xs.length ≤ rounds) :
    sortHalves le rounds xs = xs.mergeSort le := by
  induction rounds generalizing xs with
  | zero =>
      have hNone : xs = [] := by simpa using hRounds
      simp [hNone, sortHalves]
  | succ rounds ih =>
      match xs with
      | [] => simp [sortHalves]
      | [a] => simp [sortHalves]
      | a :: b :: rest =>
          rw [sortHalves, List.mergeSort, mergeHalves_eq_merge]
          simp only [List.MergeSort.Internal.splitInTwo_fst,
            List.MergeSort.Internal.splitInTwo_snd]
          simp only [List.length_cons] at hRounds
          rw [ih (by simp only [List.length_take, List.length_cons]; omega),
            ih (by simp only [List.length_drop, List.length_cons]; omega)]

/- Both ways of sorting agree, whatever the order is. -/
theorem mergeSort_eq_sortHalves
    (xs : List α)
    (le : α → α → Bool) :
    xs.mergeSort le = sortHalves le xs.length xs :=
  (sortHalves_eq_mergeSort (Nat.le_refl _)).symm

end Timetable
