import Mathlib.Algebra.BigOperators.Ring.List
import Mathlib.Tactic.Positivity
import Timetable.Proofs.Plan.ExactCosts
import Timetable.Proofs.Plan.Fronts

/-
  This file says what fronts weigh.  The cost of a front is
  that of its lessons, added in order; over the rationals the
  weights are shares of a whole: none is negative, and
  together they make one.

  Main theorems include:
    * `groupFronts_totalCost`
    * `weighFronts_nonneg`
    * `weighFronts_sum`
-/

namespace Timetable.Plan

------------------------------------------------------------
-- Costs of Fronts
------------------------------------------------------------

section Costs

variable {α : Type} [Scalar α]

theorem totalCost_concat
    (lessons : List (CostedLesson α))
    (l : CostedLesson α) :
    totalCost (lessons ++ [l]) = totalCost lessons + l.cost := by
  simp [totalCost, Scalar.sum]

/- One more lesson adds its cost to its front. -/
theorem addToFronts_totalCost
    (l : CostedLesson α)
    {fronts : List (Front α)}
    (h : ∀ f ∈ fronts, f.totalCost = totalCost f.lessons) :
    ∀ f ∈ addToFronts l fronts, f.totalCost = totalCost f.lessons := by
  induction fronts with
  | nil =>
      intro f hf
      rw [List.mem_singleton.mp hf]
      rfl
  | cons first fronts ih =>
      have hFirst := h first List.mem_cons_self
      have hPushed :
          (first.push l).totalCost = totalCost (first.push l).lessons := by
        change first.totalCost + l.cost = totalCost (first.lessons ++ [l])
        rw [totalCost_concat, hFirst]
      unfold addToFronts
      intro f hf
      split at hf
      · rcases List.mem_cons.mp hf with rfl | hRest
        · exact hPushed
        · exact h f (List.mem_cons_of_mem _ hRest)
      · rcases List.mem_cons.mp hf with rfl | hRest
        · exact hFirst
        · exact ih (fun g hg => h g (List.mem_cons_of_mem _ hg)) f hRest

/- The cost of a front is that of its lessons. -/
theorem groupFronts_totalCost
    (lessons : List (CostedLesson α)) :
    ∀ f ∈ groupFronts lessons, f.totalCost = totalCost f.lessons := by
  have hFold :
      ∀ (rest : List (CostedLesson α)) (fronts : List (Front α)),
        (∀ f ∈ fronts, f.totalCost = totalCost f.lessons) →
        ∀ f ∈ rest.foldl (fun fs l => addToFronts l fs) fronts,
          f.totalCost = totalCost f.lessons := by
    intro rest
    induction rest with
    | nil => exact fun _ h => h
    | cons l rest ih =>
        intro fronts h
        exact ih _ (addToFronts_totalCost l h)
  exact hFold lessons [] nofun

end Costs

------------------------------------------------------------
-- Shares of a Whole
------------------------------------------------------------

/- The weight that a front is given beside others. -/
theorem mem_weighFronts
    {fronts : List (Front Rat)}
    {f : Front Rat}
    (hf : f ∈ weighFronts fronts) :
    ∃ g ∈ fronts,
      f =
        { g with
          weight :=
            if 0 < (fronts.map (·.totalCost)).sum then
              g.totalCost / (fronts.map (·.totalCost)).sum
            else 1 / (fronts.length : Rat) } := by
  unfold weighFronts at hf
  rw [sum_eq] at hf
  rcases List.mem_map.mp hf with ⟨g, hg, rfl⟩
  refine ⟨g, hg, ?_⟩
  rfl

theorem weighFronts_nonneg
    {fronts : List (Front Rat)}
    (hCosts : ∀ f ∈ fronts, 0 ≤ f.totalCost) :
    ∀ f ∈ weighFronts fronts, 0 ≤ f.weight := by
  intro f hf
  rcases mem_weighFronts hf with ⟨g, hg, rfl⟩
  dsimp only
  split
  · rename_i hGrand
    exact div_nonneg (hCosts g hg) hGrand.le
  · positivity

theorem weighFronts_sum
    {fronts : List (Front Rat)}
    (hFronts : fronts ≠ []) :
    ((weighFronts fronts).map (·.weight)).sum = 1 := by
  have hWeights :
      (weighFronts fronts).map (·.weight) =
        fronts.map (fun f =>
          if 0 < (fronts.map (·.totalCost)).sum then
            f.totalCost / (fronts.map (·.totalCost)).sum
          else 1 / (fronts.length : Rat)) := by
    unfold weighFronts
    rw [sum_eq, List.map_map]
    rfl
  rw [hWeights]
  by_cases hGrand : 0 < (fronts.map (·.totalCost)).sum
  · simp only [if_pos hGrand, div_eq_mul_inv]
    rw [List.sum_map_mul_right]
    exact mul_inv_cancel₀ hGrand.ne'
  · have hCount : (fronts.length : Rat) ≠ 0 := by
      exact_mod_cast (List.length_pos_iff.mpr hFronts).ne'
    simp only [if_neg hGrand]
    rw [List.map_const', List.sum_replicate, nsmul_eq_mul]
    exact mul_one_div_cancel hCount

end Timetable.Plan
