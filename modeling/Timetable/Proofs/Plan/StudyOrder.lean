import Mathlib.Data.List.Induction
import Timetable.Proofs.Order.StableSort
import Timetable.Proofs.Plan.Fronts

/-
  This file says in which order lessons are studied front by
  front: first the fronts whose name a learner prefers, in the
  order of the preference, then all others, and fronts that
  are preferred alike in the order in which they appear.

  Key definitions include:
    * `frontIds`
    * `frontName`
    * `preferenceOf`
    * `frontsInTurn`
    * `studyOrder`

  Main theorems include:
    * `groupFronts_appeared`
    * `orderFronts_eq_buckets`
    * `lessons_orderFronts`
-/

namespace Timetable.Plan

variable {α : Type}

------------------------------------------------------------
-- Fronts as they Appear
------------------------------------------------------------

/- The fronts of lessons in order of first appearance. -/
def frontIds (lessons : List (CostedLesson α)) : List String :=
  (lessons.map (·.frontId)).eraseDups

/- The name of a front is the one that its first lesson gives it. -/
def frontName
    (lessons : List (CostedLesson α))
    (front : String) : String :=
  ((lessons.find? (fun l => l.frontId = front)).map (·.frontName)).getD ""

theorem mem_frontIds
    {front : String}
    {lessons : List (CostedLesson α)} :
    front ∈ frontIds lessons ↔ ∃ l ∈ lessons, l.frontId = front := by
  simp [frontIds]

theorem frontIds_concat
    (lessons : List (CostedLesson α))
    (l : CostedLesson α) :
    frontIds (lessons ++ [l]) =
      if l.frontId ∈ frontIds lessons then frontIds lessons
      else frontIds lessons ++ [l.frontId] := by
  have hAppend :
      frontIds (lessons ++ [l]) =
        frontIds lessons ++
          (List.removeAll [l.frontId] (lessons.map (·.frontId))).eraseDups := by
    unfold frontIds
    rw [List.map_append, List.eraseDups_append]
    rfl
  rw [hAppend]
  split
  · rename_i hKnown
    have hNone :
        List.removeAll [l.frontId] (lessons.map (·.frontId)) = [] := by
      simpa [List.removeAll, frontIds] using hKnown
    rw [hNone]
    exact List.append_nil _
  · rename_i hNew
    have hOne :
        List.removeAll [l.frontId] (lessons.map (·.frontId)) =
          [l.frontId] := by
      simpa [List.removeAll, frontIds] using hNew
    rw [hOne]
    rfl

/- Later lessons do not change the name of a front. -/
theorem frontName_concat
    {lessons : List (CostedLesson α)}
    {front : String}
    (hKnown : front ∈ frontIds lessons)
    (l : CostedLesson α) :
    frontName (lessons ++ [l]) front = frontName lessons front := by
  rcases mem_frontIds.mp hKnown with ⟨m, hm, hFront⟩
  have hSome :
      (lessons.find? (fun l => l.frontId = front)).isSome = true := by
    rw [List.find?_isSome]
    exact ⟨m, hm, by simpa using hFront⟩
  rcases Option.isSome_iff_exists.mp hSome with ⟨found, hFound⟩
  unfold frontName
  rw [List.find?_append, hFound]
  rfl

/- The first lesson of a front names it. -/
theorem frontName_concat_new
    {lessons : List (CostedLesson α)}
    {l : CostedLesson α}
    (hNew : l.frontId ∉ frontIds lessons) :
    frontName (lessons ++ [l]) l.frontId = l.frontName := by
  have hNone :
      lessons.find? (fun m => m.frontId = l.frontId) = none := by
    rw [List.find?_eq_none]
    intro m hm hSame
    exact hNew (mem_frontIds.mpr ⟨m, hm, by simpa using hSame⟩)
  unfold frontName
  rw [List.find?_append, hNone]
  simp

/- Fronts that are listed and named as they appear. -/
structure Appeared
    (lessons : List (CostedLesson α))
    (fronts : List (Front α)) : Prop where
  ids : fronts.map (·.id) = frontIds lessons
  names : ∀ f ∈ fronts, f.name = frontName lessons f.id

section Steps

variable [Scalar α]

/- One more lesson opens its front at the end, or joins it. -/
theorem addToFronts_appeared
    {lessons : List (CostedLesson α)}
    {fronts : List (Front α)}
    (h : Appeared lessons fronts)
    (hDistinct : (fronts.map (·.id)).Nodup)
    (l : CostedLesson α) :
    Appeared (lessons ++ [l]) (addToFronts l fronts) := by
  have hOld :
      ∀ f ∈ fronts, f.name = frontName (lessons ++ [l]) f.id := by
    intro f hf
    have hKnown : f.id ∈ frontIds lessons :=
      h.ids ▸ List.mem_map_of_mem hf
    rw [frontName_concat hKnown]
    exact h.names f hf
  by_cases hKnown : l.frontId ∈ fronts.map (·.id)
  · rw [addToFronts_of_known hDistinct hKnown]
    refine ⟨?_, ?_⟩
    · rw [frontIds_concat, if_pos (h.ids ▸ hKnown), ← h.ids,
        List.map_map]
      apply List.map_congr_left
      intro f _
      simp only [Function.comp_apply]
      split <;> rfl
    · intro g hg
      rcases List.mem_map.mp hg with ⟨f, hf, rfl⟩
      split
      · exact hOld f hf
      · exact hOld f hf
  · rw [addToFronts_of_new hKnown]
    have hNew : l.frontId ∉ frontIds lessons := h.ids ▸ hKnown
    refine ⟨?_, ?_⟩
    · rw [frontIds_concat, if_neg hNew, List.map_append, h.ids]
      rfl
    · intro f hf
      rcases List.mem_append.mp hf with hBefore | hLast
      · exact hOld f hBefore
      · rw [List.mem_singleton.mp hLast]
        exact (frontName_concat_new hNew).symm

/- Grouping lists fronts as they appear. -/
theorem groupFronts_appeared
    (lessons : List (CostedLesson α)) :
    Appeared lessons (groupFronts lessons) := by
  induction lessons using List.reverseRecOn with
  | nil => exact ⟨rfl, nofun⟩
  | append_singleton lessons l ih =>
      have hStep :=
        addToFronts_appeared ih (groupFronts_grouped lessons).distinct l
      unfold groupFronts at hStep ⊢
      rw [List.foldl_append]
      exact hStep

end Steps

------------------------------------------------------------
-- Fronts in Turn
------------------------------------------------------------

/-
  How early a name is preferred: the place of the first entry
  that is the same apart from case and white space around it.
  A name without such an entry comes after all.
-/
def preferenceOf
    (preference : List String)
    (name : String) : Nat :=
  preference.findIdx (fun entry =>
    Text.lower (Text.trim entry) = Text.lower (Text.trim name))

/- The fronts of lessons by preference, and those preferred alike as they appear. -/
def frontsInTurn
    (preference : List String)
    (lessons : List (CostedLesson α)) : List String :=
  buckets (fun front => preferenceOf preference (frontName lessons front))
    (preference.length + 1) (frontIds lessons)

/- The lessons of all fronts in turn, those of each front in order. -/
def studyOrder
    (preference : List String)
    (lessons : List (CostedLesson α)) : List (CostedLesson α) :=
  (frontsInTurn preference lessons).flatMap
    (fun front => ofFront front lessons)

theorem frontRank_eq_preferenceOf
    (preference : List String)
    (name : String) :
    frontRank preference name = preferenceOf preference name := by
  unfold frontRank preferenceOf List.idxOf
  rw [List.findIdx_map]
  apply congrArg (fun p => preference.findIdx p)
  funext entry
  rw [Bool.eq_iff_iff, Function.comp_apply, beq_iff_eq,
    decide_eq_true_iff]
  unfold frontKey
  exact Iff.rfl

/- Ordering fronts is to take them by preference. -/
theorem orderFronts_eq_buckets
    (preference : List String)
    (fronts : List (Front α)) :
    orderFronts preference fronts =
      buckets (fun f => preferenceOf preference f.name)
        (preference.length + 1) fronts := by
  unfold orderFronts
  simp only [frontRank_eq_preferenceOf]
  apply mergeSort_eq_buckets
  intro f _
  exact Nat.lt_succ_of_le List.findIdx_le_length

section Lessons

variable [Scalar α]

/- The ordered fronts of lessons are their fronts in turn. -/
theorem ids_orderFronts
    (preference : List String)
    (lessons : List (CostedLesson α)) :
    (orderFronts preference (groupFronts lessons)).map (·.id) =
      frontsInTurn preference lessons := by
  have hAppeared := groupFronts_appeared lessons
  rw [orderFronts_eq_buckets]
  unfold frontsInTurn
  rw [← hAppeared.ids]
  apply map_buckets
  intro f hf
  rw [hAppeared.names f hf]

/- The lessons of ordered fronts are in the order of study. -/
theorem lessons_orderFronts
    (preference : List String)
    (lessons : List (CostedLesson α)) :
    (orderFronts preference (groupFronts lessons)).flatMap (·.lessons) =
      studyOrder preference lessons := by
  have hGrouped := groupFronts_grouped lessons
  unfold studyOrder
  rw [← ids_orderFronts, List.flatMap_map]
  apply List.flatMap_congr
  intro f hf
  exact hGrouped.holds f ((List.mergeSort_perm _ _).mem_iff.mp hf)

end Lessons

end Timetable.Plan
