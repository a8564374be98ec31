import Timetable.Proofs.Plan.Conservation

/-
  This file shows that grouping sorts lessons by front: every
  front is opened once and holds its lessons in the order in
  which they came.

  Key definitions include:
    * `ofFront`
    * `Grouped`

  Main theorems include:
    * `addToFronts_grouped`
    * `groupFronts_grouped`
    * `Grouped.perm`
    * `Grouped.ofFront_frontLessons`
-/

namespace Timetable.Plan

variable {α : Type}

------------------------------------------------------------
-- Lessons of a Front
------------------------------------------------------------

/- The lessons that belong to a front, in order. -/
def ofFront
    (front : String)
    (lessons : List (CostedLesson α)) : List (CostedLesson α) :=
  lessons.filter (fun l => l.frontId = front)

@[simp] theorem ofFront_append
    (front : String)
    (first second : List (CostedLesson α)) :
    ofFront front (first ++ second) =
      ofFront front first ++ ofFront front second :=
  List.filter_append first second

theorem ofFront_cons_same
    {front : String}
    {l : CostedLesson α}
    (hFront : l.frontId = front)
    (lessons : List (CostedLesson α)) :
    ofFront front (l :: lessons) = l :: ofFront front lessons :=
  List.filter_cons_of_pos (by simpa using hFront)

theorem ofFront_cons_other
    {front : String}
    {l : CostedLesson α}
    (hFront : l.frontId ≠ front)
    (lessons : List (CostedLesson α)) :
    ofFront front (l :: lessons) = ofFront front lessons :=
  List.filter_cons_of_neg (by simpa using hFront)

theorem ofFront_eq_nil
    {front : String}
    {lessons : List (CostedLesson α)}
    (hOthers : ∀ l ∈ lessons, l.frontId ≠ front) :
    ofFront front lessons = [] := by
  unfold ofFront
  rw [List.filter_eq_nil_iff]
  intro l hl
  simpa using hOthers l hl

/- Of the lessons of a front those of another front are none. -/
theorem ofFront_ofFront
    (front other : String)
    (lessons : List (CostedLesson α)) :
    ofFront front (ofFront other lessons) =
      if other = front then ofFront front lessons else [] := by
  split
  · rename_i hSame
    subst hSame
    exact List.filter_filter.trans (by simp [ofFront])
  · rename_i hOther
    apply ofFront_eq_nil
    intro l hl hFront
    have hMember := (List.mem_filter.mp hl).2
    exact hOther ((of_decide_eq_true hMember).symm.trans hFront)

------------------------------------------------------------
-- Grouping
------------------------------------------------------------

/-
  Fronts with different ids that share lessons out: each of
  them holds all lessons with its id, in order.
-/
structure Grouped
    (lessons : List (CostedLesson α))
    (fronts : List (Front α)) : Prop where
  distinct : (fronts.map (·.id)).Nodup
  holds : ∀ f ∈ fronts, f.lessons = ofFront f.id lessons
  complete : ∀ l ∈ lessons, l.frontId ∈ fronts.map (·.id)

/- The order of the fronts does not matter. -/
theorem Grouped.perm
    {lessons : List (CostedLesson α)}
    {fronts others : List (Front α)}
    (h : Grouped lessons fronts)
    (hPerm : others.Perm fronts) :
    Grouped lessons others where
  distinct := (hPerm.map _).nodup_iff.mpr h.distinct
  holds := fun f hf => h.holds f (hPerm.mem_iff.mp hf)
  complete := fun l hl => (hPerm.map _).mem_iff.mpr (h.complete l hl)

section Steps

variable [Scalar α]

/- A lesson of a new front opens it at the end. -/
theorem addToFronts_of_new
    {l : CostedLesson α}
    {fronts : List (Front α)}
    (hNew : l.frontId ∉ fronts.map (·.id)) :
    addToFronts l fronts = fronts ++ [Front.opened l] := by
  induction fronts with
  | nil => rfl
  | cons f fs ih =>
      rw [List.map_cons, List.mem_cons, not_or] at hNew
      unfold addToFronts
      rw [if_neg (fun h => hNew.1 h.symm), ih hNew.2, List.cons_append]

/- A lesson of a known front is put at its end. -/
theorem addToFronts_of_known
    {l : CostedLesson α}
    {fronts : List (Front α)}
    (hDistinct : (fronts.map (·.id)).Nodup)
    (hKnown : l.frontId ∈ fronts.map (·.id)) :
    addToFronts l fronts =
      fronts.map (fun f => if f.id = l.frontId then f.push l else f) := by
  induction fronts with
  | nil => cases hKnown
  | cons f fs ih =>
      rcases List.nodup_cons.mp hDistinct with ⟨hFirst, hRest⟩
      unfold addToFronts
      rw [List.map_cons]
      split
      · rename_i hSame
        have hOthers :
            fs.map (fun g => if g.id = l.frontId then g.push l else g) =
              fs.map (fun g => g) := by
          apply List.map_congr_left
          intro g hg
          rw [if_neg]
          intro hId
          exact hFirst
            (List.mem_map.mpr ⟨g, hg, hId.trans hSame.symm⟩)
        rw [hOthers, List.map_id']
      · rename_i hOther
        rcases List.mem_cons.mp hKnown with hSame | hLater
        · exact absurd hSame.symm hOther
        · rw [ih hRest hLater]

/- One more lesson is sorted in. -/
theorem addToFronts_grouped
    {lessons : List (CostedLesson α)}
    {fronts : List (Front α)}
    (h : Grouped lessons fronts)
    (l : CostedLesson α) :
    Grouped (lessons ++ [l]) (addToFronts l fronts) := by
  by_cases hKnown : l.frontId ∈ fronts.map (·.id)
  · rw [addToFronts_of_known h.distinct hKnown]
    have hIds :
        (fronts.map (fun f =>
          if f.id = l.frontId then f.push l else f)).map (·.id) =
            fronts.map (·.id) := by
      rw [List.map_map]
      apply List.map_congr_left
      intro f _
      simp only [Function.comp_apply]
      split <;> rfl
    refine ⟨by rw [hIds]; exact h.distinct, ?_, ?_⟩
    · intro g hg
      rcases List.mem_map.mp hg with ⟨f, hf, rfl⟩
      have hHolds := h.holds f hf
      split
      · rename_i hSame
        have hLast : ofFront f.id [l] = [l] :=
          ofFront_cons_same hSame.symm []
        change f.lessons ++ [l] = ofFront f.id (lessons ++ [l])
        rw [ofFront_append, hLast, hHolds]
      · rename_i hOther
        have hNone : ofFront f.id [l] = [] :=
          ofFront_cons_other (fun hId => hOther hId.symm) []
        rw [ofFront_append, hNone, List.append_nil]
        exact hHolds
    · intro m hm
      rw [hIds]
      rcases List.mem_append.mp hm with hOld | hLast
      · exact h.complete m hOld
      · rw [List.mem_singleton.mp hLast]
        exact hKnown
  · rw [addToFronts_of_new hKnown]
    refine ⟨?_, ?_, ?_⟩
    · rw [List.map_append, List.nodup_append]
      refine ⟨h.distinct, by simp, ?_⟩
      intro id hId other hOther hSame
      rw [List.mem_singleton.mp hOther] at hSame
      rw [hSame] at hId
      exact hKnown hId
    · intro f hf
      rcases List.mem_append.mp hf with hOld | hLast
      · have hOther : l.frontId ≠ f.id := by
          intro hSame
          rw [hSame] at hKnown
          exact hKnown (List.mem_map_of_mem hOld)
        have hNone : ofFront f.id [l] = [] :=
          ofFront_cons_other hOther []
        rw [ofFront_append, hNone, List.append_nil]
        exact h.holds f hOld
      · rw [List.mem_singleton.mp hLast]
        have hFirst : ofFront l.frontId lessons = [] := by
          apply ofFront_eq_nil
          intro m hm hSame
          rw [← hSame] at hKnown
          exact hKnown (h.complete m hm)
        have hOwn : ofFront l.frontId [l] = [l] :=
          ofFront_cons_same rfl []
        change [l] = ofFront l.frontId (lessons ++ [l])
        rw [ofFront_append, hFirst, hOwn, List.nil_append]
    · intro m hm
      rw [List.map_append, List.mem_append]
      rcases List.mem_append.mp hm with hOld | hLast
      · exact Or.inl (h.complete m hOld)
      · rw [List.mem_singleton.mp hLast]
        exact Or.inr (List.mem_singleton_self _)

/- Grouping sorts all lessons by front. -/
theorem groupFronts_grouped
    (lessons : List (CostedLesson α)) :
    Grouped lessons (groupFronts lessons) := by
  have hFold :
      ∀ (rest done : List (CostedLesson α)) (fronts : List (Front α)),
        Grouped done fronts →
        Grouped (done ++ rest)
          (rest.foldl (fun fs l => addToFronts l fs) fronts) := by
    intro rest
    induction rest with
    | nil =>
        intro done fronts h
        rw [List.append_nil]
        exact h
    | cons l rest ih =>
        intro done fronts h
        have hStep := ih _ _ (addToFronts_grouped h l)
        rw [List.append_assoc] at hStep
        exact hStep
  exact hFold lessons [] [] ⟨List.nodup_nil, nofun, nofun⟩

end Steps

------------------------------------------------------------
-- Fronts in a Row
------------------------------------------------------------

/- The lessons of grouped fronts in a row are in order front by front. -/
theorem Grouped.ofFront_frontLessons
    {lessons : List (CostedLesson α)}
    {fronts : List (Front α)}
    (h : Grouped lessons fronts)
    (front : String) :
    ofFront front (fronts.flatMap (·.lessons)) =
      ofFront front lessons := by
  have hShares :
      ∀ some : List (Front α), (∀ f ∈ some, f ∈ fronts) →
        (some.map (·.id)).Nodup →
        ofFront front (some.flatMap (·.lessons)) =
          if front ∈ some.map (·.id) then ofFront front lessons
          else [] := by
    intro some
    induction some with
    | nil =>
        intro _ _
        rfl
    | cons f fs ih =>
        intro hSome hDistinct
        rcases List.nodup_cons.mp hDistinct with ⟨hFirst, hRest⟩
        have hLater := ih (fun g hg => hSome g (by simp [hg])) hRest
        rw [List.flatMap_cons, ofFront_append, hLater,
          h.holds f (hSome f (by simp)), ofFront_ofFront]
        by_cases hSame : f.id = front
        · subst hSame
          have hAbsent : f.id ∉ fs.map (·.id) := hFirst
          rw [if_neg hAbsent]
          simp
        · have hOther : front ≠ f.id := fun hId => hSame hId.symm
          simp [hSame, hOther]
  rw [hShares fronts (fun _ hf => hf) h.distinct]
  split
  · rfl
  · rename_i hUnknown
    symm
    apply ofFront_eq_nil
    intro l hl hFront
    apply hUnknown
    rw [← hFront]
    exact h.complete l hl

end Timetable.Plan
