import Mathlib.Data.List.Nodup
import Timetable.Proofs.Plan.FrontWeights
import Timetable.Proofs.Plan.StudyOrder

/-
  This file says what grouping makes of lessons: fronts in
  the order in which they appear, and in each front all of
  its lessons, with the name that the first of them gives it
  and with their costs added from the left.

  A front can be searched for from the first one on, or its
  place can be kept by its id.  A table that does the latter
  ends with the same fronts: at every moment it knows the
  places of its fronts, and of no others.

  Key definitions include:
    * `firstPlace`
    * `FrontTable`
    * `FrontTable.put`
    * `FrontTable.Indexed`

  Main theorems include:
    * `frontIds_ordered`
    * `FrontTable.Indexed.put`
    * `FrontTable.fronts_put`
    * `FrontTable.fronts_of_table`
    * `groupFronts_partitions`
-/

namespace Timetable.Plan

variable {α : Type}

------------------------------------------------------------
-- First Appearance
------------------------------------------------------------

/- Where a front appears first among lessons, their number if it does not. -/
def firstPlace
    (front : String)
    (lessons : List (CostedLesson α)) : Nat :=
  lessons.findIdx (fun l => l.frontId = front)

theorem firstPlace_lt
    {front : String}
    {lessons : List (CostedLesson α)}
    (hKnown : front ∈ frontIds lessons) :
    firstPlace front lessons < lessons.length := by
  rcases mem_frontIds.mp hKnown with ⟨l, hl, hFront⟩
  exact List.findIdx_lt_length_of_exists ⟨l, hl, by simpa using hFront⟩

/- Later lessons do not change where a front appears first. -/
theorem firstPlace_concat
    {front : String}
    {lessons : List (CostedLesson α)}
    (hKnown : front ∈ frontIds lessons)
    (l : CostedLesson α) :
    firstPlace front (lessons ++ [l]) = firstPlace front lessons := by
  have hEarly := firstPlace_lt hKnown
  unfold firstPlace at hEarly ⊢
  rw [List.findIdx_append, if_pos hEarly]

/- A new front appears behind all lessons before. -/
theorem firstPlace_concat_new
    {lessons : List (CostedLesson α)}
    {l : CostedLesson α}
    (hNew : l.frontId ∉ frontIds lessons) :
    firstPlace l.frontId (lessons ++ [l]) = lessons.length := by
  have hNone :
      lessons.findIdx (fun m => m.frontId = l.frontId) =
        lessons.length := by
    apply List.findIdx_eq_length_of_false
    intro m hm
    rw [decide_eq_false_iff_not]
    exact fun hSame => hNew (mem_frontIds.mpr ⟨m, hm, hSame⟩)
  unfold firstPlace
  rw [List.findIdx_append, hNone]
  simp

/- Fronts are listed in the order in which they appear. -/
theorem frontIds_ordered
    (lessons : List (CostedLesson α)) :
    (frontIds lessons).Pairwise
      (fun a b => firstPlace a lessons < firstPlace b lessons) := by
  induction lessons using List.reverseRecOn with
  | nil => exact List.Pairwise.nil
  | append_singleton lessons l ih =>
      have hOld :
          (frontIds lessons).Pairwise
            (fun a b =>
              firstPlace a (lessons ++ [l]) <
                firstPlace b (lessons ++ [l])) := by
        apply ih.imp_of_mem
        intro a b ha hb hBefore
        rw [firstPlace_concat ha, firstPlace_concat hb]
        exact hBefore
      rw [frontIds_concat]
      split
      · exact hOld
      · rename_i hNew
        refine List.pairwise_append.mpr
          ⟨hOld, List.pairwise_singleton _ _, ?_⟩
        intro a ha b hb
        rw [List.mem_singleton.mp hb, firstPlace_concat_new hNew,
          firstPlace_concat ha]
        exact firstPlace_lt ha

------------------------------------------------------------
-- Fronts by their Places
------------------------------------------------------------

/- An entry of a longer list is an old one or the last one. -/
theorem getElem?_concat_iff
    {β : Type}
    {xs : List β}
    {x y : β}
    {i : Nat} :
    (xs ++ [x])[i]? = some y ↔
      xs[i]? = some y ∨ (i = xs.length ∧ x = y) := by
  rcases Nat.lt_trichotomy i xs.length with hEarly | rfl | hLate
  · rw [List.getElem?_append_left hEarly]
    simp [hEarly.ne]
  · simp
  · have hNone : xs[i]? = none := List.getElem?_eq_none hLate.le
    have hBehind : (xs ++ [x])[i]? = none :=
      List.getElem?_eq_none (by simpa using Nat.succ_le_of_lt hLate)
    simp [hNone, hBehind, hLate.ne']

/- Fronts, and the place of each by its id. -/
structure FrontTable (α : Type) where
  places : Std.HashMap String Nat
  fronts : List (Front α)

namespace FrontTable

/- A table without fronts. -/
def empty : FrontTable α :=
  ⟨∅, []⟩

/- The ids of the fronts, each at its place. -/
def ids (t : FrontTable α) : List String :=
  t.fronts.map (·.id)

/- The table knows the place of each of its fronts, and of no other front. -/
def Indexed (t : FrontTable α) : Prop :=
  ∀ (front : String) (place : Nat),
    t.places[front]? = some place ↔ t.ids[place]? = some front

theorem indexed_empty : (empty : FrontTable α).Indexed := by
  intro front place
  simp [empty, ids]

/- Two fronts with one id would have two places. -/
theorem Indexed.nodup
    {t : FrontTable α}
    (h : t.Indexed) :
    t.ids.Nodup := by
  rw [List.nodup_iff_getElem?_ne_getElem?]
  intro i j hBefore hLength hSame
  have hFirst := List.getElem?_eq_getElem (hBefore.trans hLength)
  have hSecond := hSame ▸ hFirst
  have hPlaces :=
    ((h _ i).mpr hFirst).symm.trans ((h _ j).mpr hSecond)
  exact hBefore.ne (Option.some.inj hPlaces)

variable [Scalar α]

/- The place of a lesson's front; a new front is opened, at first without lessons. -/
def locate
    (l : CostedLesson α)
    (t : FrontTable α) : Nat × FrontTable α :=
  match t.places[l.frontId]? with
  | some place => (place, t)
  | none =>
      (t.fronts.length,
        { places := t.places.insert l.frontId t.fronts.length
          fronts :=
            t.fronts ++
              [⟨l.frontId, l.frontName, [], Scalar.zero, Scalar.zero⟩] })

/- Put a lesson into the front at the place that is kept for it. -/
def put
    (l : CostedLesson α)
    (t : FrontTable α) : FrontTable α :=
  let (place, located) := t.locate l
  { located with fronts := located.fronts.modify place (·.push l) }

/- A lesson of a known front is put at the place of the front. -/
theorem put_of_known
    {l : CostedLesson α}
    {t : FrontTable α}
    {place : Nat}
    (hKnown : t.places[l.frontId]? = some place) :
    t.put l = { t with fronts := t.fronts.modify place (·.push l) } := by
  simp only [put, locate, hKnown]

/- A lesson of a new front is put behind all fronts. -/
theorem put_of_new
    {l : CostedLesson α}
    {t : FrontTable α}
    (hNew : t.places[l.frontId]? = none) :
    t.put l =
      { places := t.places.insert l.frontId t.fronts.length
        fronts := t.fronts ++ [Front.opened l] } := by
  simp only [put, locate, hNew, List.modify_eq_take_drop,
    List.take_left, List.drop_left]
  rfl

/- With places kept by id a lesson gets into the front that a search finds. -/
theorem fronts_put
    {t : FrontTable α}
    (h : t.Indexed)
    (l : CostedLesson α) :
    (t.put l).fronts = addToFronts l t.fronts := by
  cases hPlace : t.places[l.frontId]? with
  | some place =>
      have hThere := (h _ _).mp hPlace
      have hMember : l.frontId ∈ t.ids := List.mem_of_getElem? hThere
      rw [put_of_known hPlace, addToFronts_of_known h.nodup hMember]
      apply List.ext_getElem?
      intro i
      rw [List.getElem?_modify, List.getElem?_map]
      cases hFront : t.fronts[i]? with
      | none => rfl
      | some f =>
          -- the front at a place has the lesson's id just if the place is the kept one
          have hSame : place = i ↔ f.id = l.frontId := by
            have hId : t.ids[i]? = some f.id := by
              rw [ids, List.getElem?_map, hFront]
              rfl
            constructor
            · rintro rfl
              exact Option.some.inj (hId.symm.trans hThere)
            · intro hEq
              have hKept := (h _ _).mpr (hEq ▸ hId)
              exact Option.some.inj (hPlace.symm.trans hKept)
          simp only [hSame, Option.map_some, Option.map_eq_map]
  | none =>
      have hAbsent : l.frontId ∉ t.ids := by
        intro hMember
        rcases List.getElem?_of_mem hMember with ⟨place, hThere⟩
        rw [(h _ _).mpr hThere] at hPlace
        cases hPlace
      rw [put_of_new hPlace, addToFronts_of_new hAbsent]

/- A table goes on to know the places of its fronts. -/
theorem Indexed.put
    {t : FrontTable α}
    (h : t.Indexed)
    (l : CostedLesson α) :
    (t.put l).Indexed := by
  intro front place
  cases hPlace : t.places[l.frontId]? with
  | some known =>
      have hIds : (t.put l).ids = t.ids := by
        rw [put_of_known hPlace]
        apply List.ext_getElem?
        intro i
        simp only [ids, List.getElem?_map, List.getElem?_modify,
          Option.map_map, Option.map_eq_map]
        congr 1
        funext f
        simp only [Function.comp_apply]
        split <;> rfl
      rw [hIds, put_of_known hPlace]
      exact h front place
  | none =>
      have hLength : t.fronts.length = t.ids.length :=
        (List.length_map _).symm
      have hIds : (t.put l).ids = t.ids ++ [l.frontId] := by
        rw [put_of_new hPlace]
        exact List.map_append
      rw [hIds, put_of_new hPlace, Std.HashMap.getElem?_insert, hLength,
        getElem?_concat_iff, ← h front place]
      by_cases hOwn : l.frontId = front
      · subst hOwn
        simp [hPlace, eq_comm]
      · simp [hOwn]

/- A table into which lessons are put holds the fronts of the lessons. -/
theorem fronts_of_table
    (lessons : List (CostedLesson α)) :
    (lessons.foldl (fun t l => t.put l) empty).fronts =
      groupFronts lessons := by
  have hFold :
      ∀ (rest : List (CostedLesson α)) (t : FrontTable α), t.Indexed →
        (rest.foldl (fun t l => t.put l) t).fronts =
          rest.foldl (fun fs l => addToFronts l fs) t.fronts := by
    intro rest
    induction rest with
    | nil => exact fun _ _ => rfl
    | cons l rest ih =>
        intro t h
        rw [List.foldl_cons, List.foldl_cons, ih _ (h.put l),
          fronts_put h l]
  exact hFold lessons empty indexed_empty

end FrontTable

------------------------------------------------------------
-- What a Front Holds
------------------------------------------------------------

variable [Scalar α]

/- A front holds lessons, and the first of them gives it its name. -/
theorem exists_first_of_groupFronts
    {lessons : List (CostedLesson α)}
    {f : Front α}
    (hf : f ∈ groupFronts lessons) :
    ∃ first later,
      ofFront f.id lessons = first :: later ∧
        f.name = first.frontName := by
  have hAppeared := groupFronts_appeared lessons
  have hKnown : f.id ∈ frontIds lessons :=
    hAppeared.ids ▸ List.mem_map_of_mem hf
  rcases mem_frontIds.mp hKnown with ⟨l, hl, hFront⟩
  have hMember : l ∈ ofFront f.id lessons :=
    List.mem_filter.mpr ⟨hl, by simpa using hFront⟩
  rcases List.exists_cons_of_ne_nil (List.ne_nil_of_mem hMember) with
    ⟨first, later, hHeld⟩
  refine ⟨first, later, hHeld, ?_⟩
  have hFound :
      lessons.find? (fun l => l.frontId = f.id) = some first := by
    rw [← List.head?_filter]
    exact congrArg List.head? hHeld
  rw [hAppeared.names f hf, frontName, hFound]
  rfl

/-
  Grouping parts lessons by front.  The fronts differ and
  stand in the order of their first appearance, and every
  lesson has one.  A front holds at least one lesson, and just
  the lessons with its id, in order; it has the name that the
  first of them gives it, and as cost their costs, added one
  after the other to zero.  The same fronts come out when the
  place of each front is kept by its id.
-/
theorem groupFronts_partitions
    (lessons : List (CostedLesson α)) :
    ((groupFronts lessons).map (·.id)).Nodup ∧
      (groupFronts lessons).Pairwise
        (fun f g =>
          firstPlace f.id lessons < firstPlace g.id lessons) ∧
      (∀ l ∈ lessons, ∃ f ∈ groupFronts lessons, f.id = l.frontId) ∧
      (∀ f ∈ groupFronts lessons,
        ∃ first later,
          lessons.filter (fun l => l.frontId = f.id) =
            first :: later ∧
          f.lessons = first :: later ∧
          f.name = first.frontName ∧
          f.totalCost =
            (first :: later).foldl (fun sum l => sum + l.cost)
              Scalar.zero) ∧
      (lessons.foldl (fun t l => t.put l) FrontTable.empty).fronts =
        groupFronts lessons := by
  have hGrouped := groupFronts_grouped lessons
  refine ⟨hGrouped.distinct, ?_, ?_, ?_,
    FrontTable.fronts_of_table lessons⟩
  · have hOrdered := frontIds_ordered lessons
    rw [← (groupFronts_appeared lessons).ids, List.pairwise_map] at hOrdered
    exact hOrdered
  · intro l hl
    exact List.mem_map.mp (hGrouped.complete l hl)
  · intro f hf
    rcases exists_first_of_groupFronts hf with
      ⟨first, later, hHeld, hName⟩
    have hLessons := (hGrouped.holds f hf).trans hHeld
    refine ⟨first, later, hHeld, hLessons, hName, ?_⟩
    rw [groupFronts_totalCost lessons f hf, hLessons]
    exact List.foldl_map

end Timetable.Plan
