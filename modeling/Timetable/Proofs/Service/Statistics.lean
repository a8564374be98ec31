import Mathlib.Data.List.Nodup
import Timetable.Proofs.Plan.Numbering
import Timetable.Proofs.Service.Outcome
import Timetable.Service.Plans

/-
  This file compares the figures that are told when a plan is
  generated with those that are worked out later, from its
  items and the lessons of the catalog.

  Nothing is stored about the front of an assignment, what it
  costs and whether it was forced.  Front and cost come from
  the lesson again, as long as ids name lessons uniquely.

  Key definitions include:
    * `Assignment.unforced`
    * `Statistics.unforced`
    * `Sourced`

  Main theorems include:
    * `lessonWithId?_lessonsWithIds`
    * `sourced_of_planned`
    * `summarize_assignmentOf`
-/

namespace Timetable

namespace Plan

------------------------------------------------------------
-- What is not Stored
------------------------------------------------------------

/- An assignment of which it is not known whether it was forced. -/
def Assignment.unforced
    {α : Type}
    (a : Assignment α) : Assignment α :=
  { a with forced := false }

/- Figures without those about forced lessons. -/
def Statistics.unforced
    {α : Type}
    (s : Statistics α) : Statistics α :=
  { s with forcedItems := 0, overflowItems := 0 }

/- The other figures do not depend on what was forced. -/
theorem summarize_unforced
    {α : Type}
    [Scalar α]
    (weeks : List (Week α))
    (assignments : List (Assignment α))
    (overflow : Int) :
    summarize weeks (assignments.map Assignment.unforced) 0 =
      (summarize weeks assignments overflow).unforced := by
  have hForced :
      (assignments.map Assignment.unforced).countP (·.forced) = 0 := by
    rw [List.countP_eq_zero]
    intro a ha
    rcases List.mem_map.mp ha with ⟨b, _, rfl⟩
    simp [Assignment.unforced]
  unfold summarize Statistics.unforced
  rw [hForced, List.length_map, List.map_map, List.map_map]
  rfl

end Plan

namespace Service

open Plan Store

------------------------------------------------------------
-- Lessons Found Again
------------------------------------------------------------

/- A lesson of a catalog with unique ids is found under its id. -/
theorem lessonWithId?_lessonsWithIds
    {t : Tables}
    {ids : List String}
    {e : CatalogEntry}
    (hUnique : (t.lessons.map (·.id)).Nodup)
    (he : e ∈ t.lessons)
    (hId : e.id ∈ ids) :
    Export.lessonWithId? (t.lessonsWithIds ids) e.id =
      some e.toLesson := by
  have hListed : e.toLesson ∈ (t.lessonsWithIds ids).reverse := by
    rw [List.mem_reverse]
    exact List.mem_map_of_mem
      (List.mem_filter.mpr ⟨he, List.contains_iff_mem.mpr hId⟩)
  unfold Export.lessonWithId?
  cases hFound :
      (t.lessonsWithIds ids).reverse.find? (fun l => l.id == e.id) with
  | none =>
      have hApart := List.find?_eq_none.mp hFound e.toLesson hListed
      exact absurd (beq_self_eq_true e.id) hApart
  | some l =>
      have hSame : l.id = e.id := by
        simpa using List.find?_some hFound
      have hMem := List.mem_of_find?_eq_some hFound
      rw [List.mem_reverse] at hMem
      rcases List.mem_map.mp hMem with ⟨other, hOther, rfl⟩
      have hOne : other = e :=
        List.inj_on_of_nodup_map hUnique (List.mem_filter.mp hOther).1
          he hSame
      rw [hOne]

/- An assignment is for a lesson of the catalog, at a playback speed. -/
def Sourced
    (t : Tables)
    (speed : Float)
    (a : Assignment Float) : Prop :=
  ∃ e ∈ t.lessons, a.origin = (e.toLesson.withCost speed).origin

/- An item that is about an assignment stands for it, but for force. -/
theorem assignmentOf_eq
    {t : Tables}
    {ids : List String}
    {speed : Float}
    {i : ScheduleItem}
    {a : Assignment Float}
    (hUnique : (t.lessons.map (·.id)).Nodup)
    (hSourced : Sourced t speed a)
    (hTopic : itemTopic i = assignmentTopic a)
    (hId : i.lessonId ∈ ids) :
    assignmentOf (t.lessonsWithIds ids) speed i = a.unforced := by
  rcases hSourced with ⟨e, he, hOrigin⟩
  simp only [Assignment.origin, CostedLesson.origin, Lesson.withCost,
    Prod.mk.injEq] at hOrigin
  simp only [itemTopic, assignmentTopic, Prod.mk.injEq] at hTopic
  rcases hOrigin with ⟨hLesson, hFront, hCost⟩
  rcases hTopic with ⟨hSame, hWeek, hPosition⟩
  have hItem : i.lessonId = e.id := hSame.trans hLesson
  have hFound := lessonWithId?_lessonsWithIds hUnique he (hItem ▸ hId)
  unfold assignmentOf Assignment.unforced
  rw [hItem, hFound, hWeek, hPosition]
  simp only [Option.getD_some]
  rw [← hLesson, ← hFront, ← hCost]

/- Items stand for the assignments that they are about, but for force. -/
theorem map_assignmentOf
    {t : Tables}
    {ids : List String}
    {speed : Float}
    {items : List ScheduleItem}
    {assignments : List (Assignment Float)}
    (hUnique : (t.lessons.map (·.id)).Nodup)
    (hSourced : ∀ a ∈ assignments, Sourced t speed a)
    (hTopics : items.map itemTopic = assignments.map assignmentTopic)
    (hIds : ∀ i ∈ items, i.lessonId ∈ ids) :
    items.map (assignmentOf (t.lessonsWithIds ids) speed) =
      assignments.map Assignment.unforced := by
  induction items generalizing assignments with
  | nil =>
      have hNone := List.map_eq_nil_iff.mp hTopics.symm
      rw [hNone]
      rfl
  | cons i items ih =>
      cases assignments with
      | nil => cases hTopics
      | cons a assignments =>
          rcases List.cons.inj hTopics with ⟨hTopic, hRest⟩
          rw [List.map_cons, List.map_cons,
            assignmentOf_eq hUnique (hSourced a List.mem_cons_self)
              hTopic (hIds i List.mem_cons_self),
            ih (fun b hb => hSourced b (List.mem_cons_of_mem a hb))
              hRest (fun j hj => hIds j (List.mem_cons_of_mem i hj))]

/- The figures that are worked out from items and the catalog. -/
theorem summarize_assignmentOf
    {t : Tables}
    {speed : Float}
    {items : List ScheduleItem}
    {assignments : List (Assignment Float)}
    (weeks : List (Week Float))
    (overflow : Int)
    (hUnique : (t.lessons.map (·.id)).Nodup)
    (hSourced : ∀ a ∈ assignments, Sourced t speed a)
    (hTopics : items.map itemTopic = assignments.map assignmentTopic) :
    summarize weeks
        (items.map
          (assignmentOf (t.lessonsWithIds (items.map (·.lessonId)))
            speed)) 0 =
      (summarize weeks assignments overflow).unforced := by
  rw [map_assignmentOf hUnique hSourced hTopics
      (fun _ hi => List.mem_map_of_mem hi),
    summarize_unforced]

------------------------------------------------------------
-- Where Assignments Come From
------------------------------------------------------------

/- What is planned was distributed, and is something. -/
theorem distribute_of_planned
    {req : GenerateRequest}
    {input : GenerationInput}
    {content : List (CostedLesson Float)}
    {d : Distribution Float}
    (hPlanned : planned req input content = .ok d) :
    d.assignments ≠ [] ∧
      ∃ frontOrder,
        distribute content (weekTable req input) input.mode
          frontOrder = .ok d := by
  unfold planned at hPlanned
  simp only at hPlanned
  split at hPlanned
  · cases hPlanned
  split at hPlanned
  · cases hPlanned
  · unfold arrange at hPlanned
    simp only at hPlanned
    split at hPlanned
    · cases hPlanned
    · rename_i hDistribute
      split at hPlanned
      · cases hPlanned
      · rename_i hSome
        cases hPlanned
        exact ⟨by simpa using hSome, _, hDistribute⟩

/- The assignments of a plan come from its content. -/
theorem origins_of_planned
    {req : GenerateRequest}
    {input : GenerationInput}
    {content : List (CostedLesson Float)}
    {d : Distribution Float}
    (hPlanned : planned req input content = .ok d) :
    (d.assignments.map (·.origin)).Perm (content.map (·.origin)) := by
  rcases distribute_of_planned hPlanned with
    ⟨hSome, frontOrder, hDistribute⟩
  apply distribute_origins_perm _ _ hDistribute
  · intro week hWeek
    have hPositive := buildWeeks_number_pos hWeek
    omega
  · by_contra hNone
    apply hSome
    refine (distribute_of_no_useful ?_ hDistribute).1
    intro week hWeek
    rw [← Bool.not_eq_true]
    exact fun hUseful => hNone ⟨week, hWeek, hUseful⟩

/- A plan whose content is of the catalog has assignments of the catalog. -/
theorem sourced_of_planned
    {owner : String}
    {locale : Text.Locale}
    {collator : Text.Collator}
    {req : GenerateRequest}
    {input : GenerationInput}
    {t : Tables}
    {d : Distribution Float}
    (hPlanned :
      planned req input
        (applyCost
          (sortLessons locale (eligibleLessons owner req t) collator)
          input.speed) = .ok d) :
    ∀ a ∈ d.assignments, Sourced t input.speed a := by
  intro a ha
  have hOrigin :=
    (origins_of_planned hPlanned).subset (List.mem_map_of_mem ha)
  rcases List.mem_map.mp hOrigin with ⟨costed, hCosted, hSame⟩
  rcases List.mem_map.mp hCosted with ⟨lesson, hLesson, rfl⟩
  have hEligible := (sortLessons_perm _ _ _).subset hLesson
  rcases List.mem_map.mp (List.mem_filter.mp hEligible).1 with
    ⟨e, he, rfl⟩
  exact ⟨e, (List.mem_filter.mp he).1, hSame.symm⟩

/- The assignments of a plan stand in the order of week and position. -/
theorem ordered_of_planned
    {req : GenerateRequest}
    {input : GenerationInput}
    {content : List (CostedLesson Float)}
    {d : Distribution Float}
    (hPlanned : planned req input content = .ok d) :
    d.assignments.Pairwise Assignment.Before := by
  rcases distribute_of_planned hPlanned with ⟨_, _, hDistribute⟩
  exact distribute_ordered (weeksFrom_numbers _ _ _ _ _).2 hDistribute

end Service

end Timetable
