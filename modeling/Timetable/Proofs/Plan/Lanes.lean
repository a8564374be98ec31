import Mathlib.Data.List.Nodup
import Timetable.Proofs.Plan.Fronts

/-
  This file follows the fronts through the lanes that they
  are packed from.  A lane serves one front: however many
  lessons are drawn, it has the front's weight, and of its
  queue it loses the first lessons.

  Key definitions include:
    * `Lane.Serves`
    * `Lined`

  Main theorems include:
    * `Drawn.exists_lane`
    * `Lined.drawn`
    * `Lined.exists_lane`
-/

namespace Timetable.Plan

variable {α : Type}

------------------------------------------------------------
-- Lanes from which Lessons are Drawn
------------------------------------------------------------

/- What is drawn has waited before. -/
theorem Drawn.subset
    {lanes rest : List (Lane α)}
    {lessons : List (CostedLesson α)}
    (h : Drawn lanes lessons rest) :
    lessons ⊆ waiting lanes ∧ waiting rest ⊆ waiting lanes := by
  have hAll := h.perm.subset
  exact ⟨fun l hl => hAll (List.mem_append_left _ hl),
    fun l hl => hAll (List.mem_append_right _ hl)⟩

/- Drawing lessons leaves the weights of the lanes. -/
theorem Drawn.weights
    {lanes rest : List (Lane α)}
    {lessons : List (CostedLesson α)}
    (h : Drawn lanes lessons rest) :
    rest.map (·.weight) = lanes.map (·.weight) := by
  induction h with
  | nothing => rfl
  | lesson _ _ ih => simpa using ih

/- Each lane has lost the first lessons of its queue, which are among those drawn. -/
theorem Drawn.exists_lane
    {lanes rest : List (Lane α)}
    {lessons : List (CostedLesson α)}
    (h : Drawn lanes lessons rest) :
    ∀ left ∈ rest, ∃ lane ∈ lanes,
      left.weight = lane.weight ∧
      ∃ taken,
        taken ++ left.queue = lane.queue ∧ taken.Sublist lessons := by
  induction h with
  | nothing =>
      intro left hLeft
      exact ⟨left, hLeft, rfl, [], rfl, List.Sublist.refl _⟩
  | @lesson before behind rest lane l queue lessons hQueue _ ih =>
      intro left hLeft
      rcases ih left hLeft with
        ⟨other, hOther, hWeight, taken, hTaken, hSublist⟩
      rcases List.mem_append.mp hOther with hBefore | hRest
      · exact ⟨other, List.mem_append_left _ hBefore, hWeight, taken,
          hTaken, hSublist.cons l⟩
      rcases List.mem_cons.mp hRest with rfl | hBehind
      · refine ⟨lane, List.mem_append_right _ List.mem_cons_self, hWeight,
          l :: taken, ?_, hSublist.cons_cons l⟩
        rw [List.cons_append, hTaken, hQueue]
      · exact ⟨other,
          List.mem_append_right _ (List.mem_cons_of_mem _ hBehind),
          hWeight, taken, hTaken, hSublist.cons l⟩

------------------------------------------------------------
-- Lanes of Fronts
------------------------------------------------------------

/- A lane has the weight of a front, and lessons of no other. -/
structure Lane.Serves
    (lane : Lane α)
    (f : Front α) : Prop where
  weight : lane.weight = f.weight
  own : ∀ l ∈ lane.queue, l.frontId = f.id

/- Every lane serves one of the fronts, and the weights are shared out alike. -/
structure Lined
    (fronts : List (Front α))
    (lanes : List (Lane α)) : Prop where
  serves : ∀ lane ∈ lanes, ∃ f ∈ fronts, lane.Serves f
  weights : lanes.map (·.weight) = fronts.map (·.weight)

theorem Lined.drawn
    {fronts : List (Front α)}
    {lanes rest : List (Lane α)}
    {lessons : List (CostedLesson α)}
    (h : Lined fronts lanes)
    (hDrawn : Drawn lanes lessons rest) :
    Lined fronts rest where
  serves := by
    intro left hLeft
    rcases hDrawn.exists_lane left hLeft with
      ⟨lane, hLane, hWeight, taken, hTaken, _⟩
    rcases h.serves lane hLane with ⟨f, hf, hServes⟩
    refine ⟨f, hf, hWeight.trans hServes.weight, ?_⟩
    intro l hl
    apply hServes.own
    rw [← hTaken]
    exact List.mem_append_right taken hl
  weights := hDrawn.weights.trans h.weights

/- Lessons of one lane are of one front. -/
theorem Lined.same_front
    {fronts : List (Front α)}
    {lanes : List (Lane α)}
    (h : Lined fronts lanes)
    {lane : Lane α}
    (hLane : lane ∈ lanes)
    {l m : CostedLesson α}
    (hl : l ∈ lane.queue)
    (hm : m ∈ lane.queue) :
    l.frontId = m.frontId := by
  rcases h.serves lane hLane with ⟨f, _, hServes⟩
  rw [hServes.own l hl, hServes.own m hm]

/- The next lesson of a front stands first in a lane that serves it. -/
theorem Lined.exists_lane
    {fronts : List (Front α)}
    {lanes : List (Lane α)}
    (h : Lined fronts lanes)
    (hDistinct : (fronts.map (·.id)).Nodup)
    {f : Front α}
    (hf : f ∈ fronts)
    {l : CostedLesson α}
    {rest : List (CostedLesson α)}
    (hNext : ofFront f.id (waiting lanes) = l :: rest) :
    ∃ lane ∈ lanes, lane.Serves f ∧ ∃ queue, lane.queue = l :: queue := by
  have hServes := h.serves
  clear h
  induction lanes with
  | nil => cases hNext
  | cons lane lanes ih =>
      have hWaiting :
          waiting (lane :: lanes) = lane.queue ++ waiting lanes :=
        rfl
      rw [hWaiting, ofFront_append] at hNext
      rcases hServes lane List.mem_cons_self with ⟨g, hg, hLane⟩
      by_cases hFirst : ofFront f.id lane.queue = []
      · rw [hFirst, List.nil_append] at hNext
        rcases ih hNext (fun other hOther =>
            hServes other (List.mem_cons_of_mem lane hOther)) with
          ⟨other, hOther, hFound⟩
        exact ⟨other, List.mem_cons_of_mem lane hOther, hFound⟩
      · -- the lane has a lesson of the front, so that it serves this front
        rcases List.exists_mem_of_ne_nil _ hFirst with ⟨m, hm⟩
        rcases List.mem_filter.mp hm with ⟨hQueued, hId⟩
        have hSame : g.id = f.id := by
          rw [← hLane.own m hQueued]
          exact of_decide_eq_true hId
        have hFront : g = f :=
          List.inj_on_of_nodup_map hDistinct hg hf hSame
        subst hFront
        have hOwn : ofFront g.id lane.queue = lane.queue := by
          unfold ofFront
          rw [List.filter_eq_self]
          intro k hk
          exact decide_eq_true (hLane.own k hk)
        rw [hOwn] at hNext hFirst
        refine ⟨lane, List.mem_cons_self, hLane, ?_⟩
        rcases List.append_eq_cons_iff.mp hNext with
          ⟨hNone, _⟩ | ⟨queue, hQueue, _⟩
        · exact absurd hNone hFirst
        · exact ⟨queue, hQueue⟩

section Weighed

variable [Scalar α]

/- Grouped fronts keep their ids and their lessons when they are weighed. -/
theorem Grouped.weighed
    {lessons : List (CostedLesson α)}
    {fronts : List (Front α)}
    (h : Grouped lessons fronts) :
    Grouped lessons (weighFronts fronts) := by
  have hIds : (weighFronts fronts).map (·.id) = fronts.map (·.id) := by
    unfold weighFronts
    rw [List.map_map]
    rfl
  refine ⟨by rw [hIds]; exact h.distinct, ?_, by rw [hIds]; exact h.complete⟩
  intro f hf
  rcases List.mem_map.mp hf with ⟨g, hg, rfl⟩
  exact h.holds g hg

end Weighed

/- Before the first week each front has its own lane. -/
theorem Grouped.lined
    {lessons : List (CostedLesson α)}
    {fronts : List (Front α)}
    (h : Grouped lessons fronts) :
    Lined fronts (fronts.map (·.lane)) where
  serves := by
    intro lane hLane
    rcases List.mem_map.mp hLane with ⟨f, hf, rfl⟩
    refine ⟨f, hf, rfl, ?_⟩
    intro l hl
    change l ∈ f.lessons at hl
    rw [h.holds f hf] at hl
    exact of_decide_eq_true (List.mem_filter.mp hl).2
  weights := by
    rw [List.map_map]
    rfl

end Timetable.Plan
