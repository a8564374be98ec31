import Timetable.Proofs.Plan.Conservation

/-
  This file shows that the lessons of each week of a
  distribution stand at the positions one, two, three and so
  on, without a gap and without a repetition, and that the
  weeks follow each other in order.

  Key definitions include:
    * `positionsIn`
    * `Numbered`
    * `Assignment.Before`

  The numbering is proven by:
    * `visitWeeks_numbered`
    * `distribute_numbered`
    * `distribute_ordered`
-/

namespace Timetable.Plan

variable {α : Type}

------------------------------------------------------------
-- Positions of a Week
------------------------------------------------------------

/- The numbers from one up to a count. -/
def countingTo (k : Nat) : List Int :=
  (List.range k).map (fun i : Nat => (i : Int) + 1)

theorem countingTo_succ
    (k : Nat) :
    countingTo (k + 1) = countingTo k ++ [(k : Int) + 1] := by
  simp [countingTo, List.range_succ]

theorem mem_countingTo
    {k : Nat}
    {n : Int} :
    n ∈ countingTo k ↔ 1 ≤ n ∧ n ≤ k := by
  constructor
  · intro hn
    rcases List.mem_map.mp hn with ⟨i, hi, rfl⟩
    have hLess := List.mem_range.mp hi
    omega
  · rintro ⟨hLow, hHigh⟩
    refine List.mem_map.mpr ⟨(n - 1).toNat, ?_, ?_⟩
    · exact List.mem_range.mpr (by omega)
    · omega

theorem countingTo_nodup
    (k : Nat) :
    (countingTo k).Nodup := by
  induction k with
  | zero => simp [countingTo]
  | succ k ih =>
      rw [countingTo_succ, List.nodup_append]
      refine ⟨ih, by simp, ?_⟩
      intro n hn m hm
      have hBound := (mem_countingTo.mp hn).2
      rw [List.mem_singleton.mp hm]
      omega

/- The positions that assignments take in a week, in order. -/
def positionsIn
    (week : Int)
    (assignments : List (Assignment α)) : List Int :=
  (assignments.filter (fun a => a.week = week)).map (·.position)

@[simp] theorem positionsIn_append
    (week : Int)
    (first second : List (Assignment α)) :
    positionsIn week (first ++ second) =
      positionsIn week first ++ positionsIn week second := by
  simp [positionsIn]

/- A week that no assignment names has no positions. -/
theorem positionsIn_eq_nil
    {week : Int}
    {assignments : List (Assignment α)}
    (hWeek : ∀ a ∈ assignments, a.week ≠ week) :
    positionsIn week assignments = [] := by
  have hFilter :
      assignments.filter (fun a => a.week = week) = [] := by
    rw [List.filter_eq_nil_iff]
    intro a ha
    simpa using hWeek a ha
  simp [positionsIn, hFilter]

/- The positions of every week count up from one. -/
def Numbered (assignments : List (Assignment α)) : Prop :=
  ∀ week, ∃ k, positionsIn week assignments = countingTo k

------------------------------------------------------------
-- One Week
------------------------------------------------------------

section Weeks

variable [Scalar α]

/- A week under construction is filled from position one on. -/
theorem addAll_positions
    (load : WeekLoad α)
    (placed : List (CostedLesson α × Bool))
    (hPositions :
      load.assignments.map (·.position) =
        countingTo load.assignments.length) :
    (load.addAll placed).assignments.map (·.position) =
      countingTo (load.addAll placed).assignments.length := by
  induction placed generalizing load with
  | nil => exact hPositions
  | cons entry placed ih =>
      apply ih (load.add entry.1 entry.2)
      simp [WeekLoad.add, hPositions, countingTo_succ]

/- What a visit adds to a table: one week, counted from one. -/
theorem fill_numbered
    {σ : Type}
    {s : Strategy α σ}
    (hPlaces : s.Places)
    (w : Week α)
    (state : σ) :
    (∀ a ∈ (s.fill (WeekLoad.opened w) state).1.assignments,
      a.week = w.number) ∧
    ∃ k,
      (s.fill (WeekLoad.opened w) state).1.assignments.map
        (·.position) = countingTo k := by
  rcases hPlaces (WeekLoad.opened w) state with
    ⟨placed, hLoad, _⟩
  rw [hLoad]
  constructor
  · apply WeekLoad.addAll_weeks (WeekLoad.opened w) placed
    intro a ha
    cases ha
  · exact ⟨_, addAll_positions (WeekLoad.opened w) placed rfl⟩

omit [Scalar α] in
/- A new week keeps the numbering of the weeks before it. -/
theorem Numbered.append_week
    {assignments more : List (Assignment α)}
    (hNumbered : Numbered assignments)
    {number : Int}
    (hNew : ∀ a ∈ assignments, a.week ≠ number)
    (hWeek : ∀ a ∈ more, a.week = number)
    {k : Nat}
    (hPositions : more.map (·.position) = countingTo k) :
    Numbered (assignments ++ more) := by
  intro week
  rw [positionsIn_append]
  by_cases hSame : week = number
  · subst hSame
    refine ⟨k, ?_⟩
    have hAll :
        more.filter (fun a => a.week = week) = more := by
      rw [List.filter_eq_self]
      intro a ha
      simpa using hWeek a ha
    rw [positionsIn_eq_nil hNew, List.nil_append]
    simpa [positionsIn, hAll] using hPositions
  · rcases hNumbered week with ⟨j, hOld⟩
    refine ⟨j, ?_⟩
    have hNone : positionsIn week more = [] := by
      apply positionsIn_eq_nil
      intro a ha hEq
      exact hSame (by rw [← hEq, hWeek a ha])
    rw [hOld, hNone, List.append_nil]

/-
  Visiting weeks with different numbers keeps the numbering:
  a week that is still to be visited holds nothing yet.
-/
theorem visitWeeks_numbered
    {σ : Type}
    {s : Strategy α σ}
    (hPlaces : s.Places)
    (weeks : List (Week α))
    (hOrder : weeks.Pairwise (fun v w => v.number < w.number))
    (p : Progress α σ)
    (hFree :
      ∀ a ∈ p.assignments, ∀ w ∈ weeks, a.week ≠ w.number)
    (hNumbered : Numbered p.assignments) :
    Numbered (visitWeeks s weeks p).assignments := by
  induction weeks generalizing p with
  | nil => exact hNumbered
  | cons w ws ih =>
      rcases List.pairwise_cons.mp hOrder with
        ⟨hFirst, hRest⟩
      have hLater :
          ∀ a ∈ p.assignments, ∀ v ∈ ws, a.week ≠ v.number := by
        intro a ha v hv
        exact hFree a ha v (List.mem_cons_of_mem w hv)
      unfold visitWeeks
      split
      · split
        · exact hNumbered
        · rcases fill_numbered hPlaces w p.state with
            ⟨hWeek, k, hPositions⟩
          apply ih hRest
          · intro a ha v hv
            rcases List.mem_append.mp ha with hOld | hNew
            · exact hLater a hOld v hv
            · have hNumber := hWeek a hNew
              have hLess := hFirst v hv
              omega
          · apply hNumbered.append_week _ hWeek hPositions
            intro a ha
            exact hFree a ha w List.mem_cons_self
      · exact ih hRest p hLater hNumbered

end Weeks

------------------------------------------------------------
-- Overflow
------------------------------------------------------------

/- The last position of a week that counts up to `k` is `k`. -/
theorem lastPosition_of_positionsIn
    {week : Int}
    {assignments : List (Assignment α)}
    {k : Nat}
    (hPositions : positionsIn week assignments = countingTo k) :
    lastPosition week assignments = k := by
  have hFilter :
      ∀ (xs : List (Assignment α)) (p : Int),
        xs.foldl
            (fun p a =>
              if a.week = week ∧ p < a.position then a.position
              else p) p =
          (positionsIn week xs).foldl
            (fun p n => if p < n then n else p) p := by
    intro xs
    induction xs with
    | nil =>
        intro p
        rfl
    | cons a xs ih =>
        intro p
        by_cases hWeek : a.week = week
        · simp [positionsIn, hWeek, ih]
        · simp [positionsIn, hWeek, ih]
  have hCount :
      ∀ k : Nat,
        (countingTo k).foldl
          (fun p n => if p < n then n else p) 0 = (k : Int) := by
    intro k
    induction k with
    | zero => rfl
    | succ k ih =>
        rw [countingTo_succ, List.foldl_append, ih, List.foldl_cons,
          List.foldl_nil, if_pos (by omega)]
        omega
  unfold lastPosition
  rw [hFilter, hPositions, hCount]

/- Overflow takes the positions after a given one. -/
theorem overflowFrom_positions
    (week : Int)
    (k : Nat)
    (rest : List (CostedLesson α)) :
    countingTo k ++ (overflowFrom week k rest).map (·.position) =
      countingTo (k + rest.length) := by
  induction rest generalizing k with
  | nil => simp [overflowFrom]
  | cons l rest ih =>
      have hNext := ih (k + 1)
      rw [countingTo_succ, List.append_assoc] at hNext
      have hLength : k + 1 + rest.length = k + (rest.length + 1) := by
        omega
      rw [hLength] at hNext
      simpa [overflowFrom] using hNext

theorem overflowFrom_weeks
    (week position : Int)
    (rest : List (CostedLesson α)) :
    ∀ a ∈ overflowFrom week position rest, a.week = week := by
  induction rest generalizing position with
  | nil =>
      intro a ha
      cases ha
  | cons l rest ih =>
      intro a ha
      rcases List.mem_cons.mp ha with rfl | hLater
      · rfl
      · exact ih (position + 1) a hLater

/- Overflow continues the numbering of the week it goes to. -/
theorem Numbered.append_overflow
    {assignments : List (Assignment α)}
    (hNumbered : Numbered assignments)
    (week : Int)
    (rest : List (CostedLesson α)) :
    Numbered
      (assignments ++
        overflowFrom week (lastPosition week assignments) rest) := by
  intro other
  rw [positionsIn_append]
  by_cases hSame : other = week
  · subst hSame
    rcases hNumbered other with ⟨k, hOld⟩
    rw [lastPosition_of_positionsIn hOld]
    refine ⟨k + rest.length, ?_⟩
    have hAll :
        (overflowFrom other k rest).filter
            (fun a => a.week = other) =
          overflowFrom other k rest := by
      rw [List.filter_eq_self]
      intro a ha
      simpa using overflowFrom_weeks other k rest a ha
    rw [hOld, ← overflowFrom_positions other k rest]
    simp [positionsIn, hAll]
  · rcases hNumbered other with ⟨k, hOld⟩
    refine ⟨k, ?_⟩
    have hNone :
        positionsIn other
          (overflowFrom week (lastPosition week assignments) rest) =
            [] := by
      apply positionsIn_eq_nil
      intro a ha hEq
      exact hSame (by rw [← hEq, overflowFrom_weeks week _ rest a ha])
    rw [hOld, hNone, List.append_nil]

theorem finish_numbered
    {σ : Type}
    (s : Strategy α σ)
    (fronts : List (Front α))
    (p : Progress α σ)
    (hNumbered : Numbered p.assignments) :
    Numbered (finish s fronts p).assignments := by
  unfold finish
  split
  · exact hNumbered
  · split
    · exact hNumbered
    · exact hNumbered.append_overflow _ _

------------------------------------------------------------
-- Distributions
------------------------------------------------------------

/-
  In every week of a distribution over weeks in order, the
  positions count up from one.
-/
theorem distribute_numbered
    [Scalar α]
    {lessons : List (CostedLesson α)}
    {weeks : List (Week α)}
    {mode : Mode}
    {frontOrder : List String}
    {d : Distribution α}
    (hOrder : weeks.Pairwise (fun v w => v.number < w.number))
    (hDistribute : distribute lessons weeks mode frontOrder = .ok d) :
    Numbered d.assignments := by
  have hStart : Numbered ([] : List (Assignment α)) :=
    fun _ => ⟨0, rfl⟩
  have hFree :
      ∀ a ∈ ([] : List (Assignment α)), ∀ w ∈ weeks,
        a.week ≠ w.number := by
    intro a ha
    cases ha
  unfold distribute at hDistribute
  split at hDistribute
  · cases hDistribute
  · cases mode with
    | parallel =>
        cases hDistribute
        apply finish_numbered
        exact visitWeeks_numbered parallelStrategy_places weeks
          hOrder _ hFree hStart
    | sequential =>
        cases hDistribute
        apply finish_numbered
        exact visitWeeks_numbered sequentialStrategy_places weeks
          hOrder _ hFree hStart

------------------------------------------------------------
-- Order
------------------------------------------------------------

/- An assignment stands before another one: in an earlier week, or earlier in the week. -/
def Assignment.Before (a b : Assignment α) : Prop :=
  a.week < b.week ∨ (a.week = b.week ∧ a.position < b.position)

theorem countingTo_ascending
    (k : Nat) :
    (countingTo k).Pairwise (· < ·) := by
  induction k with
  | zero => exact List.Pairwise.nil
  | succ k ih =>
      rw [countingTo_succ, List.pairwise_append]
      refine ⟨ih, List.pairwise_singleton _ _, ?_⟩
      intro n hn m hm
      have hBound := (mem_countingTo.mp hn).2
      rw [List.mem_singleton.mp hm]
      omega

/- Numbered assignments that stand in the order of their weeks stand in order. -/
theorem Numbered.ordered
    {assignments : List (Assignment α)}
    (hNumbered : Numbered assignments)
    (hWeeks : assignments.Pairwise (fun a b => a.week ≤ b.week)) :
    assignments.Pairwise Assignment.Before := by
  rw [List.pairwise_iff_forall_sublist] at hWeeks ⊢
  intro a b hSublist
  have hLe := hWeeks hSublist
  by_cases hSame : a.week = b.week
  · refine Or.inr ⟨hSame, ?_⟩
    rcases hNumbered b.week with ⟨k, hPositions⟩
    have hTwo := (hSublist.filter (fun c => c.week = b.week)).map
      (·.position)
    simp only [hSame, decide_true, List.filter_cons_of_pos,
      List.filter_nil, List.map_cons, List.map_nil] at hTwo
    have hAscending := countingTo_ascending k
    rw [← hPositions, List.pairwise_iff_forall_sublist] at hAscending
    exact hAscending hTwo
  · exact Or.inl (by omega)

/-
  The weeks of the assignments so far ascend, and none is
  later than the last visited week.
-/
structure Progress.Ascending
    {σ : Type}
    (p : Progress α σ) : Prop where
  weeks : p.assignments.Pairwise (fun a b => a.week ≤ b.week)
  last :
    ∀ a ∈ p.assignments, ∃ week, p.lastWeek = some week ∧ a.week ≤ week

/- Assignments of one week that is not earlier than the last one may follow. -/
theorem Progress.Ascending.append
    {σ : Type}
    {p : Progress α σ}
    (h : p.Ascending)
    {more : List (Assignment α)}
    {number : Int}
    (hWeek : ∀ a ∈ more, a.week = number)
    (hLater : ∀ week, p.lastWeek = some week → week ≤ number) :
    (p.assignments ++ more).Pairwise (fun a b => a.week ≤ b.week) := by
  rw [List.pairwise_append]
  refine ⟨h.weeks, ?_, ?_⟩
  · rw [List.pairwise_iff_forall_sublist]
    intro a b hSublist
    have hFirst := hWeek a (hSublist.subset (by simp))
    have hSecond := hWeek b (hSublist.subset (by simp))
    omega
  · intro a ha b hb
    rcases h.last a ha with ⟨week, hLast, hLe⟩
    have hNext := hLater week hLast
    have hNumber := hWeek b hb
    omega

/- Weeks that are visited in order keep the order. -/
theorem visitWeeks_ascending
    [Scalar α]
    {σ : Type}
    {s : Strategy α σ}
    (hPlaces : s.Places)
    (weeks : List (Week α))
    (hOrder : weeks.Pairwise (fun v w => v.number < w.number))
    (p : Progress α σ)
    (hLater :
      ∀ week, p.lastWeek = some week → ∀ w ∈ weeks, week < w.number)
    (h : p.Ascending) :
    (visitWeeks s weeks p).Ascending := by
  induction weeks generalizing p with
  | nil => exact h
  | cons w ws ih =>
      rcases List.pairwise_cons.mp hOrder with ⟨hFirst, hRest⟩
      have hBehind :
          ∀ week, p.lastWeek = some week → ∀ v ∈ ws, week < v.number :=
        fun week hLast v hv =>
          hLater week hLast v (List.mem_cons_of_mem w hv)
      unfold visitWeeks
      split
      · split
        · exact h
        · have hWeek := (fill_numbered hPlaces w p.state).1
          have hUntil :
              ∀ week, p.lastWeek = some week → week ≤ w.number :=
            fun week hLast =>
              Int.le_of_lt (hLater week hLast w List.mem_cons_self)
          apply ih hRest
          · intro week hLast v hv
            cases hLast
            exact hFirst v hv
          · refine ⟨h.append hWeek hUntil, ?_⟩
            intro a ha
            refine ⟨w.number, rfl, ?_⟩
            rcases List.mem_append.mp ha with hOld | hNew
            · rcases h.last a hOld with ⟨week, hLast, hLe⟩
              exact Int.le_trans hLe (hUntil week hLast)
            · exact Int.le_of_eq (hWeek a hNew)
      · exact ih hRest p hBehind h

theorem finish_ascending
    {σ : Type}
    (s : Strategy α σ)
    (fronts : List (Front α))
    {p : Progress α σ}
    (h : p.Ascending) :
    (finish s fronts p).assignments.Pairwise
      (fun a b => a.week ≤ b.week) := by
  unfold finish
  split
  · exact h.weeks
  · rename_i week hLast
    split
    · exact h.weeks
    · apply h.append (overflowFrom_weeks week _ _)
      intro other hOther
      rw [hLast] at hOther
      cases hOther
      exact Int.le_refl _

/-
  The assignments of a distribution over weeks in order stand
  in the order of week and position.
-/
theorem distribute_ordered
    [Scalar α]
    {lessons : List (CostedLesson α)}
    {weeks : List (Week α)}
    {mode : Mode}
    {frontOrder : List String}
    {d : Distribution α}
    (hOrder : weeks.Pairwise (fun v w => v.number < w.number))
    (hDistribute : distribute lessons weeks mode frontOrder = .ok d) :
    d.assignments.Pairwise Assignment.Before := by
  have hNumbered := distribute_numbered hOrder hDistribute
  apply hNumbered.ordered
  unfold distribute at hDistribute
  split at hDistribute
  · cases hDistribute
  · cases mode with
    | parallel =>
        cases hDistribute
        apply finish_ascending
        apply visitWeeks_ascending parallelStrategy_places weeks hOrder
        · intro week hLast
          cases hLast
        · exact ⟨List.Pairwise.nil, by simp⟩
    | sequential =>
        cases hDistribute
        apply finish_ascending
        apply visitWeeks_ascending sequentialStrategy_places weeks hOrder
        · intro week hLast
          cases hLast
        · exact ⟨List.Pairwise.nil, by simp⟩

end Timetable.Plan
