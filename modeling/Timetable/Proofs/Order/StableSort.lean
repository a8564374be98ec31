import Mathlib.Data.List.Basic

/-
  This file says what a stable sort is: the same elements in
  order, and those that are tied as they came.  There is only
  one list that is so.

  Key definitions include:
    * `tied`
    * `StableSort`

  Main theorems include:
    * `stableSort_mergeSort`
    * `StableSort.unique`
    * `StableSort.forall₂_tied`
    * `mergeSort_eq_buckets`
-/

namespace Timetable

variable {α : Type} {le : α → α → Bool}

------------------------------------------------------------
-- Stable Sorts
------------------------------------------------------------

/- Neither of two elements comes before the other. -/
def tied (le : α → α → Bool) (a b : α) : Bool :=
  le a b && le b a

/- A list in order that holds the elements of another, ties as they came. -/
structure StableSort
    (le : α → α → Bool)
    (xs sorted : List α) : Prop where
  perm : sorted.Perm xs
  ordered : sorted.Pairwise (fun a b => le a b = true)
  stable : ∀ a, sorted.filter (tied le a) = xs.filter (tied le a)

/- Elements that are tied with one are tied with each other. -/
theorem pairwise_tied
    (hTrans : ∀ a b c, le a b = true → le b c = true → le a c = true)
    (a : α)
    (xs : List α) :
    (xs.filter (tied le a)).Pairwise (fun b c => le b c = true) := by
  apply List.pairwise_of_forall_mem_list
  intro b hb c hc
  have hFirst := (List.mem_filter.mp hb).2
  have hSecond := (List.mem_filter.mp hc).2
  simp only [tied, Bool.and_eq_true] at hFirst hSecond
  exact hTrans b a c hFirst.2 hSecond.1

theorem stableSort_mergeSort
    (hTrans : ∀ a b c, le a b = true → le b c = true → le a c = true)
    (hTotal : ∀ a b, (le a b || le b a) = true)
    (xs : List α) :
    StableSort le xs (xs.mergeSort le) where
  perm := List.mergeSort_perm xs le
  ordered := List.pairwise_mergeSort hTrans hTotal xs
  stable := by
    intro a
    have hKept :
        (xs.filter (tied le a)).Sublist (xs.mergeSort le) :=
      List.sublist_mergeSort hTrans hTotal
        (pairwise_tied hTrans a xs) List.filter_sublist
    have hAmong :
        (xs.filter (tied le a)).Sublist
          ((xs.mergeSort le).filter (tied le a)) := by
      have hFiltered := hKept.filter (tied le a)
      simpa only [List.filter_filter, Bool.and_self] using hFiltered
    have hLength :=
      ((List.mergeSort_perm xs le).filter (tied le a)).length_eq
    exact (hAmong.eq_of_length hLength.symm).symm

/- The first of two lists in order, with the same elements, is tied with that of the other. -/
theorem tied_of_perm
    (hTotal : ∀ a b, (le a b || le b a) = true)
    {a b : α}
    {xs ys : List α}
    (hFirst : (a :: xs).Pairwise (fun a b => le a b = true))
    (hSecond : (b :: ys).Pairwise (fun a b => le a b = true))
    (hPerm : (a :: xs).Perm (b :: ys)) :
    tied le a b = true := by
  have hSelf : ∀ c, le c c = true := by
    intro c
    simpa using hTotal c c
  have hLeast :
      ∀ {c : α} {zs : List α},
        (c :: zs).Pairwise (fun a b => le a b = true) →
        ∀ d ∈ c :: zs, le c d = true := by
    intro c zs hOrder d hd
    rcases List.mem_cons.mp hd with rfl | hLater
    · exact hSelf d
    · exact List.rel_of_pairwise_cons hOrder hLater
  have hThere := hLeast hFirst b (hPerm.mem_iff.mpr (by simp))
  have hBack := hLeast hSecond a (hPerm.mem_iff.mp (by simp))
  simp [tied, hThere, hBack]

/- There is one stable sort of a list. -/
theorem StableSort.unique
    (hTotal : ∀ a b, (le a b || le b a) = true)
    {xs ys zs : List α}
    (hFirst : StableSort le xs ys)
    (hSecond : StableSort le xs zs) :
    ys = zs := by
  have hPerm : ys.Perm zs := hFirst.perm.trans hSecond.perm.symm
  have hTies : ∀ a, ys.filter (tied le a) = zs.filter (tied le a) :=
    fun a => (hFirst.stable a).trans (hSecond.stable a).symm
  have hOrder := hFirst.ordered
  have hOther := hSecond.ordered
  clear hFirst hSecond
  induction ys generalizing zs with
  | nil => exact hPerm.nil_eq
  | cons y ys ih =>
      cases zs with
      | nil => exact hPerm.eq_nil
      | cons z zs =>
          -- the first elements are tied, hence the first of the same ties
          have hTied := tied_of_perm hTotal hOrder hOther hPerm
          have hSelf : tied le y y = true := by
            simpa [tied] using hTotal y y
          have hHead := hTies y
          rw [List.filter_cons_of_pos hSelf,
            List.filter_cons_of_pos hTied] at hHead
          rcases List.cons.inj hHead with ⟨rfl, _⟩
          congr 1
          apply ih hPerm.cons_inv _ hOrder.of_cons hOther.of_cons
          intro a
          have hTail := hTies a
          rw [List.filter_cons, List.filter_cons] at hTail
          split at hTail
          · exact (List.cons.inj hTail).2
          · exact hTail

/- Elements that are tied are tied with the same elements. -/
theorem tied_congr
    (hTrans : ∀ a b c, le a b = true → le b c = true → le a c = true)
    {a b : α}
    (hTied : tied le a b = true)
    (c : α) :
    tied le c a = tied le c b := by
  simp only [tied, Bool.and_eq_true] at hTied
  rw [Bool.eq_iff_iff]
  simp only [tied, Bool.and_eq_true]
  constructor
  · rintro ⟨hThere, hBack⟩
    exact ⟨hTrans c a b hThere hTied.1, hTrans b a c hTied.2 hBack⟩
  · rintro ⟨hThere, hBack⟩
    exact ⟨hTrans c b a hThere hTied.2, hTrans a b c hTied.1 hBack⟩

/- Of a list in order the first element comes before all that are tied with some of it. -/
theorem first_le_of_count
    (hTrans : ∀ a b c, le a b = true → le b c = true → le a c = true)
    {a b : α}
    {xs : List α}
    (hOrder : (a :: xs).Pairwise (fun a b => le a b = true))
    (hSome : 0 < (a :: xs).countP (tied le b)) :
    le a b = true := by
  rcases List.countP_pos_iff.mp hSome with ⟨c, hc, hTied⟩
  simp only [tied, Bool.and_eq_true] at hTied
  rcases List.mem_cons.mp hc with rfl | hLater
  · exact hTied.2
  · exact hTrans a c b (List.rel_of_pairwise_cons hOrder hLater) hTied.2

/-
  Lists in order that hold as many elements of each tie agree
  place by place, up to ties.
-/
theorem forall₂_tied_of_count
    (hTrans : ∀ a b c, le a b = true → le b c = true → le a c = true)
    (hTotal : ∀ a b, (le a b || le b a) = true)
    {xs ys : List α}
    (hFirst : xs.Pairwise (fun a b => le a b = true))
    (hSecond : ys.Pairwise (fun a b => le a b = true))
    (hCount : ∀ c, xs.countP (tied le c) = ys.countP (tied le c)) :
    List.Forall₂ (fun a b => tied le a b = true) xs ys := by
  have hSome :
      ∀ (a : α) (zs : List α), 0 < (a :: zs).countP (tied le a) := by
    intro a zs
    refine List.countP_pos_iff.mpr ⟨a, List.mem_cons_self, ?_⟩
    simpa [tied] using hTotal a a
  induction xs generalizing ys with
  | nil =>
      cases ys with
      | nil => exact List.Forall₂.nil
      | cons y ys =>
          have hNone := hSome y ys
          rw [← hCount y] at hNone
          cases hNone
  | cons x xs ih =>
      cases ys with
      | nil =>
          have hNone := hSome x xs
          rw [hCount x] at hNone
          cases hNone
      | cons y ys =>
          have hThere := first_le_of_count hTrans hFirst
            (hCount y ▸ hSome y ys)
          have hBack := first_le_of_count hTrans hSecond
            (hCount x ▸ hSome x xs)
          have hTied : tied le x y = true := by
            simp [tied, hThere, hBack]
          refine List.Forall₂.cons hTied (ih hFirst.of_cons hSecond.of_cons ?_)
          intro c
          have hAll := hCount c
          rw [List.countP_cons, List.countP_cons,
            tied_congr hTrans hTied c] at hAll
          exact Nat.add_right_cancel hAll

/- Stable sorts of the same elements agree up to ties. -/
theorem StableSort.forall₂_tied
    (hTrans : ∀ a b c, le a b = true → le b c = true → le a c = true)
    (hTotal : ∀ a b, (le a b || le b a) = true)
    {xs others ys zs : List α}
    (hFirst : StableSort le xs ys)
    (hSecond : StableSort le others zs)
    (hPerm : xs.Perm others) :
    List.Forall₂ (fun a b => tied le a b = true) ys zs := by
  apply forall₂_tied_of_count hTrans hTotal hFirst.ordered hSecond.ordered
  intro c
  exact ((hFirst.perm.trans hPerm).trans hSecond.perm.symm).countP_eq _

------------------------------------------------------------
-- Sorting by a Number
------------------------------------------------------------

/- Elements in the order of a number: those with zero, those with one, and so on. -/
def buckets
    (key : α → Nat)
    (bound : Nat)
    (xs : List α) : List α :=
  (List.range bound).flatMap (fun k => xs.filter (fun a => key a == k))

theorem buckets_succ
    (key : α → Nat)
    (bound : Nat)
    (xs : List α) :
    buckets key (bound + 1) xs =
      buckets key bound xs ++ xs.filter (fun a => key a == bound) := by
  simp [buckets, List.range_succ]

/- What has the same number may stand in the place of an element. -/
theorem map_buckets
    {β : Type}
    {key : α → Nat}
    {other : β → Nat}
    {f : α → β}
    {xs : List α}
    (hKey : ∀ a ∈ xs, key a = other (f a))
    (bound : Nat) :
    (buckets key bound xs).map f = buckets other bound (xs.map f) := by
  unfold buckets
  rw [List.map_flatMap]
  apply List.flatMap_congr
  intro k _
  rw [List.filter_map]
  apply congrArg (List.map f)
  apply List.filter_congr
  intro a ha
  rw [hKey a ha]
  rfl

/- The buckets below a bound hold the elements below it. -/
theorem buckets_perm
    (key : α → Nat)
    (bound : Nat)
    (xs : List α) :
    (buckets key bound xs).Perm (xs.filter (fun a => key a < bound)) := by
  induction bound with
  | zero => simp [buckets]
  | succ bound ih =>
      rw [buckets_succ]
      have hSplit :=
        List.filter_append_perm (fun a => decide (key a < bound))
          (xs.filter (fun a => key a < bound + 1))
      have hBelow :
          (xs.filter (fun a => key a < bound + 1)).filter
              (fun a => key a < bound) =
            xs.filter (fun a => key a < bound) := by
        rw [List.filter_filter]
        apply List.filter_congr
        intro a _
        rw [Bool.eq_iff_iff]
        simp only [Bool.and_eq_true, decide_eq_true_eq]
        omega
      have hAt :
          (xs.filter (fun a => key a < bound + 1)).filter
              (fun a => !decide (key a < bound)) =
            xs.filter (fun a => key a == bound) := by
        rw [List.filter_filter]
        apply List.filter_congr
        intro a _
        rw [Bool.eq_iff_iff]
        simp only [Bool.and_eq_true, Bool.not_eq_true', decide_eq_true_eq,
          decide_eq_false_iff_not, beq_iff_eq]
        omega
      rw [hBelow, hAt] at hSplit
      exact (ih.append_right _).trans hSplit

theorem mem_buckets
    {key : α → Nat}
    {bound : Nat}
    {xs : List α}
    {a : α}
    (ha : a ∈ buckets key bound xs) :
    key a < bound := by
  have hAmong := (buckets_perm key bound xs).mem_iff.mp ha
  simpa using (List.mem_filter.mp hAmong).2

/- Elements that are tied by a number have the same number. -/
theorem tied_key_iff
    {key : α → Nat}
    {a b : α} :
    tied (fun a b => decide (key a ≤ key b)) a b = true ↔
      key a = key b := by
  simp only [tied, Bool.and_eq_true, decide_eq_true_eq]
  omega

/- Of each number the buckets hold the elements as they came. -/
theorem filter_buckets
    (key : α → Nat)
    (k bound : Nat)
    (xs : List α) :
    (buckets key bound xs).filter (fun a => key a == k) =
      if k < bound then xs.filter (fun a => key a == k) else [] := by
  induction bound with
  | zero => simp [buckets]
  | succ bound ih =>
      rw [buckets_succ, List.filter_append, ih]
      by_cases hLast : k = bound
      · subst hLast
        simp
      · have hNone :
            (xs.filter (fun a => key a == bound)).filter
              (fun a => key a == k) = [] := by
          apply List.filter_eq_nil_iff.mpr
          intro a ha
          simp only [List.mem_filter, beq_iff_eq] at ha ⊢
          omega
        have hBound : k < bound + 1 ↔ k < bound := by omega
        simp only [hNone, List.append_nil, hBound]

theorem buckets_ordered
    (key : α → Nat)
    (bound : Nat)
    (xs : List α) :
    (buckets key bound xs).Pairwise
      (fun a b => decide (key a ≤ key b) = true) := by
  induction bound with
  | zero => exact List.Pairwise.nil
  | succ bound ih =>
      rw [buckets_succ, List.pairwise_append]
      refine ⟨ih, ?_, ?_⟩
      · apply List.pairwise_of_forall_mem_list
        intro a ha b hb
        simp only [List.mem_filter, beq_iff_eq] at ha hb
        simp only [decide_eq_true_eq]
        omega
      · intro a ha b hb
        have hLess := mem_buckets ha
        simp only [List.mem_filter, beq_iff_eq] at hb
        simp only [decide_eq_true_eq]
        omega

/- Buckets for all numbers that occur sort stably. -/
theorem stableSort_buckets
    {key : α → Nat}
    {bound : Nat}
    {xs : List α}
    (hBound : ∀ a ∈ xs, key a < bound) :
    StableSort (fun a b => decide (key a ≤ key b)) xs
      (buckets key bound xs) where
  perm := by
    have hAll : xs.filter (fun a => key a < bound) = xs := by
      apply List.filter_eq_self.mpr
      intro a ha
      simpa using hBound a ha
    have hPerm := buckets_perm key bound xs
    rwa [hAll] at hPerm
  ordered := buckets_ordered key bound xs
  stable := by
    intro a
    have hSame :
        tied (fun a b => decide (key a ≤ key b)) a =
          fun b => key b == key a := by
      funext b
      rw [Bool.eq_iff_iff, tied_key_iff, beq_iff_eq]
      exact eq_comm
    rw [hSame, filter_buckets]
    split
    · rfl
    · rename_i hBeyond
      symm
      apply List.filter_eq_nil_iff.mpr
      intro b hb
      have hLess := hBound b hb
      simp only [beq_iff_eq]
      omega

/-
  Sorting by a number is to take the elements with zero, then
  those with one, and so on.
-/
theorem mergeSort_eq_buckets
    {key : α → Nat}
    {bound : Nat}
    {xs : List α}
    (hBound : ∀ a ∈ xs, key a < bound) :
    xs.mergeSort (fun a b => decide (key a ≤ key b)) =
      buckets key bound xs := by
  have hTrans :
      ∀ a b c, decide (key a ≤ key b) = true →
        decide (key b ≤ key c) = true → decide (key a ≤ key c) = true := by
    intro a b c hFirst hSecond
    simp only [decide_eq_true_eq] at hFirst hSecond ⊢
    omega
  have hTotal :
      ∀ a b, (decide (key a ≤ key b) || decide (key b ≤ key a)) = true := by
    intro a b
    simp only [Bool.or_eq_true, decide_eq_true_eq]
    omega
  exact (stableSort_mergeSort hTrans hTotal xs).unique hTotal
    (stableSort_buckets hBound)

end Timetable
