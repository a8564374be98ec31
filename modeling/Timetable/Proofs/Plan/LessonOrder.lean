import Mathlib.Data.List.Forall2
import Mathlib.Order.Defs.Unbundled
import Timetable.Plan.Ordering
import Timetable.Proofs.Order.StableSort
import Timetable.Proofs.Text.Collation

/-
  This file says what order lessons are put into: by subject
  and front as a collator orders their names, then by the
  numbers of module and lesson.  With a collator that compares
  by levels this is an order whatever the locale and its
  settings, and lessons that it does not tell apart stay as
  they came.

  Key definitions include:
    * `ComesBefore`

  Main theorems include:
    * `comesBefore_isStrictWeakOrder`
    * `stableSort_sortLessons`
    * `sortLessons_orders`
-/

namespace Timetable.Plan

variable {α : Type} {order : String → String → Ordering}

------------------------------------------------------------
-- The Order
------------------------------------------------------------

/-
  A lesson comes before another one: its subject does, or of
  the same subject its front, or of the same front its module
  has the lower number, or in the same module the lesson.
-/
def ComesBefore
    (order : String → String → Ordering)
    (a b : Lesson α) : Prop :=
  order a.subjectName b.subjectName = .lt ∨
  (order a.subjectName b.subjectName = .eq ∧
    (order a.frontName b.frontName = .lt ∨
      (order a.frontName b.frontName = .eq ∧
        (a.moduleSequence < b.moduleSequence ∨
          (a.moduleSequence = b.moduleSequence ∧
            a.sequence < b.sequence)))))

instance comesBefore_decidable
    (order : String → String → Ordering)
    (a b : Lesson α) : Decidable (ComesBefore order a b) := by
  unfold ComesBefore
  infer_instance

/- Lessons compare by subject, then front, module and lesson. -/
def studyCompare
    (order : String → String → Ordering) :
    Lesson α → Lesson α → Ordering :=
  compareLex (fun a b => order a.subjectName b.subjectName)
    (compareLex (fun a b => order a.frontName b.frontName)
      (compareLex
        (fun a b => Ord.compare a.moduleSequence b.moduleSequence)
        (fun a b => Ord.compare a.sequence b.sequence)))

theorem comesBefore_iff
    {a b : Lesson α} :
    ComesBefore order a b ↔ studyCompare order a b = .lt := by
  unfold ComesBefore studyCompare compareLex
  rw [Ordering.then_eq_lt, Ordering.then_eq_lt, Ordering.then_eq_lt,
    Int.compare_eq_lt, Int.compare_eq_lt, Int.compare_eq_eq]

/- The test of two lessons tells which one comes before. -/
theorem isBefore_iff
    {a b : Lesson α} :
    a.isBefore order b = true ↔ ComesBefore order a b := by
  unfold Lesson.isBefore ComesBefore
  cases order a.subjectName b.subjectName with
  | lt => simp
  | gt => simp
  | eq =>
      cases order a.frontName b.frontName with
      | lt => simp
      | gt => simp
      | eq =>
          by_cases hModule : a.moduleSequence = b.moduleSequence
          · simp [hModule]
          · simp [hModule]

section Ordered

variable [Std.TransCmp order]

instance transCmp_studyCompare :
    Std.TransCmp (studyCompare (α := α) order) := by
  have hSubject :=
    Text.transCmp_of_key order (fun l : Lesson α => l.subjectName)
  have hFront :=
    Text.transCmp_of_key order (fun l : Lesson α => l.frontName)
  have hModule :=
    Text.transCmp_of_key (fun a b : Int => Ord.compare a b)
      (fun l : Lesson α => l.moduleSequence)
  have hLesson :=
    Text.transCmp_of_key (fun a b : Int => Ord.compare a b)
      (fun l : Lesson α => l.sequence)
  unfold studyCompare
  infer_instance

theorem studyCompare_swap
    (a b : Lesson α) :
    studyCompare order b a = (studyCompare order a b).swap :=
  Std.OrientedCmp.eq_swap

/- That no lesson comes before the other is to compare alike. -/
theorem not_comesBefore_iff
    {a b : Lesson α} :
    ¬ ComesBefore order a b ∧ ¬ ComesBefore order b a ↔
      studyCompare order a b = .eq := by
  rw [comesBefore_iff, comesBefore_iff, studyCompare_swap a b]
  cases studyCompare order a b <;> simp

/- What comes before what is an order in which lessons tied with one are tied with each other. -/
theorem comesBefore_isStrictWeakOrder :
    IsStrictWeakOrder (Lesson α) (ComesBefore order) where
  irrefl := by
    intro a hLess
    have hSelf : studyCompare order a a = .eq := Std.ReflCmp.compare_self
    rw [comesBefore_iff, hSelf] at hLess
    cases hLess
  trans := by
    intro a b c hFirst hSecond
    rw [comesBefore_iff] at hFirst hSecond ⊢
    exact Std.TransCmp.lt_trans hFirst hSecond
  incomp_trans := by
    intro a b c hFirst hSecond
    rw [not_comesBefore_iff] at hFirst hSecond ⊢
    exact Std.TransCmp.eq_trans hFirst hSecond

end Ordered

------------------------------------------------------------
-- Sorting by the Order
------------------------------------------------------------

/- A lesson may stand before another one when that does not come before it. -/
def mayPrecede
    (order : String → String → Ordering)
    (a b : Lesson α) : Bool :=
  !decide (ComesBefore order b a)

/- Lessons are sorted by what may stand before what. -/
theorem sortLessons_eq_mergeSort
    (locale : Text.Locale)
    (lessons : List (Lesson α))
    (collator : Text.Collator) :
    sortLessons locale lessons collator =
      lessons.mergeSort (mayPrecede (collator.compare locale)) := by
  unfold sortLessons
  apply congrArg (fun le => lessons.mergeSort le)
  funext a b
  rw [mayPrecede, Bool.eq_iff_iff, Bool.not_eq_true', Bool.not_eq_true',
    decide_eq_false_iff_not, ← isBefore_iff, Bool.not_eq_true]

theorem tied_mayPrecede_iff
    {a b : Lesson α} :
    tied (mayPrecede order) a b = true ↔
      ¬ ComesBefore order a b ∧ ¬ ComesBefore order b a := by
  simp only [tied, mayPrecede, Bool.and_eq_true, Bool.not_eq_true',
    decide_eq_false_iff_not]
  exact And.comm

section Sorted

variable [Std.TransCmp order]

theorem mayPrecede_eq_isLE
    (a b : Lesson α) :
    mayPrecede order a b = (studyCompare order a b).isLE := by
  unfold mayPrecede
  rw [Bool.eq_iff_iff, Bool.not_eq_true', decide_eq_false_iff_not,
    comesBefore_iff, studyCompare_swap a b]
  cases studyCompare order a b <;> simp

theorem mayPrecede_trans
    (a b c : Lesson α)
    (hFirst : mayPrecede order a b = true)
    (hSecond : mayPrecede order b c = true) :
    mayPrecede order a c = true := by
  rw [mayPrecede_eq_isLE] at hFirst hSecond ⊢
  exact Std.TransCmp.isLE_trans hFirst hSecond

theorem mayPrecede_total
    (a b : Lesson α) :
    (mayPrecede order a b || mayPrecede order b a) = true := by
  rw [mayPrecede_eq_isLE, mayPrecede_eq_isLE, studyCompare_swap a b]
  cases studyCompare order a b <;> rfl

end Sorted

theorem stableSort_sortLessons
    {collator : Text.Collator}
    {locale : Text.Locale}
    [Std.TransCmp (collator.compare locale)]
    (lessons : List (Lesson α)) :
    StableSort (mayPrecede (collator.compare locale)) lessons
      (sortLessons locale lessons collator) := by
  rw [sortLessons_eq_mergeSort]
  exact stableSort_mergeSort mayPrecede_trans mayPrecede_total lessons

/-
  With a collator that compares by levels, what comes before
  what is a strict weak order.  Sorting lessons is the one
  stable sort by it: the same lessons, none behind one that it
  comes before, and those that are tied as they came.  To sort
  again changes nothing, and lessons that come in another
  sequence are sorted alike, up to ties.
-/
theorem sortLessons_orders
    {collator : Text.Collator}
    {elements : Text.Locale → String → List Text.Element}
    (hLevels : collator.ByLevels elements)
    (locale : Text.Locale)
    (lessons : List (Lesson α)) :
    IsStrictWeakOrder (Lesson α)
      (ComesBefore (collator.compare locale)) ∧
    (∀ sorted,
      StableSort (mayPrecede (collator.compare locale)) lessons sorted ↔
        sorted = sortLessons locale lessons collator) ∧
    sortLessons locale (sortLessons locale lessons collator) collator =
      sortLessons locale lessons collator ∧
    ∀ others, others.Perm lessons →
      List.Forall₂
        (fun a b =>
          ¬ ComesBefore (collator.compare locale) a b ∧
          ¬ ComesBefore (collator.compare locale) b a)
        (sortLessons locale others collator)
        (sortLessons locale lessons collator) := by
  have hOrder := hLevels.transCmp locale
  have hSorted :
      StableSort (mayPrecede (collator.compare locale)) lessons
        (sortLessons locale lessons collator) :=
    stableSort_sortLessons lessons
  refine ⟨comesBefore_isStrictWeakOrder, ?_, ?_, ?_⟩
  · intro sorted
    constructor
    · intro hOther
      exact hOther.unique mayPrecede_total hSorted
    · rintro rfl
      exact hSorted
  · rw [sortLessons_eq_mergeSort locale
      (sortLessons locale lessons collator)]
    exact List.mergeSort_of_pairwise hSorted.ordered
  · intro others hPerm
    have hTied :=
      (stableSort_sortLessons others).forall₂_tied
        mayPrecede_trans mayPrecede_total hSorted hPerm
    exact hTied.imp (fun _ _ => tied_mayPrecede_iff.mp)

/- Lessons of subjects. -/
def lessonsOf (subjects : List String) : List (Lesson Float) :=
  subjects.map fun subject =>
    { Lesson.blank Float with subjectName := subject }

/- French, with settings. -/
def french (settings : List String) : Text.Locale :=
  { language := some "fr", extensions := [⟨"u", settings⟩] }

/-
  Accents are compared from the start or from the end, or do
  not count, and numbers by their digits or by their value.
  In each case lessons in order stay as they are, and in any
  other sequence they are put into this one.
-/
theorem sortLessons_orders_of_accented :
    let inOrder (settings subjects : List String) :=
      sortLessons (french settings) (lessonsOf subjects) .latin =
        lessonsOf subjects
    let order := Text.Collator.latin.compare (french ["kb", "true"])
    inOrder [] ["cote", "coté", "côte", "côté"] ∧
      inOrder ["kb", "true"] ["cote", "côte", "coté", "Côté"] ∧
      inOrder ["ks", "level1"] ["côté", "Cote", "côte", "coté"] ∧
      inOrder [] ["Aula 10", "aula 9"] ∧
      inOrder ["kn", "true"] ["aula 9", "Aula 10"] ∧
      (lessonsOf ["cote", "côte", "coté", "Côté"]).Pairwise
        (ComesBefore order) ∧
      List.Forall₂
        (fun a b => ¬ ComesBefore order a b ∧ ¬ ComesBefore order b a)
        (sortLessons (french ["kb", "true"])
          (lessonsOf ["Côté", "coté", "côte", "cote"]) .latin)
        (lessonsOf ["cote", "côte", "coté", "Côté"]) := by
  intro inOrder order
  have hStays :
      ∀ settings subjects,
        (lessonsOf subjects).Pairwise
          (fun a b =>
            mayPrecede (Text.Collator.latin.compare (french settings))
              a b = true) →
        inOrder settings subjects := by
    intro settings subjects hOrdered
    have hUnique :=
      (sortLessons_orders Text.Collator.latin_byLevels (french settings)
        (lessonsOf subjects)).2.1
    exact ((hUnique _).mp ⟨List.Perm.refl _, hOrdered, fun _ => rfl⟩).symm
  have hChain :
      (lessonsOf ["cote", "côte", "coté", "Côté"]).Pairwise
        (ComesBefore order) := by
    decide +kernel
  have hWeak :=
    (sortLessons_orders Text.Collator.latin_byLevels
      (french ["kb", "true"]) (lessonsOf [])).1
  have hAccented :
      inOrder ["kb", "true"] ["cote", "côte", "coté", "Côté"] := by
    apply hStays
    apply hChain.imp
    intro a b hBefore
    have hNotBehind : ¬ ComesBefore order b a :=
      fun hBehind => hWeak.irrefl a (hWeak.trans a b a hBefore hBehind)
    simp [mayPrecede, order, hNotBehind]
  have hReversed :
      (lessonsOf ["Côté", "coté", "côte", "cote"]).Perm
        (lessonsOf ["cote", "côte", "coté", "Côté"]) :=
    List.reverse_perm (lessonsOf ["cote", "côte", "coté", "Côté"])
  have hAlike :=
    (sortLessons_orders Text.Collator.latin_byLevels
      (french ["kb", "true"])
      (lessonsOf ["cote", "côte", "coté", "Côté"])).2.2.2 _ hReversed
  rw [hAccented] at hAlike
  exact ⟨hStays _ _ (by decide +kernel), hAccented,
    hStays _ _ (by decide +kernel), hStays _ _ (by decide +kernel),
    hStays _ _ (by decide +kernel), hChain, hAlike⟩

end Timetable.Plan
