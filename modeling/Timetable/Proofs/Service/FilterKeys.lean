import Timetable.Proofs.Decimal.Numerals
import Timetable.Proofs.Service.Transparency

/-
  This file tells which filters share a text, and with it a
  key in the cache.  The text of a filter strings its ids
  together with commas and its parts with bars, and neither
  mark is escaped.  Filters whose ids hold no such mark have
  the same text exactly if they are akin, so no answer that
  is kept for one of them is served for a filter that selects
  other lessons.  An id that holds a comma can be taken for
  two ids, and then such an answer is served.

  Key definitions include:
    * `Service.Legible`
    * `Service.LegibleFilter`
    * `Service.idsText`
    * `Service.Uncollided`

  Main theorems include:
    * `Service.akin_of_filterText`: legible filters are told
      apart by their texts
    * `Service.filterText_separates`
    * `Service.filterText_of_pair`: two ids can be taken for
      one
-/

namespace Timetable

open Store Act

------------------------------------------------------------
-- Marks between Texts
------------------------------------------------------------

section Marks

variable {α : Type} {mark : α}

/- A mark that no text holds does not come into them as they are strung together. -/
theorem not_mem_intercalate
    {separator : List α}
    {pieces : List (List α)}
    (hSeparator : mark ∉ separator)
    (hPieces : ∀ piece ∈ pieces, mark ∉ piece) :
    mark ∉ separator.intercalate pieces := by
  induction pieces with
  | nil => simp
  | cons piece rest ih =>
      have hRest := ih (fun p hp => hPieces p (List.mem_cons_of_mem _ hp))
      have hPiece := hPieces piece List.mem_cons_self
      cases rest with
      | nil => simpa using hPiece
      | cons next rest =>
          simp only [List.intercalate_cons_cons, List.mem_append, not_or]
          exact ⟨⟨hPiece, hSeparator⟩, hRest⟩

variable [BEq α] [LawfulBEq α]

/- What stands before the first mark ends where the mark is. -/
theorem eq_of_first_mark
    {xs ys us vs : List α}
    (hLeft : mark ∉ xs)
    (hRight : mark ∉ ys)
    (hSame : xs ++ mark :: us = ys ++ mark :: vs) :
    xs = ys ∧ us = vs := by
  have hPieces := congrArg (List.splitOn mark) hSame
  rw [List.splitOn_append_cons_self_of_not_mem hLeft,
    List.splitOn_append_cons_self_of_not_mem hRight] at hPieces
  obtain rfl : xs = ys := (List.cons.inj hPieces).1
  exact ⟨rfl, (List.cons.inj (List.append_cancel_left hSame)).2⟩

/- What stands behind the last mark starts where the mark is. -/
theorem eq_of_last_mark
    {xs ys us vs : List α}
    (hLeft : mark ∉ us)
    (hRight : mark ∉ vs)
    (hSame : xs ++ mark :: us = ys ++ mark :: vs) :
    xs = ys ∧ us = vs := by
  have hTurned := congrArg List.reverse hSame
  simp only [List.reverse_append, List.reverse_cons, List.append_assoc,
    List.singleton_append] at hTurned
  rcases eq_of_first_mark (by simpa using hLeft) (by simpa using hRight) hTurned with
    ⟨hBehind, hBefore⟩
  exact ⟨List.reverse_injective hBefore, List.reverse_injective hBehind⟩

/- The pieces are read back, except that no piece at all reads as an empty one. -/
theorem splitOn_strung
    {pieces : List (List α)}
    (hPieces : ∀ piece ∈ pieces, mark ∉ piece) :
    List.splitOn mark ([mark].intercalate pieces) =
      if pieces = [] then [[]] else pieces := by
  split
  · rename_i hNone
    rw [hNone, List.intercalate_nil, List.splitOn_nil]
  · rename_i hSome
    exact List.splitOn_intercalate mark hPieces hSome

theorem eq_of_strung
    {xs ys : List (List α)}
    (hLeft : ∀ x ∈ xs, mark ∉ x)
    (hRight : ∀ y ∈ ys, mark ∉ y)
    (hLeftBlank : xs ≠ [[]])
    (hRightBlank : ys ≠ [[]])
    (hSame : [mark].intercalate xs = [mark].intercalate ys) :
    xs = ys := by
  have hPieces := congrArg (List.splitOn mark) hSame
  rw [splitOn_strung hLeft, splitOn_strung hRight] at hPieces
  by_cases hx : xs = [] <;> by_cases hy : ys = []
  · rw [hx, hy]
  · rw [if_pos hx, if_neg hy] at hPieces
    exact absurd hPieces.symm hRightBlank
  · rw [if_neg hx, if_pos hy] at hPieces
    exact absurd hPieces hLeftBlank
  · rwa [if_neg hx, if_neg hy] at hPieces

end Marks

namespace Service

open Plan

------------------------------------------------------------
-- Legible Ids
------------------------------------------------------------

/-
  Ids that can be told from their text: none of them holds a
  mark, and they are not the empty id alone, whose text is
  that of no ids.
-/
structure Legible (ids : List String) : Prop where
  comma : ∀ id ∈ ids, ',' ∉ id.toList
  bar : ∀ id ∈ ids, '|' ∉ id.toList
  named : ids ≠ [""]

/- A filter with such ids; its course may have any id. -/
structure LegibleFilter (f : LessonFilter) : Prop where
  subjectIds : Legible f.subjectIds
  moduleIds : Legible f.moduleIds

/- Ids in ascending order with commas between them. -/
def idsText (ids : List String) : List Char :=
  [','].intercalate ((ascendingTexts ids).map String.toList)

theorem ascendingTexts_perm
    (ids : List String) :
    (ascendingTexts ids).Perm ids :=
  List.mergeSort_perm ids _

/- A mark that no id holds is in none of the pieces. -/
theorem not_mem_piece
    {mark : Char}
    {ids : List String}
    (hIds : ∀ id ∈ ids, mark ∉ id.toList) :
    ∀ piece ∈ (ascendingTexts ids).map String.toList, mark ∉ piece := by
  intro piece hPiece
  rcases List.mem_map.mp hPiece with ⟨id, hId, rfl⟩
  exact hIds id ((ascendingTexts_perm ids).mem_iff.mp hId)

namespace Legible

variable {ids others : List String}

theorem bar_not_mem_idsText
    (hLegible : Legible ids) :
    '|' ∉ idsText ids :=
  not_mem_intercalate (by decide) (not_mem_piece hLegible.bar)

theorem pieces_ne_blank
    (hLegible : Legible ids) :
    (ascendingTexts ids).map String.toList ≠ [[]] := by
  intro hBlank
  rcases List.map_eq_singleton_iff.mp hBlank with ⟨id, hOne, hEmpty⟩
  obtain rfl : id = "" := String.toList_inj.mp hEmpty
  apply hLegible.named
  rw [← List.perm_singleton, ← hOne]
  exact (ascendingTexts_perm ids).symm

/- The text of legible ids tells them, but for their order. -/
theorem perm_of_idsText
    (hLegible : Legible ids)
    (hOthers : Legible others)
    (hSame : idsText ids = idsText others) :
    ids.Perm others := by
  have hPieces := eq_of_strung (not_mem_piece hLegible.comma) (not_mem_piece hOthers.comma)
    hLegible.pieces_ne_blank hOthers.pieces_ne_blank hSame
  have hSorted : ascendingTexts ids = ascendingTexts others :=
    List.map_injective_iff.mpr (fun _ _ => String.toList_inj.mp) hPieces
  exact (ascendingTexts_perm ids).symm.trans (hSorted ▸ ascendingTexts_perm others)

end Legible

------------------------------------------------------------
-- Texts of Filters
------------------------------------------------------------

/- The parts of the text of a filter.  The last bar is in front of the least priority. -/
theorem toList_filterText
    (f : LessonFilter) :
    (filterText f).toList =
      (idsText f.subjectIds ++ '|' :: (f.courseId.toList ++ '|' :: idsText f.moduleIds)) ++
        '|' :: (toString f.minPriority).toList := by
  simp [filterText, idsText, String.toList_intercalate]

theorem bar_not_mem_toString
    (k : Int) :
    '|' ∉ (toString k).toList := by
  rw [Decimal.toString_eq_signed, String.toList_ofList]
  intro hBar
  rcases List.mem_append.mp hBar with hSign | hDigit
  · revert hSign
    cases decide (k < 0) <;> decide
  · exact absurd (Decimal.allDigits_toDigits _ _ hDigit) (by decide)

/- Whatever the ids are, the text tells the least priority from the rest. -/
theorem parts_of_filterText
    {f g : LessonFilter}
    (hSame : filterText f = filterText g) :
    f.minPriority = g.minPriority ∧
      idsText f.subjectIds ++ '|' :: (f.courseId.toList ++ '|' :: idsText f.moduleIds) =
        idsText g.subjectIds ++ '|' :: (g.courseId.toList ++ '|' :: idsText g.moduleIds) := by
  have hParts := congrArg String.toList hSame
  rw [toList_filterText, toList_filterText] at hParts
  rcases eq_of_last_mark (bar_not_mem_toString _) (bar_not_mem_toString _) hParts with
    ⟨hIds, hPriority⟩
  exact ⟨Decimal.eq_of_toString (String.toList_inj.mp hPriority), hIds⟩

/-
  Legible filters are told apart by their texts.  The course
  may have an id with bars in it: what is in front of it ends
  with the first bar, and what is behind it starts with the
  last one.
-/
theorem akin_of_filterText
    {f g : LessonFilter}
    (hLeft : LegibleFilter f)
    (hRight : LegibleFilter g)
    (hSame : filterText f = filterText g) :
    Akin f g := by
  rcases parts_of_filterText hSame with
    ⟨hPriority, hIds⟩
  rcases eq_of_first_mark hLeft.subjectIds.bar_not_mem_idsText
    hRight.subjectIds.bar_not_mem_idsText hIds with
    ⟨hSubjects, hBehind⟩
  rcases eq_of_last_mark hLeft.moduleIds.bar_not_mem_idsText
    hRight.moduleIds.bar_not_mem_idsText hBehind with
    ⟨hCourse, hModules⟩
  exact {
    subjectIds := hLeft.subjectIds.perm_of_idsText hRight.subjectIds hSubjects
    courseId := String.toList_inj.mp hCourse
    moduleIds := hLeft.moduleIds.perm_of_idsText hRight.moduleIds hModules
    minPriority := hPriority }

------------------------------------------------------------
-- Keys of Filters
------------------------------------------------------------

/- The texts of the filters have ids of their own. -/
def Uncollided (filters : List LessonFilter) : Prop :=
  ∀ f ∈ filters, ∀ g ∈ filters,
    Digest.nameId (filterText f) = Digest.nameId (filterText g) →
      filterText f = filterText g

theorem distinguished_of_legible
    {filters : List LessonFilter}
    (hLegible : ∀ f ∈ filters, LegibleFilter f)
    (hUncollided : Uncollided filters) :
    Distinguished filters := by
  intro f hFilter g hOther hKey
  have hName := (String.append_right_inj _).mp hKey
  exact akin_of_filterText (hLegible f hFilter) (hLegible g hOther)
    (hUncollided f hFilter g hOther hName)

/-
  Akin filters have the same text, and filters with the same
  text have the same least priority, whatever their ids are.
  Legible filters have the same text only if they are akin.
  So let only legible filters be in use, whose texts the
  digest does not confuse.  Then those that share a key
  select the same lessons from every catalog.  And start
  where the cache holds no answers of the catalog: however
  reads, invalidations and interludes follow each other, no
  read yields other lessons than its filter selects.
-/
theorem filterText_separates
    (f g : LessonFilter) :
    (Akin f g → filterText f = filterText g) ∧
      (filterText f = filterText g → f.minPriority = g.minPriority) ∧
      (LegibleFilter f → LegibleFilter g → filterText f = filterText g → Akin f g) ∧
      ∀ filters : List LessonFilter,
        f ∈ filters →
        g ∈ filters →
        (∀ used ∈ filters, LegibleFilter used) →
        Uncollided filters →
          (catalogKey f = catalogKey g →
            ∀ t : Tables, t.chosenLessons f = t.chosenLessons g) ∧
          ∀ (w w' : World) (events : List Event),
            w.Overt →
            (∀ name,
              w.cache.get? (Cache.fullKey w.settings.keySpace (catalogMark ++ name)) = none) →
            History filters w events w' →
              ∀ rows, .read f (.ok rows) ∈ events → rows = w.tables.chosenLessons f := by
  refine ⟨filterText_of_akin, fun hSame => (parts_of_filterText hSame).1,
    akin_of_filterText, ?_⟩
  intro filters hFilter hOther hLegible hUncollided
  have hDistinguished := distinguished_of_legible hLegible hUncollided
  constructor
  · intro hKey t
    exact chosenLessons_of_akin (hDistinguished f hFilter g hOther hKey) t
  · intro w w' events hOvert hEmpty hHistory rows hRead
    exact (Trusted.of_empty hOvert hEmpty).read_eq hDistinguished hHistory hRead

theorem sampleFilters_legible :
    ∀ f ∈ sampleFilters, LegibleFilter f := by
  intro f hFilter
  simp only [sampleFilters, List.mem_cons, List.not_mem_nil, or_false] at hFilter
  rcases hFilter with rfl | rfl | rfl <;>
    exact ⟨⟨by decide, by decide, by decide⟩, ⟨by decide, by decide, by decide⟩⟩

theorem cachingWorld_trusted
    (filters : List LessonFilter) :
    Trusted filters cachingWorld.tables cachingWorld :=
  .of_empty cachingWorld_calm.overt (fun _ => rfl)

/- Two filters with different least priorities are read one after the other. -/
theorem filterText_separates_sample :
    filterText turnedFilter = filterText sharedFilter ∧
      filterText narrowFilter ≠ filterText sharedFilter ∧
      ∃ rows fewer w',
        History sampleFilters cachingWorld
          [.read sharedFilter (.ok rows), .read narrowFilter (.ok fewer)] w' ∧
        rows.map (·.id) = ["groups", "sets"] ∧
        fewer.map (·.id) = ["sets"] := by
  rcases filterText_separates narrowFilter sharedFilter with
    ⟨_, hPriority, _, hNarrow⟩
  rcases filterText_separates sharedFilter turnedFilter with
    ⟨hTurned, _, _, hShared⟩
  have hUncollided : Uncollided sampleFilters := by
    intro f hFilter g hOther hName
    apply filterText_of_akin
    exact sampleFilters_distinguished f hFilter g hOther (congrArg (catalogMark ++ ·) hName)
  have hStart := cachingWorld_trusted sampleFilters
  have hFirst := hStart.runs_lessons_calm (f := sharedFilter) (by decide) cachingWorld_calm
  have hThere := hStart.step sampleFilters_distinguished (.read (by decide) hFirst)
  have hSecond := hThere.runs_lessons_calm (f := narrowFilter) (by decide)
    ((lessons_keeps _ _ _ _ hFirst).calm cachingWorld_calm)
  have hHistory : History sampleFilters cachingWorld _ _ :=
    .step (.read (by decide) hFirst) (.step (.read (by decide) hSecond) (.done _))
  have hRows := (hShared sampleFilters (by decide) (by decide) sampleFilters_legible
    hUncollided).2 cachingWorld _ _ hStart.overt (fun _ => rfl) hHistory _ (.head _)
  have hFewer := (hNarrow sampleFilters (by decide) (by decide) sampleFilters_legible
    hUncollided).2 cachingWorld _ _ hStart.overt (fun _ => rfl) hHistory _ (.tail _ (.head _))
  refine ⟨(hTurned ⟨by decide, rfl, by decide, rfl⟩).symm,
    fun hSame => absurd (hPriority hSame) (by decide), _, _, _, hHistory, ?_, ?_⟩
  · rw [hRows]
    rfl
  · rw [hFewer]
    rfl

------------------------------------------------------------
-- Ids with Marks
------------------------------------------------------------

/- Two ids have the text of the one id that they make up with a comma between them. -/
theorem filterText_of_pair
    {a b : String}
    (hOrder : a ≤ b)
    (f : LessonFilter) :
    filterText { f with subjectIds := [a, b] } =
      filterText { f with subjectIds := [a ++ "," ++ b] } := by
  have hPair : ascendingTexts [a, b] = [a, b] :=
    List.mergeSort_of_pairwise (by simpa using hOrder)
  have hOne : ascendingTexts [a ++ "," ++ b] = [a ++ "," ++ b] :=
    List.mergeSort_singleton _
  simp only [filterText, hPair, hOne, String.intercalate_cons_cons,
    String.intercalate_singleton]

/- One subject that has the name of two. -/
def joinedFilter : LessonFilter :=
  { sharedFilter with subjectIds := ["algebra,logic"] }

theorem filterText_joined :
    filterText joinedFilter = filterText sharedFilter :=
  (filterText_of_pair (a := "algebra") (b := "logic") (by decide) sharedFilter).symm

theorem catalogKey_shared :
    catalogKey sharedFilter = "lessons:3e5009a6-f6e3-5dc3-a2e6-198039495310" := by
  have hText : filterText sharedFilter = "algebra,logic|||1" := by cbv
  unfold catalogKey Digest.nameId Digest.sha1
  rw [hText, blocksOf_of_length (by decide +kernel)]
  decide +kernel

/- What the catalog answered for the one subject is found for the two. -/
theorem outcome_shared_after_joined :
    ((lessons sharedFilter).outcome
      ((lessons joinedFilter).after cachingWorld)).toOption.map (·.map (·.id)) = some [] := by
  have hKey : catalogKey joinedFilter = catalogKey sharedFilter :=
    congrArg (catalogMark ++ Digest.nameId ·) filterText_joined
  unfold lessons loadLessons cachedLessons
  rw [hKey, catalogKey_shared]
  decide +kernel

/-
  The catalog has no lessons of the one subject, and this
  answer is kept.  Then it is served for the two subjects as
  well, although both of them have lessons.
-/
theorem filterText_ambiguous :
    filterText joinedFilter = filterText sharedFilter ∧
      ¬ Akin joinedFilter sharedFilter ∧
      ∃ w',
        History [joinedFilter, sharedFilter] cachingWorld
          [.read joinedFilter (.ok []), .read sharedFilter (.ok [])] w' ∧
        (cachingWorld.tables.chosenLessons sharedFilter).map (·.id) = ["groups", "sets"] := by
  refine ⟨filterText_joined, fun hAkin => absurd hAkin.subjectIds (by decide), ?_⟩
  have hFirst := (cachingWorld_trusted [joinedFilter]).runs_lessons_calm (f := joinedFilter)
    (by decide) cachingWorld_calm
  have hSecond := runs_outcome_after (lessons sharedFilter)
    ((lessons joinedFilter).after cachingWorld)
  have hServed := outcome_shared_after_joined
  cases hOutcome : (lessons sharedFilter).outcome ((lessons joinedFilter).after cachingWorld) with
  | error failure =>
      rw [hOutcome] at hServed
      cases hServed
  | ok served =>
      rw [hOutcome] at hServed hSecond
      obtain rfl : served = [] := List.map_eq_nil_iff.mp (Option.some.inj hServed)
      exact ⟨_, .step (.read (by decide) hFirst) (.step (.read (by decide) hSecond) (.done _)),
        rfl⟩

end Service

end Timetable
