import Timetable.Export.PlanFile
import Timetable.Proofs.Export.Csv
import Timetable.Proofs.Store.ItemOrder

/-
  This file shows what a reader finds in a written table, and
  in the file of a plan: a record for each item, by week and
  position, with items of one place as they came.

  Key definitions include:
    * `itemRecord`

  Main theorems include:
    * `planDataset_records`
    * `renderPlan_eq_ok`
    * `tables_read_back`
-/

namespace Timetable.Export

open Store

------------------------------------------------------------
-- Records of Items
------------------------------------------------------------

/- What a reader finds about an item, in the order of the headers. -/
def itemRecord
    (lessons : List (Plan.Lesson Float))
    (item : ScheduleItem) : List String :=
  let lesson := lessonWithId? lessons item.lessonId
  [toString item.week,
    toString item.position,
    (item.scheduledDate.map (·.date.render)).getD "",
    (lesson.map (·.subjectName)).getD "",
    (lesson.map (·.frontName)).getD "",
    (lesson.map (·.name)).getD item.lessonId,
    if item.completed then "yes" else "no"]

theorem map_cell_itemRow
    (lessons : List (Plan.Lesson Float))
    (item : ScheduleItem) :
    planHeaders.map (cell (itemRow lessons item)) =
      itemRecord lessons item := by
  cases hLesson : lessonWithId? lessons item.lessonId <;>
    cases hDate : item.scheduledDate <;>
    simp [planHeaders, cell, itemRow, itemRecord, hLesson, hDate,
      List.lookup_cons]

theorem planDataset_records
    (p : StudyPlan)
    (items : List ScheduleItem)
    (lessons : List (Plan.Lesson Float)) :
    (planDataset p items lessons).rows.map
        (planDataset p items lessons).record =
      (inOrder items).map (itemRecord lessons) := by
  simp only [planDataset, List.map_map]
  apply List.map_congr_left
  intro item _
  exact map_cell_itemRow lessons item

------------------------------------------------------------
-- Files of Plans
------------------------------------------------------------

/- A plan is written as the text of its table. -/
theorem renderPlan_eq_ok
    {p : StudyPlan}
    {items : List ScheduleItem}
    {lessons : List (Plan.Lesson Float)}
    {format s : String}
    (hFormat : Format.ofText? format = some .csv)
    (hText : Csv.render ',' (planDataset p items lessons) = .ok s) :
    ∃ file,
      renderPlan (some p) items lessons format = .ok file ∧
      file.body = .text s := by
  simp only [renderPlan, hFormat, renderDataset, hText]
  exact ⟨_, rfl, rfl⟩

/-
  Whatever its cells hold, a written table reads as its
  headers and one record for each row.  The file of a plan
  has one record for each item, by week and position, and
  items of one place stand as they came.
-/
theorem tables_read_back :
    (∀ (delimiter : Char) (d : Dataset),
      Csv.isDelimiter delimiter = true →
      d.headers ≠ [] →
      ∃ s,
        Csv.render delimiter d = .ok s ∧
        Csv.read? delimiter s =
          some (d.headers ::
            d.rows.map (fun row =>
              d.headers.map (fun header =>
                (row.lookup header).getD "")))) ∧
    (∀ (p : StudyPlan)
        (items : List ScheduleItem)
        (lessons : List (Plan.Lesson Float))
        (format : String),
      Format.ofText? format = some .csv →
      ∃ file s sorted,
        renderPlan (some p) items lessons format = .ok file ∧
        file.body = .text s ∧
        StableSort ScheduleItem.before items sorted ∧
        Csv.read? ',' s =
          some (planHeaders :: sorted.map (itemRecord lessons))) := by
  constructor
  · intro delimiter d hDelimiter hHeaders
    exact Csv.render_reads hHeaders hDelimiter
  · intro p items lessons format hFormat
    have hHeaders : (planDataset p items lessons).headers ≠ [] :=
      List.cons_ne_nil _ _
    rcases Csv.render_reads hHeaders (by decide : Csv.isDelimiter ',' = true)
      with ⟨s, hText, hRead⟩
    rcases renderPlan_eq_ok hFormat hText with ⟨file, hFile, hBody⟩
    refine
      ⟨file, s, inOrder items, hFile, hBody, stableSort_inOrder items, ?_⟩
    rw [hRead, planDataset_records]
    rfl

/- A table with one header twice and cells that need quotes. -/
def awkwardTable : Dataset :=
  ⟨"", ["note", "", "note"],
    [[("note", "a;b"), ("", " said \"so\"\r\n")], [("other", "c")]]⟩

/-
  Cells with the delimiter, quotes, line ends and leading
  blanks are read back, and so are two items of one place
  whose lesson is not in the catalog.
-/
theorem tables_read_back_of_awkward_cells :
    (∃ s,
      Csv.render ';' awkwardTable = .ok s ∧
      Csv.read? ';' s =
        some
          [["note", "", "note"],
            ["a;b", " said \"so\"\r\n", "a;b"],
            ["", "", ""]]) ∧
    ∃ file s sorted,
      renderPlan (some StudyPlan.blank)
        [{ ScheduleItem.blank with lessonId := "\"x\", y" },
          ScheduleItem.blank] [] " CSV" = .ok file ∧
      file.body = .text s ∧
      StableSort ScheduleItem.before
        [{ ScheduleItem.blank with lessonId := "\"x\", y" },
          ScheduleItem.blank] sorted ∧
      Csv.read? ',' s =
        some (planHeaders :: sorted.map (itemRecord [])) :=
  ⟨tables_read_back.1 ';' awkwardTable (by decide) (by decide),
    tables_read_back.2 _ _ _ _ (by rfl)⟩

end Timetable.Export
