import Timetable.Export.Csv
import Mathlib.Data.List.Basic

/-
  This file shows that tables that were written as
  comma-separated values are read back as they were.

  The reader goes from one place in a field to another.  What
  it does on a written field is said for any text behind the
  field: it stands at the end of the field, which ends at the
  delimiter or at the line end that follows.

  Main theorems include:
    * `readFrom_doubleQuotes`
    * `readFrom_writeField`
    * `readFrom_joinFields`
    * `read?_writeRecords`
    * `render_reads`
-/

namespace Timetable.Export.Csv

variable {delimiter : Char}

------------------------------------------------------------
-- Steps of the Reader
------------------------------------------------------------

/- The reader goes into a quoted field. -/
theorem readFrom_opening
    (field : List Char)
    (record : List (List Char))
    (rest : List Char) :
    readFrom delimiter .fresh field record ('"' :: rest) =
      readFrom delimiter .quoted field record rest :=
  rfl

/- Between quotes all characters but quotes are taken verbatim. -/
theorem readFrom_quoted
    (c : Char)
    (field : List Char)
    (record : List (List Char))
    (rest : List Char) :
    readFrom delimiter .quoted field record (c :: rest) =
      if c = '"' then readFrom delimiter .closing field record rest
      else readFrom delimiter .quoted (c :: field) record rest :=
  rfl

/- A quote that follows another one does not end the field. -/
theorem readFrom_closing_quote
    (field : List Char)
    (record : List (List Char))
    (rest : List Char) :
    readFrom delimiter .closing field record ('"' :: rest) =
      readFrom delimiter .quoted ('"' :: field) record rest :=
  rfl

/-
  Outside quotes the delimiter ends a field and a line end
  ends a record.  Behind a closing quote nothing else may
  stand.
-/
theorem readFrom_outside
    {mode : Mode}
    (hMode : mode ≠ .quoted)
    {c : Char}
    (hQuote : c ≠ '"')
    (field : List Char)
    (record : List (List Char))
    (rest : List Char) :
    readFrom delimiter mode field record (c :: rest) =
      if c = delimiter then
        readFrom delimiter .fresh [] (field.reverse :: record) rest
      else if c = '\n' then
        (readFrom delimiter .fresh [] [] rest).map
          ((field.reverse :: record).reverse :: ·)
      else if mode = .closing then none
      else readFrom delimiter .bare (c :: field) record rest := by
  cases mode with
  | quoted => exact absurd rfl hMode
  | fresh => exact if_neg hQuote
  | bare => exact if_neg hQuote
  | closing => exact if_neg hQuote

/- At the delimiter the next field begins. -/
theorem readFrom_delimiter
    {mode : Mode}
    (hDelimiter : isDelimiter delimiter = true)
    (hMode : mode ≠ .quoted)
    (field : List Char)
    (record : List (List Char))
    (rest : List Char) :
    readFrom delimiter mode field record (delimiter :: rest) =
      readFrom delimiter .fresh [] (field.reverse :: record) rest := by
  have hQuote : delimiter ≠ '"' := by
    rintro rfl
    simp [isDelimiter] at hDelimiter
  rw [readFrom_outside hMode hQuote, if_pos rfl]

/- At a line end the next record begins. -/
theorem readFrom_lineEnd
    {mode : Mode}
    (hDelimiter : isDelimiter delimiter = true)
    (hMode : mode ≠ .quoted)
    (field : List Char)
    (record : List (List Char))
    (rest : List Char) :
    readFrom delimiter mode field record ('\n' :: rest) =
      (readFrom delimiter .fresh [] [] rest).map
        ((field.reverse :: record).reverse :: ·) := by
  have hLine : '\n' ≠ delimiter := by
    rintro rfl
    simp [isDelimiter] at hDelimiter
  rw [readFrom_outside hMode (by decide), if_neg hLine, if_pos rfl]

/- A character without a meaning of its own is taken as it is. -/
theorem readFrom_plain
    {mode : Mode}
    (hMode : mode = .fresh ∨ mode = .bare)
    {c : Char}
    (hPlain : isSpecial delimiter c = false)
    (field : List Char)
    (record : List (List Char))
    (rest : List Char) :
    readFrom delimiter mode field record (c :: rest) =
      readFrom delimiter .bare (c :: field) record rest := by
  simp only [isSpecial, Bool.or_eq_false_iff, beq_eq_false_iff_ne]
    at hPlain
  rcases hPlain with ⟨⟨⟨hDelimiter, hQuote⟩, _⟩, hLine⟩
  have hOutside : mode ≠ .quoted ∧ mode ≠ .closing := by
    rcases hMode with rfl | rfl <;> decide
  rw [readFrom_outside hOutside.1 hQuote, if_neg hDelimiter,
    if_neg hLine, if_neg hOutside.2]

------------------------------------------------------------
-- Fields
------------------------------------------------------------

/-
  A quoted text is read verbatim: the reader stands behind
  the quote that closes it.
-/
theorem readFrom_doubleQuotes
    (text field : List Char)
    (record : List (List Char))
    (rest : List Char) :
    readFrom delimiter .quoted field record
        (doubleQuotes text ++ '"' :: rest) =
      readFrom delimiter .closing (text.reverse ++ field) record rest := by
  induction text generalizing field with
  | nil => rfl
  | cons c text ih =>
      rw [List.reverse_cons, List.append_assoc, List.singleton_append,
        doubleQuotes]
      by_cases hQuote : c = '"'
      · subst hQuote
        rw [if_pos rfl, List.cons_append, List.cons_append,
          readFrom_quoted, if_pos rfl, readFrom_closing_quote, ih]
      · rw [if_neg hQuote, List.cons_append, readFrom_quoted,
          if_neg hQuote, ih]

/- A text without special characters is read as it is. -/
theorem readFrom_bare
    {text : List Char}
    (hPlain : ∀ c ∈ text, isSpecial delimiter c = false)
    (field : List Char)
    (record : List (List Char))
    (rest : List Char) :
    readFrom delimiter .bare field record (text ++ rest) =
      readFrom delimiter .bare (text.reverse ++ field) record rest := by
  induction text generalizing field with
  | nil => rfl
  | cons c text ih =>
      rw [List.forall_mem_cons] at hPlain
      rw [List.cons_append, readFrom_plain (.inr rfl) hPlain.1,
        ih hPlain.2, List.reverse_cons, List.append_assoc,
        List.singleton_append]

/- A field that is written without quotes has no special characters. -/
theorem not_isSpecial_of_needsQuotes
    {text : List Char}
    (hBare : needsQuotes delimiter text = false) :
    ∀ c ∈ text, isSpecial delimiter c = false := by
  cases text with
  | nil => simp
  | cons c text =>
      simp only [needsQuotes, Bool.or_eq_false_iff] at hBare
      simpa using hBare.1.2

/- Behind a written field the reader has read the field. -/
theorem readFrom_writeField
    (delimiter : Char)
    (text : List Char) :
    ∃ mode,
      mode ≠ .quoted ∧
      ∀ record rest,
        readFrom delimiter .fresh [] record
            (writeField delimiter text ++ rest) =
          readFrom delimiter mode text.reverse record rest := by
  unfold writeField
  cases hQuotes : needsQuotes delimiter text with
  | true =>
      refine ⟨.closing, nofun, fun record rest => ?_⟩
      rw [if_pos rfl, List.cons_append, List.append_assoc,
        List.singleton_append, readFrom_opening,
        readFrom_doubleQuotes, List.append_nil]
  | false =>
      have hPlain := not_isSpecial_of_needsQuotes hQuotes
      rw [if_neg nofun]
      -- an empty field leaves the reader where it was
      cases text with
      | nil => exact ⟨.fresh, nofun, fun _ _ => rfl⟩
      | cons c text =>
          rw [List.forall_mem_cons] at hPlain
          refine ⟨.bare, nofun, fun record rest => ?_⟩
          rw [List.cons_append, readFrom_plain (.inl rfl) hPlain.1,
            readFrom_bare hPlain.2, List.reverse_cons]

------------------------------------------------------------
-- Records
------------------------------------------------------------

/- The fields of a written record are read up to its line end. -/
theorem readFrom_joinFields
    (hDelimiter : isDelimiter delimiter = true)
    {fields : List (List Char)}
    (hSome : fields ≠ [])
    (record : List (List Char))
    (rest : List Char) :
    readFrom delimiter .fresh [] record
        (joinFields delimiter fields ++ '\n' :: rest) =
      (readFrom delimiter .fresh [] [] rest).map
        ((record.reverse ++ fields) :: ·) := by
  induction fields generalizing record with
  | nil => exact absurd rfl hSome
  | cons field fields ih =>
      rcases readFrom_writeField delimiter field with ⟨mode, hMode, hField⟩
      cases fields with
      | nil =>
          rw [joinFields, hField, readFrom_lineEnd hDelimiter hMode,
            List.reverse_reverse, List.reverse_cons]
      | cons next fields =>
          rw [joinFields, List.append_assoc, hField, List.cons_append,
            readFrom_delimiter hDelimiter hMode, List.reverse_reverse,
            ih (List.cons_ne_nil next fields), List.reverse_cons,
            List.append_assoc, List.singleton_append]
          exact nofun

/- Written records are read one after the other. -/
theorem readFrom_writeRecords
    (hDelimiter : isDelimiter delimiter = true)
    {records : List (List String)}
    (hSome : ∀ record ∈ records, record ≠ []) :
    readFrom delimiter .fresh [] []
        (records.flatMap (writeRecord delimiter)) =
      some (records.map (·.map (·.toList))) := by
  induction records with
  | nil => rfl
  | cons record records ih =>
      rw [List.forall_mem_cons] at hSome
      have hFields : record.map (·.toList) ≠ [] := by
        simpa using hSome.1
      rw [List.flatMap_cons, writeRecord, List.append_assoc,
        List.singleton_append, readFrom_joinFields hDelimiter hFields,
        ih hSome.2]
      rfl

/- A text of written records reads as these records. -/
theorem read?_writeRecords
    (hDelimiter : isDelimiter delimiter = true)
    {records : List (List String)}
    (hSome : ∀ record ∈ records, record ≠ []) :
    read? delimiter
        (String.ofList (records.flatMap (writeRecord delimiter))) =
      some records := by
  unfold read?
  rw [String.toList_ofList, readFrom_writeRecords hDelimiter hSome,
    Option.map_some, List.map_map]
  have hText : String.ofList ∘ (·.toList) = (id : String → String) := by
    funext s
    exact String.ofList_toList
  have hRecord :
      (·.map String.ofList) ∘ (·.map (·.toList)) =
        (id : List String → List String) := by
    funext record
    simp only [Function.comp_apply, List.map_map, hText, List.map_id,
      id_eq]
  rw [hRecord, List.map_id]

/- An empty line is a record with one empty field. -/
example : read? ',' "\n" = some [[""]] := by decide

------------------------------------------------------------
-- Tables
------------------------------------------------------------

/- A table with a header is written when the delimiter is one. -/
theorem render_eq_ok
    {d : Dataset}
    (hHeaders : d.headers ≠ [])
    (hDelimiter : isDelimiter delimiter = true) :
    render delimiter d =
      .ok (String.ofList ((records d).flatMap (writeRecord delimiter))) := by
  have hSome : d.headers.isEmpty = false := by
    simpa using hHeaders
  rw [render, hSome, if_neg nofun, if_pos hDelimiter]

/- Every record of a table has a field for each header. -/
theorem records_ne_nil
    {d : Dataset}
    (hHeaders : d.headers ≠ []) :
    ∀ record ∈ records d, record ≠ [] := by
  unfold records
  rw [List.forall_mem_cons]
  refine ⟨hHeaders, ?_⟩
  rintro _ hRecord
  rcases List.mem_map.mp hRecord with ⟨row, _, rfl⟩
  simpa [Dataset.record] using hHeaders

/- A written table reads as its headers and its rows. -/
theorem render_reads
    {d : Dataset}
    (hHeaders : d.headers ≠ [])
    (hDelimiter : isDelimiter delimiter = true) :
    ∃ s,
      render delimiter d = .ok s ∧
      read? delimiter s = some (d.headers :: d.rows.map d.record) :=
  ⟨_, render_eq_ok hHeaders hDelimiter,
    read?_writeRecords hDelimiter (records_ne_nil hHeaders)⟩

end Timetable.Export.Csv
