/-
  This file defines tables of text, the common form of all
  exports.

  Key definitions include:
    * `Dataset`
    * `Dataset.record`
    * `Document`
    * `ExportFile`
-/

namespace Timetable.Export

------------------------------------------------------------
-- Tables
------------------------------------------------------------

/- A titled table.  A row gives texts to headers; missing ones are empty. -/
structure Dataset where
  title : String
  headers : List String
  rows : List (List (String × String))
deriving Repr

/- The text of a row under a header. -/
def cell
    (row : List (String × String))
    (header : String) : String :=
  (row.lookup header).getD ""

/- The texts of a row in the order of the headers. -/
def Dataset.record
    (d : Dataset)
    (row : List (String × String)) : List String :=
  d.headers.map (cell row)

------------------------------------------------------------
-- Files
------------------------------------------------------------

/- What a file holds: a text, or the texts drawn on each page. -/
inductive Document where
| text (s : String) : Document
| pages (texts : List (List String)) : Document
deriving DecidableEq, Repr

/- A file to be downloaded. -/
structure ExportFile where
  filename : String
  contentType : String
  body : Document
deriving DecidableEq, Repr

end Timetable.Export
