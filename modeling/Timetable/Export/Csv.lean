import Timetable.Export.Dataset
import Timetable.Text.Blank

/-
  This file writes tables as comma-separated values, and
  reads such texts.

  A field is put between quotes when it holds the delimiter,
  a quote or a line end, when it starts with white space, or
  when it is a backslash and a point.  A quote inside a
  quoted field is written twice.

  Key definitions include:
    * `Csv.isDelimiter`
    * `Csv.needsQuotes`
    * `Csv.writeField`
    * `Csv.writeRecord`
    * `Csv.render`
    * `Csv.read?`
-/

namespace Timetable.Export.Csv

------------------------------------------------------------
-- Writing
------------------------------------------------------------

/- A character can divide fields. -/
def isDelimiter (c : Char) : Bool :=
  c != '\x00' && c != '"' && c != '\r' && c != '\n' && c.toNat != 0xFFFD

/- The delimiter that is meant by a character; none given is a comma. -/
def delimiterOf (c : Char) : Char :=
  if c == '\x00' then ',' else c

/- A character that can only stand between quotes. -/
def isSpecial
    (delimiter c : Char) : Bool :=
  c == delimiter || c == '"' || c == '\r' || c == '\n'

/- A field has to be put between quotes. -/
def needsQuotes
    (delimiter : Char)
    (field : List Char) : Bool :=
  match field with
  | [] => false
  | c :: _ =>
      field == ['\\', '.'] || field.any (isSpecial delimiter) || Text.isBlank c

/- Write every quote twice. -/
def doubleQuotes : List Char → List Char
| [] => []
| c :: rest => if c = '"' then '"' :: '"' :: doubleQuotes rest else c :: doubleQuotes rest

/- A field as it is written. -/
def writeField
    (delimiter : Char)
    (field : List Char) : List Char :=
  if needsQuotes delimiter field then '"' :: (doubleQuotes field ++ ['"']) else field

/- The fields of a record with the delimiter between them. -/
def joinFields
    (delimiter : Char) : List (List Char) → List Char
| [] => []
| [field] => writeField delimiter field
| field :: rest => writeField delimiter field ++ delimiter :: joinFields delimiter rest

/- A record with its line end. -/
def writeRecord
    (delimiter : Char)
    (record : List String) : List Char :=
  joinFields delimiter (record.map (·.toList)) ++ ['\n']

/- Why a table cannot be written. -/
inductive Refusal where
| noHeader : Refusal
| invalidDelimiter : Refusal
deriving DecidableEq, Repr

/- The wording of a refusal. -/
def Refusal.message : Refusal → String
| .noHeader => "csv requires at least one header"
| .invalidDelimiter =>
    "write csv headers: csv: invalid field or comment delimiter"

/- The records of a table: its headers, then its rows. -/
def records (d : Dataset) : List (List String) :=
  d.headers :: d.rows.map d.record

/- Write a table. -/
def render
    (delimiter : Char)
    (d : Dataset) : Except Refusal String :=
  if d.headers.isEmpty then .error .noHeader
  else if isDelimiter delimiter then
    .ok (String.ofList ((records d).flatMap (writeRecord delimiter)))
  else .error .invalidDelimiter

/- The media type of such texts. -/
def contentType : String :=
  "text/csv; charset=utf-8"

/- The ending of the names of such files. -/
def extension : String :=
  "csv"

------------------------------------------------------------
-- Reading
------------------------------------------------------------

/- Where in a field the reader stands. -/
inductive Mode where
| fresh : Mode
| bare : Mode
| quoted : Mode
/- Behind a quote that closes the field, unless another quote follows. -/
| closing : Mode
deriving DecidableEq, Repr

/-
  Read records from a place in a field.  The characters of
  the field and the fields of the record that were read so
  far stand in reverse.
-/
def readFrom
    (delimiter : Char) :
    Mode → List Char → List (List Char) → List Char → Option (List (List (List Char)))
| .fresh, _, record, [] => if record.isEmpty then some [] else none
| _, _, _, [] => none
| .quoted, field, record, c :: rest =>
    if c = '"' then readFrom delimiter .closing field record rest
    else readFrom delimiter .quoted (c :: field) record rest
| mode, field, record, c :: rest =>
    if c = '"' then
      match mode with
      | .closing => readFrom delimiter .quoted (c :: field) record rest
      | .fresh => readFrom delimiter .quoted field record rest
      | _ => none
    else if c = delimiter then
      readFrom delimiter .fresh [] (field.reverse :: record) rest
    else if c = '\n' then
      (readFrom delimiter .fresh [] [] rest).map
        ((field.reverse :: record).reverse :: ·)
    else
      match mode with
      | .closing => none
      | _ => readFrom delimiter .bare (c :: field) record rest

/- The records of a text. -/
def read?
    (delimiter : Char)
    (s : String) : Option (List (List String)) :=
  (readFrom delimiter .fresh [] [] s.toList).map
    (·.map (·.map String.ofList))

end Timetable.Export.Csv
