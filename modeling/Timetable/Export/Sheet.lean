import Timetable.Export.Dataset

/-
  This file lays tables out on printed pages.  Every page
  starts with the header row, the first one with the title
  above it, and a row that would run over the lower margin
  starts the next page.

  Key definitions include:
    * `Sheet.westernByte?`
    * `Sheet.drawn`
    * `Sheet.layRows`
    * `Sheet.render`
-/

namespace Timetable.Export.Sheet

------------------------------------------------------------
-- Characters
------------------------------------------------------------

/- The characters of the western character set from 0x80 to 0x9F. -/
def westernTable : List (Nat × Nat) :=
  [(0x20AC, 0x80), (0x201A, 0x82), (0x0192, 0x83), (0x201E, 0x84),
    (0x2026, 0x85), (0x2020, 0x86), (0x2021, 0x87), (0x02C6, 0x88),
    (0x2030, 0x89), (0x0160, 0x8A), (0x2039, 0x8B), (0x0152, 0x8C),
    (0x017D, 0x8E), (0x2018, 0x91), (0x2019, 0x92), (0x201C, 0x93),
    (0x201D, 0x94), (0x2022, 0x95), (0x2013, 0x96), (0x2014, 0x97),
    (0x02DC, 0x98), (0x2122, 0x99), (0x0161, 0x9A), (0x203A, 0x9B),
    (0x0153, 0x9C), (0x017E, 0x9E), (0x0178, 0x9F)]

/- The byte of a character in the western character set. -/
def westernByte? (n : Nat) : Option Nat :=
  if n < 0x80 then some n
  else if 0xA0 ≤ n && n ≤ 0xFF then some n
  else westernTable.lookup n

/- A text as it is drawn; a character outside the set is drawn as a point. -/
def drawn (s : String) : String :=
  String.ofList (s.toList.map (fun c =>
    match westernByte? c.toNat with
    | some b => Char.ofNat b
    | none => '.'))

/- The texts of cells that are not empty. -/
def drawCells (cells : List String) : List String :=
  (cells.filter (· != "")).map drawn

------------------------------------------------------------
-- Layout
------------------------------------------------------------

/- Heights in millimetres. -/
def topMargin : Nat := 12

def titleHeight : Nat := 13

def headerHeight : Nat := 8

def rowHeight : Nat := 7

/- Nothing is drawn below this line. -/
def lowerEdge : Nat := 198

/-
  Lay rows out from a height on a page.  The page so far is
  given, and the pages from it on are returned.
-/
def layRows
    (header : List String) :
    List String → Nat → List (List String) → List (List String)
| page, _, [] => [page]
| page, y, row :: rest =>
    if y + rowHeight ≤ lowerEdge then
      layRows header (page ++ row) (y + rowHeight) rest
    else
      page ::
        layRows header (header ++ row) (topMargin + headerHeight + rowHeight) rest

/- Why a table cannot be laid out. -/
inductive Refusal where
| noHeader : Refusal
deriving DecidableEq, Repr

/- The wording of a refusal. -/
def Refusal.message : Refusal → String
| .noHeader => "pdf requires at least one header"

/- The texts drawn on the pages of a table. -/
def render (d : Dataset) : Except Refusal (List (List String)) :=
  if d.headers.isEmpty then .error .noHeader
  else
    let header := drawCells d.headers
    let title := drawCells [d.title]
    let y := topMargin + (if d.title == "" then 0 else titleHeight) + headerHeight
    .ok (layRows header (title ++ header) y (d.rows.map (fun row => drawCells (d.record row))))

/- The media type of such files. -/
def contentType : String :=
  "application/pdf"

/- The ending of the names of such files. -/
def extension : String :=
  "pdf"

end Timetable.Export.Sheet
