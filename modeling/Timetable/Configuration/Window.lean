import Timetable.Text.Utf8

/-
  This file cuts a file into lines while it is read through
  a window.  A file comes in pieces, a line has to fit into
  the window, and a line end of two characters is one line
  end only if the window shows both: a carriage return that
  is the last byte in view ends a line of its own.

  Key definitions include:
    * `Window`
    * `Window.room?`
    * `Window.read`
    * `pieces`
    * `linesOf?`
-/

namespace Timetable.Configuration

------------------------------------------------------------
-- The Window
------------------------------------------------------------

/-
  A window on a file: how many bytes it has room for, how
  many of them are done with, and the bytes in view.
-/
structure Window where
  capacity : Nat := 0
  passed : Nat := 0
  view : List UInt8 := []
deriving Repr

namespace Window

/- The size of a new window. -/
def startSize : Nat := 4096

/- The size that no window exceeds. -/
def largestSize : Nat := 65536

/- The window has no room left. -/
def isFull (w : Window) : Bool :=
  w.passed + w.view.length == w.capacity

/- Move to the first byte in view, if room is short or much of the window is done with. -/
def shifted (w : Window) : Window :=
  if w.isFull || decide (w.capacity / 2 < w.passed) then { w with passed := 0 } else w

/- Make room for more bytes; the largest window cannot grow. -/
def room? (w : Window) : Option Window :=
  let w := w.shifted
  if !w.isFull then some w
  else if largestSize ≤ w.capacity then none
  else if w.capacity == 0 then some { w with capacity := startSize }
  else some { w with capacity := min (2 * w.capacity) largestSize, passed := 0 }

/- Read as much of a piece as there is room for, and return what is left of it. -/
def read
    (w : Window)
    (piece : List UInt8) : Window × List UInt8 :=
  let room := w.capacity - (w.passed + w.view.length)
  ({ w with view := w.view ++ piece.take room }, piece.drop room)

/- Drop bytes that are done with. -/
def pass
    (w : Window)
    (count : Nat) : Window :=
  { w with passed := w.passed + count, view := w.view.drop count }

end Window

------------------------------------------------------------
-- Lines
------------------------------------------------------------

/- A byte ends a line. -/
def isLineEnd (b : UInt8) : Bool :=
  b == 10 || b == 13

/- The first line in view, and how many bytes it takes with its end. -/
def firstLine? (view : List UInt8) : Option (List UInt8 × Nat) :=
  let line := view.takeWhile (fun b => !isLineEnd b)
  match view.drop line.length with
  | [] => none
  | 13 :: 10 :: _ => some (line, line.length + 2)
  | _ => some (line, line.length + 1)

/-
  The lines of what is in view and of the pieces still to
  come.  Every round passes a line, reads a piece or drops an
  empty one.
-/
private def collectLines? : Nat → Window → List (List UInt8) → Option (List (List UInt8))
| 0, _, _ => some []
| fuel + 1, w, unread =>
    match firstLine? w.view with
    | some (line, size) => (collectLines? fuel (w.pass size) unread).map (line :: ·)
    | none =>
        match unread with
        | [] => some (if w.view.isEmpty then [] else [w.view])
        | piece :: later => do
            let (w, left) := (← w.room?).read piece
            collectLines? fuel w (if left.isEmpty then later else left :: later)

/- Cut characters into pieces of at most a number of bytes. -/
def cutPieces
    (limit : Nat) : List Char → List UInt8 → List (List UInt8)
| [], piece => if piece.isEmpty then [] else [piece]
| c :: rest, piece =>
    let bytes := Text.bytesOf c.toString
    if piece.length + bytes.length ≤ limit then cutPieces limit rest (piece ++ bytes)
    else piece :: cutPieces limit rest bytes

/-
  The pieces in which a file comes.  Its first three bytes
  come alone, since they show whether a byte order mark
  stands there; behind such a mark whole characters come.
-/
def pieces : List Char → List (List UInt8)
| [] => []
| c :: rest =>
    if c == '\uFEFF' then cutPieces Window.startSize rest []
    else
      let bytes := Text.bytesOf (String.ofList (c :: rest))
      [bytes.take 3, bytes.drop 3].filter (fun piece => !piece.isEmpty)

/- The lines of a file, unless one is too long. -/
def linesOf? (file : List Char) : Option (List (List Char)) :=
  let unread := pieces file
  let fuel := 2 * unread.flatten.length + unread.length + 1
  (collectLines? fuel {} unread).map (List.map Text.charsOfBytes)

end Timetable.Configuration
