import Timetable.Text.Blank

/-
  This file replaces references to variables, such as `$NAME`
  and `${NAME}`, and escapes.

  Key definitions include:
    * `expand`
    * `lineEscapes`
    * `plainEscapes`
-/

namespace Timetable.Configuration

------------------------------------------------------------
-- References
------------------------------------------------------------

/- The quote inside which a text stands for itself. -/
def singleQuote : Char :=
  Char.ofNat 39

/- A character that may stand in the name of a variable. -/
def isNameChar (c : Char) : Bool :=
  c.isAlphanum || c == '_' || c == '.'

/- A character of the name of a variable that is referred to. -/
def isReferenceChar (c : Char) : Bool :=
  c.isUpper || c.isDigit || c == '_'

/- Drop a character from the start of a text, if it stands there. -/
private def dropMark
    (mark : Char) : List Char → List Char
| [] => []
| c :: rest => if c == mark then rest else c :: rest

/- The name after a dollar sign, and what follows the reference. -/
def referenceName
    (parenthesis : Bool)
    (text : List Char) : List Char × List Char :=
  let text := if parenthesis then dropMark '(' text else text
  let text := dropMark '\x7b' text
  (text.takeWhile isReferenceChar, dropMark '\x7d' (text.dropWhile isReferenceChar))

/-
  Replace references in a text by values; `n` bounds its
  length.  A backslash in front of a dollar sign takes its
  meaning away.
-/
def expandFrom
    (parenthesis : Bool)
    (value : String → String) : Nat → List Char → List Char
| 0, text => text
| _, [] => []
| n + 1, '\\' :: '$' :: rest => '$' :: expandFrom parenthesis value n rest
| n + 1, c :: rest =>
    if c == '$' then
      let (name, after) := referenceName parenthesis rest
      if name.isEmpty then '$' :: expandFrom parenthesis value n rest
      else
        (value (String.ofList name)).toList ++ expandFrom parenthesis value n after
    else c :: expandFrom parenthesis value n rest

/- Replace references in a text by values. -/
def expand
    (parenthesis : Bool)
    (value : String → String)
    (text : List Char) : List Char :=
  expandFrom parenthesis value text.length text

------------------------------------------------------------
-- Escapes
------------------------------------------------------------

/- Replace a backslash and a letter by a character, wherever they stand together. -/
def replaceEscape
    (letter character : Char) : List Char → List Char
| '\\' :: c :: rest =>
    if c == letter then character :: replaceEscape letter character rest
    else '\\' :: replaceEscape letter character (c :: rest)
| c :: rest => c :: replaceEscape letter character rest
| [] => []

/- Replace the escapes of line ends; a backslash that is escaped itself starts none. -/
def lineEscapes : List Char → List Char
| '\\' :: c :: rest =>
    if c == 'n' then '\n' :: lineEscapes rest
    else if c == 'r' then '\r' :: lineEscapes rest
    else if c == '\n' then '\\' :: lineEscapes (c :: rest)
    else '\\' :: c :: lineEscapes rest
| c :: rest => c :: lineEscapes rest
| [] => []

/- Drop the backslash of every escape but that of a dollar sign. -/
def plainEscapes : List Char → List Char
| '\\' :: c :: rest =>
    if c == '$' then '\\' :: plainEscapes (c :: rest)
    else c :: plainEscapes rest
| c :: rest => c :: plainEscapes rest
| [] => []

end Timetable.Configuration
