import Timetable.Configuration.Reference

/-
  This file reads a settings file as a row of statements that
  set variables.  It is the more lenient of the two ways to
  read such a file: statements may share a line.

  Key definitions include:
    * `readStatement?`
    * `statements?`
-/

namespace Timetable.Configuration

------------------------------------------------------------
-- Names
------------------------------------------------------------

/- White space that does not end a line. -/
def isGap (c : Char) : Bool :=
  ['\t', '\x0b', '\x0c', '\r', ' ', '\u0085', '\u00A0'].contains c

/- Drop white space and comments in front of a statement. -/
def skipToStatement
    (inComment : Bool) : List Char → List Char
| [] => []
| c :: rest =>
    if inComment then skipToStatement (c != '\n') rest
    else if Text.isBlank c then skipToStatement false rest
    else if c == '#' then skipToStatement true rest
    else c :: rest

/- Drop the word that may stand in front of a name. -/
def skipExport (text : List Char) : List Char :=
  match Text.afterStart? "export".toList text with
  | some (c :: rest) => if isGap c then rest.dropWhile isGap else text
  | _ => text

/- The name that a statement sets, and the text of its value; a name may be missing. -/
def splitName? (text : List Char) : Option (List Char × List Char) :=
  let isSeparator := fun c => c == '=' || c == ':'
  let name := text.takeWhile (fun c => !isSeparator c)
  if !name.all (fun c => isGap c || isNameChar c) then none
  else
    match text.dropWhile (fun c => !isSeparator c) with
    | [] => some ([], text)
    | _ :: rest => some (Text.trimList isGap name, rest.dropWhile isGap)

------------------------------------------------------------
-- Values
------------------------------------------------------------

/- Drop the last comment of a line, which is given backwards. -/
def dropComment? : List Char → Option (List Char)
| '#' :: c :: rest => if isGap c then some (c :: rest) else dropComment? (c :: rest)
| _ :: rest => dropComment? rest
| [] => none

/- A value without quotes ends with its line. -/
def plainValue (text : List Char) : List Char × List Char :=
  let isLineEnd := fun c => c == '\n' || c == '\r'
  let line := (text.takeWhile (fun c => !isLineEnd c)).reverse
  (Text.trimList isGap ((dropComment? line).getD line).reverse,
    text.dropWhile (fun c => !isLineEnd c))

/- The text up to a quote without a backslash in front, and what follows it. -/
def untilQuote?
    (quote : Char) : Char → List Char → Option (List Char × List Char)
| _, [] => none
| before, c :: rest =>
    if c == quote && before != '\\' then some ([], rest)
    else (untilQuote? quote c rest).map (fun (inner, after) => (c :: inner, after))

/- The value at the start of a text, and what follows it. -/
def readValue?
    (value : String → String)
    (text : List Char) : Option (List Char × List Char) :=
  let quote := (text.head?).getD ' '
  if quote == singleQuote || quote == '"' then
    (untilQuote? quote quote text.tail).map (fun (inner, after) =>
      let inner := Text.trimList (· == quote) inner
      (if quote == singleQuote then inner
        else expand true value (plainEscapes (lineEscapes inner)), after))
  else
    let (line, after) := plainValue text
    some (expand true value line, after)

------------------------------------------------------------
-- Statements
------------------------------------------------------------

/- The value of the last entry with a name, empty if there is none. -/
def lastValue
    (entries : List (String × String))
    (name : String) : String :=
  (entries.reverse.lookup name).getD ""

/- A statement at the start of a text, and what follows it. -/
def readStatement?
    (entries : List (String × String))
    (text : List Char) : Option ((String × String) × List Char) := do
  let (name, text) ← splitName? (skipExport text)
  let (value, rest) ← readValue? (lastValue entries) text
  return ((String.ofList name, String.ofList value), rest)

/- The statements of a text; `n` bounds their number. -/
def readStatements? : Nat → List Char → List (String × String) → Option (List (String × String))
| 0, _, entries => some entries
| n + 1, text, entries =>
    match skipToStatement false text with
    | [] => some entries
    | start => do
        let (entry, rest) ← readStatement? entries start
        readStatements? n rest (entries ++ [entry])

/- A line end of two characters counts as one. -/
def joinLineEnds : List Char → List Char
| '\r' :: '\n' :: rest => '\n' :: joinLineEnds rest
| c :: rest => c :: joinLineEnds rest
| [] => []

/- The variables that a settings file sets, in order; a malformed one sets none. -/
def statements? (file : String) : Option (List (String × String)) :=
  let text := joinLineEnds file.toList
  readStatements? (text.length + 1) text []

end Timetable.Configuration
