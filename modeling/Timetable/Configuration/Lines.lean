import Timetable.Configuration.Reference
import Timetable.Configuration.Window

/-
  This file reads a settings file line by line.  It is the
  stricter of the two ways to read such a file: every line
  has to set a variable, unless it is blank or a comment.

  Key definitions include:
    * `logicalLines?`
    * `matchLine?`
    * `readLines?`
-/

namespace Timetable.Configuration

------------------------------------------------------------
-- Logical Lines
------------------------------------------------------------

/- What follows the separator of a line, unless nothing stands in front of it. -/
private def afterName? (line : List Char) : Option (List Char) :=
  let mark := if line.contains '=' then '=' else ':'
  match line.takeWhile (· != mark), line.dropWhile (· != mark) with
  | _ :: _, _ :: rest => some rest
  | _, _ => none

/-
  The quote that is still open at the end of a line.  What
  follows the opening quote is trimmed before the last quote
  is looked for, so the byte that is taken to stand in front
  of it is found by counting from the start of the value.
-/
def openQuote? (line : List Char) : Option Char := do
  let value := Text.trimList Text.isBlank (← afterName? line)
  let quote ← value.head?
  if quote != '"' && quote != singleQuote then none
  else
    match (Text.trimList Text.isBlank value.tail).reverse.dropWhile (· != quote) with
    | [] => some quote
    | _ :: before =>
        let position := (Text.bytesOf (String.ofList before)).length
        if (Text.bytesOf (String.ofList value))[position]? == some 0x5C then some quote
        else none

/- A line closes a quote, unless its last one has a backslash in front. -/
def closesQuote
    (quote : Char)
    (line : List Char) : Bool :=
  match line.reverse.dropWhile (· != quote) with
  | [] => false
  | _ :: '\\' :: _ => false
  | _ => true

/-
  The lines that set variables.  A line with an open quote
  goes on until the quote is closed, which has to happen.
-/
def logicalLines? : Option (Char × List Char) → List (List Char) → Option (List (List Char))
| none, [] => some []
| some _, [] => none
| none, l :: rest =>
    let line := Text.trimList Text.isBlank l
    if line.isEmpty || line.head? == some '#' then logicalLines? none rest
    else
      match openQuote? line with
      | none => (logicalLines? none rest).map (line :: ·)
      | some quote => logicalLines? (some (quote, line)) rest
| some (quote, line), l :: rest =>
    let line := line ++ '\n' :: l
    if closesQuote quote l then (logicalLines? none rest).map (line :: ·)
    else logicalLines? (some (quote, line)) rest

------------------------------------------------------------
-- The Form of a Line
------------------------------------------------------------

/- White space between the parts of a line. -/
def isLineSpace (c : Char) : Bool :=
  ['\t', '\n', '\x0c', '\r', ' '].contains c

/- At most white space and a comment are left. -/
def endsLine (text : List Char) : Bool :=
  match text.dropWhile isLineSpace with
  | [] => true
  | c :: rest => c == '#' && !rest.contains '\n'

/- The longest text up to a quote after which the line ends. -/
def quotedPart? (quote : Char) : List Char → Option (List Char)
| [] => none
| c :: rest =>
    match quotedPart? quote rest with
    | some inner => some (c :: inner)
    | none => if c == quote && endsLine rest then some [c] else none

/- A value in quotes, with these. -/
def quotedValue? : List Char → Option (List Char)
| [] => none
| c :: rest =>
    if c == '"' || c == singleQuote then (quotedPart? c rest).map (c :: ·) else none

/- A value without quotes; it ends in front of a comment. -/
def bareValue? (text : List Char) : Option (List Char) :=
  let inValue := fun c => c != '#' && c != '\n'
  let value := text.takeWhile inValue
  if !value.isEmpty && endsLine (text.dropWhile inValue) then some value else none

/- The value of a line, which may be missing. -/
def lineValue? (text : List Char) : Option (List Char) :=
  quotedValue? text <|> bareValue? text <|> if endsLine text then some [] else none

/- Where a value may start after a name: behind an equals sign, or a colon and a space. -/
def valueStarts (text : List Char) : List (List Char) :=
  match text.dropWhile isLineSpace with
  | '=' :: rest => [rest.dropWhile isLineSpace]
  | _ =>
      match text with
      | ':' :: rest =>
          (List.range (rest.takeWhile isLineSpace).length).map (fun n => rest.drop (n + 1))
      | _ => []

/- Name and value of a line whose name stands at its start. -/
def namedValue? (text : List Char) : Option (List Char × List Char) :=
  let name := text.takeWhile isNameChar
  if name.isEmpty then none
  else
    ((valueStarts (text.dropWhile isNameChar)).findSome? lineValue?).map (fun v => (name, v))

/- A line without the word that may stand in front of its name. -/
def afterExport? (text : List Char) : Option (List Char) :=
  match Text.afterStart? "export".toList text with
  | some (c :: rest) => if isLineSpace c then some (rest.dropWhile isLineSpace) else none
  | _ => none

/- Name and value of a line. -/
def matchLine? (line : List Char) : Option (List Char × List Char) :=
  let text := line.dropWhile isLineSpace
  (afterExport? text).bind namedValue? <|> namedValue? text

------------------------------------------------------------
-- Reading Lines
------------------------------------------------------------

/- A value stands between two quotes of a kind. -/
def isQuoted
    (quote : Char)
    (value : List Char) : Bool :=
  decide (2 ≤ value.length) && value.head? == some quote && value.getLast? == some quote

/- What the value of a line means. -/
def meaning
    (valueOf : String → String)
    (value : List Char) : List Char :=
  let inner := value.tail.dropLast
  if isQuoted singleQuote value then inner
  else if isQuoted '"' value then
    expand false valueOf
      (plainEscapes (replaceEscape 'r' '\r' (replaceEscape 'n' '\n' inner)))
  else expand false valueOf value

/- Read lines after some entries, each of which later lines may refer to. -/
def readEntries?
    (bindings : List (String × String)) :
    List (List Char) → List (String × String) → Option (List (String × String))
| [], entries => some entries
| line :: rest, entries => do
    let (name, value) ← matchLine? line
    let valueOf (name : String) : String :=
      (bindings.lookup name <|> entries.reverse.lookup name).getD ""
    let text := meaning valueOf (Text.trimList Text.isBlank value)
    readEntries? bindings rest
      (entries ++ [(String.ofList name, String.ofList text)])

/-
  The entries of a settings file, in order.  The bindings
  are those that its values may refer to.
-/
def readLines?
    (bindings : List (String × String))
    (file : String) : Option (List (String × String)) := do
  let lines ← logicalLines? none (← linesOf? file.toList)
  readEntries? bindings lines []

end Timetable.Configuration
