import Timetable.Json.Reader

/-
  This file keeps JSON values as the text they are written
  with, for values that are passed on unread: escapes and
  the spelling of numbers stay as they are.

  Key definitions include:
    * `Json.writtenItems`
    * `Json.writtenMembers`
    * `Json.written?`
    * `Json.compact`
-/

namespace Timetable.Json

------------------------------------------------------------
-- The Parts of a Text
------------------------------------------------------------

/- The text of the first value, without the blanks before it, and what follows it. -/
def spanValue (text : List Char) : List Char × List Char :=
  let start := skipBlanks text
  match readValue (2 * start.length + 2) 0 start with
  | .ok (_, rest) => (start.take (start.length - rest.length), rest)
  | .error _ => (start, [])

/- The texts of the elements from here to the closing bracket. -/
private def itemTexts : Nat → List Char → List String
| 0, _ => []
| fuel + 1, text =>
    let (item, rest) := spanValue text
    match skipBlanks rest with
    | ',' :: rest => String.ofList item :: itemTexts fuel rest
    | _ => [String.ofList item]

/- The texts of the elements of a list. -/
def writtenItems (text : String) : List String :=
  match skipBlanks text.toList with
  | '[' :: rest =>
      match skipBlanks rest with
      | ']' :: _ => []
      | rest => itemTexts rest.length rest
  | _ => []

/- The names, and the texts of the values, from here to the closing brace. -/
private def memberTexts : Nat → List Char → List (String × String)
| 0, _ => []
| fuel + 1, text =>
    match skipBlanks text with
    | '"' :: rest =>
        match readString rest with
        | .error _ => []
        | .ok (name, rest) =>
            let (value, rest) := spanValue ((skipBlanks rest).drop 1)
            match skipBlanks rest with
            | ',' :: rest => (name, String.ofList value) :: memberTexts fuel rest
            | _ => [(name, String.ofList value)]
    | _ => []

/- The names of the members of an object, and the texts of their values. -/
def writtenMembers (text : String) : List (String × String) :=
  match skipBlanks text.toList with
  | '\x7b' :: rest => memberTexts rest.length rest
  | _ => []

/- The text of the last member of an object with a given name. -/
def written?
    (name : String)
    (text : String) : Option String :=
  ((writtenMembers text).reverse.find? (fun m => m.1 == name)).map (·.2)

------------------------------------------------------------
-- Compact Texts
------------------------------------------------------------

/-
  Within a string everything stays but the characters with a
  meaning in markup and the two Unicode line separators,
  which are escaped; outside of strings there are no blanks.
-/
private def compactChars : Bool → List Char → List Char
| _, [] => []
| true, '\\' :: c :: rest => '\\' :: c :: compactChars true rest
| true, '"' :: rest => '"' :: compactChars false rest
| true, c :: rest =>
    (if c == '<' || c == '>' || c == '&' || c.toNat == 0x2028 || c.toNat == 0x2029 then
      unitEscape c.toNat
    else [c]) ++ compactChars true rest
| false, '"' :: rest => '"' :: compactChars true rest
| false, c :: rest =>
    if isBlank c then compactChars false rest else c :: compactChars false rest

/- The compact form of the text of a value. -/
def compact (text : String) : String :=
  String.ofList (compactChars false text.toList)

end Timetable.Json
