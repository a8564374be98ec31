import Timetable.Decimal.Layout

/-
  This file defines JSON values and their compact text.

  A number keeps the literal it was written with, so a value
  that is only passed through keeps its text.  An object
  keeps its members in order, repeated names included.  Some
  figures have no JSON text: they are kept with the reason,
  and with a text that shows them where one has to.

  Key definitions include:
    * `Json`
    * `Json.int`
    * `Json.float`
    * `Json.member?`
    * `Json.render`
    * `Json.refusal?`
-/

namespace Timetable

------------------------------------------------------------
-- Values
------------------------------------------------------------

/- A JSON value, or a figure that cannot be written with the reason and what shows it. -/
inductive Json where
| null : Json
| bool : Bool → Json
| num : String → Json
| str : String → Json
| arr : List Json → Json
| obj : List (String × Json) → Json
| unwritable : String → String → Json
deriving Repr, Inhabited

namespace Json

/- An integer. -/
def int (n : Int) : Json :=
  .num (toString n)

/- How a number that is not finite is named. -/
private def nonFiniteName (x : Float) : String :=
  if x.isNaN then "NaN" else if x < 0 then "-Inf" else "+Inf"

/-
  A number with the fewest digits that read back.  One that
  is not finite cannot be written.
-/
def float (x : Float) : Json :=
  let text := Decimal.Layout.json.render x
  if x.isNaN || x.isInf then
    .unwritable ("json: unsupported value: " ++ nonFiniteName x) text
  else .num text

/- A list of texts. -/
def strings (xs : List String) : Json :=
  .arr (xs.map .str)

/- A value that may be absent, an absent one being `null`. -/
def ofOption
    {α : Type}
    (encode : α → Json) : Option α → Json
| none => .null
| some a => encode a

/- The last member of an object with a given name. -/
def member?
    (name : String) : Json → Option Json
| .obj members => (members.reverse.find? (fun m => m.1 == name)).map (·.2)
| _ => none

------------------------------------------------------------
-- Escaped Text
------------------------------------------------------------

/- A hexadecimal digit in lower case. -/
def hexDigit (n : Nat) : Char :=
  if n < 10 then Char.ofNat (48 + n) else Char.ofNat (87 + n)

/- The four-digit escape of a code unit. -/
def unitEscape (n : Nat) : List Char :=
  ['\\', 'u',
    hexDigit (n / 4096 % 16), hexDigit (n / 256 % 16),
    hexDigit (n / 16 % 16), hexDigit (n % 16)]

/-
  The written form of one character.  Quotes, backslashes
  and control characters are escaped, and so are the three
  characters with a meaning in markup and the two Unicode
  line separators.
-/
def escapeChar (c : Char) : List Char :=
  if c == '"' then ['\\', '"']
  else if c == '\\' then ['\\', '\\']
  else if c == '\n' then ['\\', 'n']
  else if c == '\r' then ['\\', 'r']
  else if c == '\t' then ['\\', 't']
  else if c.toNat == 8 then ['\\', 'b']
  else if c.toNat == 12 then ['\\', 'f']
  else if c.toNat < 32 || c == '<' || c == '>' || c == '&' ||
      c.toNat == 0x2028 || c.toNat == 0x2029 then
    unitEscape c.toNat
  else
    [c]

/- A text with its quotes. -/
def quote (s : String) : String :=
  "\"" ++ String.ofList (s.toList.flatMap escapeChar) ++ "\""

------------------------------------------------------------
-- Compact Text
------------------------------------------------------------

mutual

/- The compact text of a value. -/
def render : Json → String
| .null => "null"
| .bool true => "true"
| .bool false => "false"
| .num literal => literal
| .str s => quote s
| .arr items => "[" ++ String.intercalate "," (renderItems items) ++ "]"
| .obj members => "\x7b" ++ String.intercalate "," (renderMembers members) ++ "\x7d"
| .unwritable _ shown => quote shown

/- The texts of the elements of a list. -/
def renderItems : List Json → List String
| [] => []
| v :: vs => render v :: renderItems vs

/- The texts of the members of an object. -/
def renderMembers : List (String × Json) → List String
| [] => []
| (name, v) :: rest => (quote name ++ ":" ++ render v) :: renderMembers rest

end

------------------------------------------------------------
-- What Cannot Be Written
------------------------------------------------------------

mutual

/- Why a value cannot be written, by the first part of it that cannot. -/
def refusal? : Json → Option String
| .unwritable reason _ => some reason
| .arr items => itemsRefusal? items
| .obj members => membersRefusal? members
| _ => none

/- Why the elements of a list cannot be written. -/
def itemsRefusal? : List Json → Option String
| [] => none
| v :: vs => refusal? v <|> itemsRefusal? vs

/- Why the members of an object cannot be written. -/
def membersRefusal? : List (String × Json) → Option String
| [] => none
| (_, v) :: rest => refusal? v <|> membersRefusal? rest

end

end Json

end Timetable
