import Timetable.Json.Basic
import Timetable.Text.Blank
import Timetable.Text.Quoted
import Timetable.Text.Utf8

/-
  This file reads JSON text.  A reader takes the characters
  that are left and returns a value with the characters
  after it, or the fault that stopped it.

  Key definitions include:
    * `Json.Fault`
    * `Json.Fault.message`
    * `Json.readString`
    * `Json.readNumber`
    * `Json.readValue`
    * `Json.first`
    * `Json.whole`
-/

namespace Timetable.Json

------------------------------------------------------------
-- Faults
------------------------------------------------------------

/-
  Why a text is no JSON: it ends too early, a character
  stands where it may not, a string holds an escape that
  means nothing, or values are nested too deeply.  A
  meaningless escape is kept as its whole characters and the
  leading bytes of one more.
-/
inductive Fault where
| endOfInput : Fault
| unexpected : Char → String → Fault
| badEscape : List Char → List UInt8 → Fault
| tooDeep : Fault
deriving DecidableEq, Repr

/- A character stands out in a text between backquotes. -/
private def isAwkward (c : Char) : Bool :=
  c.toNat == 0x60 || c == Text.replacementChar || Text.isBlank c || !Text.isPrintable c

/-
  How an escape is shown: between backquotes if it can be
  read there, else quoted.
-/
private def shownEscape
    (chars : List Char)
    (bytes : List UInt8) : String :=
  if bytes.isEmpty && !chars.any isAwkward then
    "\x60" ++ String.ofList chars ++ "\x60"
  else
    "\"" ++ String.join (chars.map (Text.escapeWithin '"')) ++
      String.join (bytes.map (fun b => Text.byteEscape b.toNat)) ++ "\""

/- The wording of a fault. -/
def Fault.message : Fault → String
| .endOfInput => "unexpected end of JSON input"
| .unexpected c context => "invalid character " ++ Text.quotedChar c ++ " " ++ context
| .badEscape chars bytes =>
    "invalid escape sequence " ++ shownEscape chars bytes ++ " in string"
| .tooDeep => "exceeded max depth"

/- The fault at a character that may not stand here, or at the end of the text. -/
private def refuse
    {α : Type}
    (context : String) : List Char → Except Fault (α × List Char)
| [] => .error .endOfInput
| c :: _ => .error (.unexpected c context)

------------------------------------------------------------
-- Blanks
------------------------------------------------------------

/- Blanks between tokens. -/
def isBlank (c : Char) : Bool :=
  c == ' ' || c == '\t' || c == '\r' || c == '\n'

/- Drop leading blanks. -/
def skipBlanks (text : List Char) : List Char :=
  text.dropWhile isBlank

------------------------------------------------------------
-- Strings
------------------------------------------------------------

/- The value of a hexadecimal digit. -/
def hexValue? (c : Char) : Option Nat :=
  if '0' ≤ c ∧ c ≤ '9' then some (c.toNat - 48)
  else if 'a' ≤ c ∧ c ≤ 'f' then some (c.toNat - 87)
  else if 'A' ≤ c ∧ c ≤ 'F' then some (c.toNat - 55)
  else none

/- The characters that fit into a number of bytes, and the leading bytes of the next one. -/
private def firstBytes : Nat → List Char → List Char × List UInt8
| _, [] => ([], [])
| n, c :: rest =>
    if c.utf8Size ≤ n then
      let (chars, bytes) := firstBytes (n - c.utf8Size) rest
      (c :: chars, bytes)
    else
      ([], (Text.bytesOf c.toString).take n)

/- The fault of an escape that takes a number of bytes. -/
private def refuseEscape
    {α : Type}
    (size : Nat)
    (text : List Char) : Except Fault α :=
  let (chars, bytes) := firstBytes size text
  .error (.badEscape chars bytes)

/-
  Read the four hexadecimal digits after the mark of a code
  unit escape.  One that is right as far as it goes ends too
  early; any other is shown with the bytes that it takes.
-/
def readUnit (text : List Char) : Except Fault (Nat × List Char) :=
  let digits := (text.take 4).filterMap hexValue?
  if digits.length == 4 then
    .ok (digits.foldl (fun n d => 16 * n + d) 0, text.drop 4)
  else if digits.length == text.length then
    .error .endOfInput
  else
    refuseEscape 6 ('\\' :: 'u' :: text)

/- One unit of a string body: a code unit escape or a plain character. -/
inductive Piece where
| unit : Nat → Piece
| plain : Char → Piece
deriving DecidableEq, Repr

/- The character that stands for a code unit without its partner. -/
def replacement : Char :=
  Char.ofNat 0xFFFD

/-
  Join pieces to characters.  A high surrogate followed by a
  low one is one character; a surrogate on its own is the
  replacement character.
-/
def joinPieces : List Piece → List Char
| [] => []
| .plain c :: rest => c :: joinPieces rest
| .unit high :: .unit low :: rest =>
    if 0xD800 ≤ high ∧ high < 0xDC00 ∧ 0xDC00 ≤ low ∧ low < 0xE000 then
      Char.ofNat (0x10000 + (high - 0xD800) * 0x400 + (low - 0xDC00)) ::
        joinPieces rest
    else if 0xD800 ≤ high ∧ high < 0xE000 then
      replacement :: joinPieces (.unit low :: rest)
    else
      Char.ofNat high :: joinPieces (.unit low :: rest)
| .unit n :: rest =>
    if 0xD800 ≤ n ∧ n < 0xE000 then
      replacement :: joinPieces rest
    else
      Char.ofNat n :: joinPieces rest

/- The character that a one-letter escape stands for. -/
def letterEscape? : Char → Option Char
| '"' => some '"'
| '\\' => some '\\'
| '/' => some '/'
| 'b' => some (Char.ofNat 8)
| 'f' => some (Char.ofNat 12)
| 'n' => some '\n'
| 'r' => some '\r'
| 't' => some '\t'
| _ => none

/- Read the rest of a string after its opening quote. -/
def readPieces : Nat → List Char → Except Fault (List Piece × List Char)
| 0, _ => .error .endOfInput
| fuel + 1, text =>
    match text with
    | [] => .error .endOfInput
    | '"' :: rest => .ok ([], rest)
    | '\\' :: [] => .error .endOfInput
    | '\\' :: 'u' :: rest => do
        let (n, rest) ← readUnit rest
        let (pieces, rest) ← readPieces fuel rest
        return (.unit n :: pieces, rest)
    | '\\' :: c :: rest =>
        match letterEscape? c with
        | none => refuseEscape 2 text
        | some d => do
            let (pieces, rest) ← readPieces fuel rest
            return (.plain d :: pieces, rest)
    | c :: rest =>
        if c.toNat < 32 then
          refuse "in string" text
        else do
          let (pieces, rest) ← readPieces fuel rest
          return (.plain c :: pieces, rest)

/- Read the rest of a string after its opening quote. -/
def readString (text : List Char) : Except Fault (String × List Char) := do
  let (pieces, rest) ← readPieces (text.length + 1) text
  return (String.ofList (joinPieces pieces), rest)

------------------------------------------------------------
-- Numbers and Literals
------------------------------------------------------------

/- A leading run of decimal digits, and what follows it. -/
def spanDigits (text : List Char) : List Char × List Char :=
  text.span Char.isDigit

/- A leading minus, when there is one, and what follows it. -/
def spanMinus : List Char → List Char × List Char
| '-' :: rest => (['-'], rest)
| rest => ([], rest)

/- The digits after a decimal point, when there is one. -/
def readPlaces (text : List Char) : Except Fault (List Char × List Char) :=
  match text with
  | '.' :: rest =>
      match spanDigits rest with
      | ([], rest) => refuse "in numeric literal" rest
      | (digits, rest) => .ok ('.' :: digits, rest)
  | _ => .ok ([], text)

/- An exponent, when there is one. -/
def readPower (text : List Char) : Except Fault (List Char × List Char) :=
  match text with
  | mark :: rest =>
      if mark == 'e' || mark == 'E' then
        let (sign, rest) :=
          match rest with
          | '+' :: tail => (['+'], tail)
          | '-' :: tail => (['-'], tail)
          | tail => ([], tail)
        match spanDigits rest with
        | ([], rest) => refuse "in numeric literal" rest
        | (digits, rest) => .ok (mark :: sign ++ digits, rest)
      else
        .ok ([], text)
  | [] => .ok ([], [])

/- The whole part of a number: a zero, or digits that do not start with one. -/
def readWhole (text : List Char) : Except Fault (List Char × List Char) :=
  match text with
  | '0' :: rest => .ok (['0'], rest)
  | _ =>
      match spanDigits text with
      | ([], rest) => refuse "in numeric literal" rest
      | (digits, rest) => .ok (digits, rest)

/- Read a number and keep its literal. -/
def readNumber (text : List Char) : Except Fault (String × List Char) := do
  let (sign, rest) := spanMinus text
  let (whole, rest) ← readWhole rest
  let (places, rest) ← readPlaces rest
  let (power, rest) ← readPower rest
  return (String.ofList (sign ++ whole ++ places ++ power), rest)

/- Read the remaining letters of a word. -/
private def readWord
    (word : String)
    (value : Json) : List Char → List Char → Except Fault (Json × List Char)
| [], rest => .ok (value, rest)
| expected :: more, text =>
    match text with
    | c :: rest =>
        if c == expected then readWord word value more rest
        else
          refuse
            ("in literal " ++ word ++ " (expecting '" ++
              String.ofList [expected] ++ "')")
            text
    | [] => .error .endOfInput

------------------------------------------------------------
-- Values
------------------------------------------------------------

/- How deeply lists and objects may be nested. -/
def depthLimit : Nat := 10000

mutual

/-
  Read a value.  Every call consumes a character, so a fuel
  above the length of the text is never used up.
-/
def readValue : Nat → Nat → List Char → Except Fault (Json × List Char)
| 0, _, _ => .error .endOfInput
| fuel + 1, depth, text =>
    match skipBlanks text with
    | [] => .error .endOfInput
    | '\x7b' :: rest =>
        if depthLimit ≤ depth then .error .tooDeep
        else
          match skipBlanks rest with
          | '\x7d' :: rest => .ok (.obj [], rest)
          | _ => do
              let (members, rest) ← readMembers fuel (depth + 1) rest
              return (.obj members, rest)
    | '[' :: rest =>
        if depthLimit ≤ depth then .error .tooDeep
        else
          match skipBlanks rest with
          | ']' :: rest => .ok (.arr [], rest)
          | _ => do
              let (items, rest) ← readItems fuel (depth + 1) rest
              return (.arr items, rest)
    | '"' :: rest => do
        let (s, rest) ← readString rest
        return (.str s, rest)
    | 't' :: rest => readWord "true" (.bool true) ['r', 'u', 'e'] rest
    | 'f' :: rest => readWord "false" (.bool false) ['a', 'l', 's', 'e'] rest
    | 'n' :: rest => readWord "null" .null ['u', 'l', 'l'] rest
    | c :: rest =>
        if c == '-' || c.isDigit then do
          let (literal, rest) ← readNumber (c :: rest)
          return (.num literal, rest)
        else
          refuse "looking for beginning of value" (c :: rest)

/- Read the elements of a list up to its closing bracket. -/
def readItems : Nat → Nat → List Char → Except Fault (List Json × List Char)
| 0, _, _ => .error .endOfInput
| fuel + 1, depth, text => do
    let (v, rest) ← readValue fuel depth text
    match skipBlanks rest with
    | ',' :: rest => do
        let (vs, rest) ← readItems fuel depth rest
        return (v :: vs, rest)
    | ']' :: rest => .ok ([v], rest)
    | [] => .error .endOfInput
    | rest => refuse "after array element" rest

/- Read the members of an object up to its closing brace. -/
def readMembers : Nat → Nat → List Char → Except Fault (List (String × Json) × List Char)
| 0, _, _ => .error .endOfInput
| fuel + 1, depth, text =>
    match skipBlanks text with
    | '"' :: rest => do
        let (name, rest) ← readString rest
        match skipBlanks rest with
        | ':' :: rest => do
            let (v, rest) ← readValue fuel depth rest
            match skipBlanks rest with
            | ',' :: rest => do
                let (more, rest) ← readMembers fuel depth rest
                return ((name, v) :: more, rest)
            | '\x7d' :: rest => .ok ([(name, v)], rest)
            | [] => .error .endOfInput
            | rest => refuse "after object key:value pair" rest
        | [] => .error .endOfInput
        | rest => refuse "after object key" rest
    | [] => .error .endOfInput
    | rest => refuse "looking for beginning of object key string" rest

end

/- The first value of a text; what follows it is not looked at. -/
def first (text : String) : Except Fault Json :=
  (readValue (2 * text.length + 2) 0 text.toList).map (·.1)

/- The value of a text that holds nothing else. -/
def whole (text : String) : Except Fault Json := do
  let (v, rest) ← readValue (2 * text.length + 2) 0 text.toList
  match skipBlanks rest with
  | [] => return v
  | c :: _ => .error (.unexpected c "after top-level value")

end Timetable.Json
