import Timetable.Decimal.Reading
import Timetable.Text.Blank
import Timetable.Text.Utf8

/-
  This file reads the target of a request: its path and its
  query, in which bytes may be written as two hexadecimal
  digits after a percent sign.

  Key definitions include:
    * `unescape?`
    * `escapePath`
    * `Target`
    * `Target.ofText`
    * `Target.value`
-/

namespace Timetable.Http

------------------------------------------------------------
-- Escapes
------------------------------------------------------------

/- The value of a byte that is a hexadecimal digit. -/
private def nibble? (b : UInt8) : Option Nat :=
  Decimal.digitValue? 16 (Char.ofNat b.toNat)

/- Replace escapes by the bytes they stand for; one that is cut short is refused. -/
def unescapeBytes? : List UInt8 → Option (List UInt8)
| [] => some []
| 0x25 :: a :: b :: rest => do
    let high ← nibble? a
    let low ← nibble? b
    let bytes ← unescapeBytes? rest
    return UInt8.ofNat (16 * high + low) :: bytes
| b :: rest =>
    if b == 0x25 then none else (unescapeBytes? rest).map (b :: ·)

/- The text that an escaped text stands for. -/
def unescape? (s : String) : Option String :=
  (unescapeBytes? (Text.bytesOf s)).map Text.ofBytes

/- The same for a part of a query, where a plus sign is a space. -/
def unescapeQuery? (s : String) : Option String :=
  unescape? (s.map (fun c => if c == '+' then ' ' else c))

/- A byte stands for itself in a path. -/
private def isPlainByte (b : UInt8) : Bool :=
  let c := Char.ofNat b.toNat
  c.isAlphanum || "-_.~$&+,/:;=@".toList.contains c

/- A path with all other bytes escaped. -/
def escapePath (path : String) : String :=
  String.ofList ((Text.bytesOf path).flatMap (fun b =>
    if isPlainByte b then [Char.ofNat b.toNat]
    else '%' :: [b.toNat / 16, b.toNat % 16].map (fun n => (Nat.digitChar n).toUpper)))

------------------------------------------------------------
-- Targets
------------------------------------------------------------

/- What a request is about. -/
structure Target where
  /- The scheme and the host, if they are named. -/
  origin : String := ""
  path : String
  /- A question mark stands behind the path. -/
  isQueried : Bool := false
  /- The query as it was written. -/
  rawQuery : String
  query : List (String × String)
deriving DecidableEq, Repr

/- The host is named. -/
def Target.hasHost (t : Target) : Bool :=
  !t.origin.endsWith ":"

/- The parts of a text before and after a mark; the second is empty without one. -/
def cutAt
    (mark : Char)
    (s : String) : String × String :=
  (String.ofList (s.toList.takeWhile (· != mark)),
    String.ofList ((s.toList.dropWhile (· != mark)).drop 1))

/- The entry of a query; a malformed one is passed over. -/
private def queryEntry? (entry : String) : Option (String × String) :=
  if entry == "" || entry.contains ';' then none
  else do
    let (name, value) := cutAt '=' entry
    return (← unescapeQuery? name, ← unescapeQuery? value)

/- A character of the name of a scheme. -/
private def isSchemeChar (c : Char) : Bool :=
  c.isAlphanum || c == '+' || c == '-' || c == '.'

/- The scheme and the host in front of a path, which are often left out. -/
def splitOrigin (text : List Char) : List Char × List Char :=
  let scheme := text.takeWhile isSchemeChar
  match text.drop scheme.length with
  | ':' :: '/' :: '/' :: rest =>
      if scheme.head?.any Char.isAlpha then
        let host := rest.takeWhile (· != '/')
        (scheme.map Decimal.lowerAscii ++ ':' :: '/' :: '/' :: host, rest.drop host.length)
      else ([], text)
  | ':' :: rest =>
      if scheme.head?.any Char.isAlpha then (scheme.map Decimal.lowerAscii ++ [':'], rest)
      else ([], text)
  | _ => ([], text)

/- Read a target. -/
def Target.ofText (s : String) : Target :=
  let (place, query) := cutAt '?' s
  let (origin, path) := splitOrigin place.toList
  let path := String.ofList path
  { origin := String.ofList origin
    path := (unescape? path).getD path
    isQueried := s.contains '?'
    rawQuery := query
    query := (Text.split '&' query).filterMap queryEntry? }

/- The first value of a name in a query, empty if there is none. -/
def Target.value
    (t : Target)
    (name : String) : String :=
  (t.query.lookup name).getD ""

end Timetable.Http
