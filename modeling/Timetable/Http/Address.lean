import Timetable.Decimal.Reading
import Timetable.Text.Blank

/-
  This file recognises network addresses, and finds the
  address of a client behind proxies.

  Key definitions include:
    * `isFourPartAddress`
    * `isColonAddress`
    * `isAddress`
    * `forwardedAddress?`
-/

namespace Timetable.Http

------------------------------------------------------------
-- Addresses of Four Parts
------------------------------------------------------------

/- A part of an address: a number below 256 without leading zeros. -/
def isAddressPart (part : List Char) : Bool :=
  !part.isEmpty && part.all (Decimal.isDigitIn 10) &&
    (part.length == 1 || part.head? != some '0') &&
    decide (Decimal.digitsValue 10 part ≤ 255)

/- An address of four numbers with dots between them. -/
def isFourPartAddress (text : List Char) : Bool :=
  let parts := Text.splitOnChar '.' text
  parts.length == 4 && parts.all isAddressPart

------------------------------------------------------------
-- Addresses of Eight Groups
------------------------------------------------------------

/- A group of an address: up to four hexadecimal digits. -/
def isAddressGroup (group : List Char) : Bool :=
  !group.isEmpty && decide (group.length ≤ 4) && group.all (Decimal.isDigitIn 16)

/-
  The number of groups that a run of groups stands for, if it
  is well formed.  The last one may be an address of four
  parts, which stands for two.
-/
def groupCount? : List (List Char) → Option Nat
| [] => some 0
| [last] =>
    if isAddressGroup last then some 1
    else if isFourPartAddress last then some 2
    else none
| group :: rest =>
    if isAddressGroup group then (groupCount? rest).map (· + 1) else none

/- The number of groups of a text in which colons stand between groups. -/
def groupCountOf? (text : List Char) : Option Nat :=
  if text.isEmpty then some 0 else groupCount? (Text.splitOnChar ':' text)

/- The parts of a text before and after its first double colon. -/
def splitAtGap? : List Char → Option (List Char × List Char)
| ':' :: ':' :: rest => some ([], rest)
| c :: rest => (splitAtGap? rest).map (fun (before, after) => (c :: before, after))
| [] => none

/-
  An address of eight groups.  One gap, a double colon, may
  stand for groups that are zero, at least one.
-/
def isColonAddress (text : List Char) : Bool :=
  match splitAtGap? text with
  | none => groupCountOf? text == some 8
  | some (before, after) =>
      before.all (fun c => c == ':' || Decimal.isDigitIn 16 c) &&
        match groupCountOf? before, groupCountOf? after with
        | some m, some n => decide (m + n ≤ 7)
        | _, _ => false

/- A text is a network address. -/
def isAddress (text : String) : Bool :=
  let chars := text.toList
  match chars.find? (fun c => c == '.' || c == ':') with
  | some '.' => isFourPartAddress chars
  | some _ => isColonAddress chars
  | none => false

------------------------------------------------------------
-- Forwarded Addresses
------------------------------------------------------------

/-
  The address of the client in the list that proxies add to:
  the first one, if all of them are addresses.
-/
def forwardedAddress? (listed : String) : Option String :=
  let addresses := (Text.split ',' listed).map Text.trim
  if addresses.all isAddress then addresses.head? else none

end Timetable.Http
