/-
  This file reads bytes as text.  A byte that belongs to no
  well-formed character stands as the replacement character.

  Key definitions include:
    * `bytesOf`
    * `ofBytes`
-/

namespace Timetable.Text

------------------------------------------------------------
-- Bytes of Texts
------------------------------------------------------------

/- The bytes of a text. -/
def bytesOf (s : String) : List UInt8 :=
  s.toUTF8.data.toList

/- What stands for bytes that are not well formed. -/
def replacementChar : Char :=
  Char.ofNat 0xFFFD

/- The payload of a continuation byte. -/
private def tail? (b : UInt8) : Option Nat :=
  if 0x80 ≤ b && b < 0xC0 then some (b.toNat - 0x80) else none

/- A character, if its number lies in the range that its length is meant for. -/
private def inRange?
    (low n : Nat) : Option Char :=
  if low ≤ n && n ≤ 0x10FFFF && !(0xD800 ≤ n && n ≤ 0xDFFF) then some (Char.ofNat n)
  else none

/- A character of two bytes. -/
private def two? (a b : UInt8) : Option Char := do
  if 0xC0 ≤ a && a < 0xE0 then
    inRange? 0x80 ((a.toNat - 0xC0) * 64 + (← tail? b))
  else none

/- A character of three bytes. -/
private def three? (a b c : UInt8) : Option Char := do
  if 0xE0 ≤ a && a < 0xF0 then
    inRange? 0x800 (((a.toNat - 0xE0) * 64 + (← tail? b)) * 64 + (← tail? c))
  else none

/- A character of four bytes. -/
private def four? (a b c d : UInt8) : Option Char := do
  if 0xF0 ≤ a && a < 0xF8 then
    inRange? 0x10000
      ((((a.toNat - 0xF0) * 64 + (← tail? b)) * 64 + (← tail? c)) * 64 + (← tail? d))
  else none

/- The character at the start of some bytes, and how many bytes it has after the first. -/
private def leading : List UInt8 → Char × Nat
| [] => (replacementChar, 0)
| a :: rest =>
    if a < 0x80 then (Char.ofNat a.toNat, 0)
    else
      match rest with
      | b :: c :: d :: _ =>
          match two? a b, three? a b c, four? a b c d with
          | some x, _, _ => (x, 1)
          | _, some x, _ => (x, 2)
          | _, _, some x => (x, 3)
          | _, _, _ => (replacementChar, 0)
      | [b, c] =>
          match two? a b, three? a b c with
          | some x, _ => (x, 1)
          | _, some x => (x, 2)
          | _, _ => (replacementChar, 0)
      | [b] =>
          match two? a b with
          | some x => (x, 1)
          | none => (replacementChar, 0)
      | [] => (replacementChar, 0)

/- The characters of bytes. -/
def charsOfBytes (bs : List UInt8) : List Char :=
  match bs with
  | [] => []
  | a :: rest =>
      let (c, more) := leading (a :: rest)
      c :: charsOfBytes (rest.drop more)
termination_by bs.length
decreasing_by
  simp only [List.length_drop, List.length_cons]
  omega

/- The text of bytes. -/
def ofBytes (bs : List UInt8) : String :=
  String.ofList (charsOfBytes bs)

end Timetable.Text
