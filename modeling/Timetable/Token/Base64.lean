/-
  This file reads bytes that are written with the letters of
  the URL-safe alphabet, six bits each, without padding.

  Key definitions include:
    * `sextet?`
    * `decode64?`
-/

namespace Timetable.Token

------------------------------------------------------------
-- Letters
------------------------------------------------------------

/- The six bits that a letter stands for. -/
def sextet? (c : Char) : Option Nat :=
  if 'A' ≤ c ∧ c ≤ 'Z' then some (c.toNat - 65)
  else if 'a' ≤ c ∧ c ≤ 'z' then some (c.toNat - 71)
  else if '0' ≤ c ∧ c ≤ '9' then some (c.toNat + 4)
  else if c = '-' then some 62
  else if c = '_' then some 63
  else none

/-
  The bytes of letters: four letters are three bytes, and the
  last two or three letters one or two.
-/
def bytesOfSextets : List Nat → Option (List UInt8)
| [] => some []
| [_] => none
| [a, b] => some [UInt8.ofNat (a * 4 + b / 16)]
| [a, b, c] => some [UInt8.ofNat (a * 4 + b / 16), UInt8.ofNat (b % 16 * 16 + c / 4)]
| a :: b :: c :: d :: rest =>
    (bytesOfSextets rest).map (fun bytes =>
      UInt8.ofNat (a * 4 + b / 16) :: UInt8.ofNat (b % 16 * 16 + c / 4) ::
        UInt8.ofNat (c % 4 * 64 + d) :: bytes)

/- The bytes of a text; line ends are passed over. -/
def decode64? (s : String) : Option (List UInt8) := do
  let letters := s.toList.filter (fun c => c != '\n' && c != '\r')
  bytesOfSextets (← letters.mapM sextet?)

end Timetable.Token
