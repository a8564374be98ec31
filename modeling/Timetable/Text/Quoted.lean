import Timetable.Text.Printable

/-
  This file writes texts and single characters between
  quotes, with everything escaped that cannot be printed.

  Key definitions include:
    * `escapeWithin`
    * `quoted`
    * `quotedChar`
-/

namespace Timetable.Text

------------------------------------------------------------
-- Quoted Texts
------------------------------------------------------------

/- A number with at least `width` hexadecimal digits. -/
def hexText (width n : Nat) : String :=
  let digits := Nat.toDigits 16 n
  String.ofList (List.replicate (width - digits.length) '0' ++ digits)

/- A byte by its number. -/
def byteEscape (b : Nat) : String :=
  "\\x" ++ hexText 2 b

/-
  A character between quotes of a given kind.  The quote and
  the backslash are escaped, control characters have short
  names or numbers, and other characters that cannot be
  printed have numbers.
-/
def escapeWithin
    (mark c : Char) : String :=
  let n := c.toNat
  if c == mark || c == '\\' then String.ofList ['\\', c]
  else if isPrintable c then c.toString
  else if n == 7 then "\\a"
  else if n == 8 then "\\b"
  else if n == 9 then "\\t"
  else if n == 10 then "\\n"
  else if n == 11 then "\\v"
  else if n == 12 then "\\f"
  else if n == 13 then "\\r"
  else if n < 0x20 || n == 0x7F then byteEscape n
  else if n < 0x10000 then "\\u" ++ hexText 4 n
  else "\\U" ++ hexText 8 n

/- A text between quotes. -/
def quoted (s : String) : String :=
  "\"" ++ String.join (s.toList.map (escapeWithin '"')) ++ "\""

/- A character between single quotes. -/
def quotedChar (c : Char) : String :=
  "'" ++ escapeWithin (Char.ofNat 39) c ++ "'"

end Timetable.Text
