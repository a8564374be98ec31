import Timetable.Text.Case
import Timetable.Text.Collation.Level

/-
  This file weighs single characters for sorting: letters by
  the alphabet, accents apart from the letters that carry
  them, and upper case like lower case.  It weighs ASCII and
  the Latin letters with codes below 256; other characters
  have a place behind these, by their codes.

  Key definitions include:
    * `parts`
    * `Element.ofChar`
    * `orderMarks`
-/

namespace Timetable.Text

------------------------------------------------------------
-- Elements
------------------------------------------------------------

/- The secondary weight of a sign without accent. -/
def commonWeight : Nat := 32

/- A letter or another sign. -/
def Element.ofPrimary (primary : Nat) : Element :=
  { primary, secondary := commonWeight }

------------------------------------------------------------
-- Letters and Accents
------------------------------------------------------------

/- The accents that letters carry, as combining characters. -/
private def grave : Char := Char.ofNat 0x300

private def acute : Char := Char.ofNat 0x301

private def circumflex : Char := Char.ofNat 0x302

private def tilde : Char := Char.ofNat 0x303

private def diaeresis : Char := Char.ofNat 0x308

private def ring : Char := Char.ofNat 0x30A

private def cedilla : Char := Char.ofNat 0x327

/- Letters with an accent, in lower case, with their parts. -/
private def composed : List (Char × Char × Char) :=
  [('à', 'a', grave), ('á', 'a', acute), ('â', 'a', circumflex),
    ('ã', 'a', tilde), ('ä', 'a', diaeresis), ('å', 'a', ring),
    ('ç', 'c', cedilla), ('è', 'e', grave), ('é', 'e', acute),
    ('ê', 'e', circumflex), ('ë', 'e', diaeresis), ('ì', 'i', grave),
    ('í', 'i', acute), ('î', 'i', circumflex), ('ï', 'i', diaeresis),
    ('ñ', 'n', tilde), ('ò', 'o', grave), ('ó', 'o', acute),
    ('ô', 'o', circumflex), ('õ', 'o', tilde), ('ö', 'o', diaeresis),
    ('ù', 'u', grave), ('ú', 'u', acute), ('û', 'u', circumflex),
    ('ü', 'u', diaeresis), ('ý', 'y', acute), ('ÿ', 'y', diaeresis)]

/- An ASCII or Latin letter in upper case. -/
private def isUpperLatin (c : Char) : Bool :=
  c.isUpper || (decide (0xC0 ≤ c.toNat ∧ c.toNat ≤ 0xDE) && c.toNat != 0xD7)

/- The lower case of an ASCII or Latin letter. -/
private def lowerLatin (c : Char) : Char :=
  if isUpperLatin c then Char.ofNat (c.toNat + 32) else c

/- A character as a letter of its case and its accent. -/
def parts (c : Char) : List Char :=
  match composed.find? (fun p => p.1 == lowerLatin c) with
  | some (_, base, accent) => [if isUpperLatin c then base.toUpper else base, accent]
  | none => [c]

/- A combining character. -/
def isMark (c : Char) : Bool :=
  decide (0x300 ≤ c.toNat) && decide (c.toNat ≤ 0x36F)

/- The class of a combining character: below a letter, or above it. -/
def markClass (c : Char) : Nat :=
  if c == cedilla then 202 else 230

------------------------------------------------------------
-- Weights
------------------------------------------------------------

/- Signs before the digits, in ascending order. -/
private def signOrder : List Char :=
  " _-,;:!?.'\"()[]\x7b\x7d@*/\\&#%`^+<=>|~$".toList

/- How many weights there are from one sign to the next one. -/
private def room : Nat := 65536

/- Superscripts, and the signs that they stand for. -/
private def superscripts : List (Char × Char) :=
  [('ª', 'a'), ('º', 'o'), ('¹', '1'), ('²', '2'), ('³', '3')]

/- A sign apart from its case and its form. -/
private def plainSign (c : Char) : Char :=
  if c.toNat == 0xA0 then ' '
  else
    match superscripts.find? (fun p => p.1 == c) with
    | some (_, sign) => sign
    | none => lowerChar c

/-
  The place of a sign: signs, then digits, then letters, and
  all other characters after them.
-/
private def place (c : Char) : Nat :=
  if 'a' ≤ c ∧ c ≤ 'z' then 1000 + (c.toNat - 97)
  else if '0' ≤ c ∧ c ≤ '9' then 500 + (c.toNat - 48)
  else
    match signOrder.idxOf? c with
    | some i => 1 + i
    | none => 10000 + c.toNat

/- The primary weight of a sign, without case.  An eth stands between `d` and `e`. -/
def primaryWeight (c : Char) : Nat :=
  let c := plainSign c
  if c == 'ð' then room * place 'd' + room / 2 else room * place c

/- The secondary weight of an accent. -/
private def accentWeight (accent : Char) : Nat :=
  if accent == acute then 36
  else if accent == grave then 37
  else if accent == circumflex then 39
  else if accent == ring then 41
  else if accent == diaeresis then 43
  else if accent == tilde then 45
  else if accent == cedilla then 48
  else 60 + accent.toNat

/- The element of a letter without accent, or of an accent. -/
private def ofPart (c : Char) : Element :=
  if isMark c then
    { primary := 0, secondary := accentWeight c, markClass := markClass c }
  else
    Element.ofPrimary (primaryWeight c)

/- Two letters written as one, and what holds them together. -/
private def ligature
    (first second : Char) : List Element :=
  [ofPart first, { primary := 0, secondary := 272 }, ofPart second]

/-
  The elements of a character in no alphabet in particular.
  Letters that are made of others weigh like these.
-/
def Element.ofChar (c : Char) : List Element :=
  match lowerLatin c with
  | 'æ' => ligature 'a' 'e'
  | 'ø' => [ofPart 'o', { primary := 0, secondary := 47 }]
  | 'ß' => [ofPart 's', ofPart 's']
  | _ => (parts c).map ofPart

------------------------------------------------------------
-- The Order of Accents
------------------------------------------------------------

/- Put an accent behind the accents that stand below it. -/
private def insertMark
    (e : Element) : List Element → List Element
| [] => [e]
| d :: rest =>
    if d.markClass != 0 && decide (d.markClass < e.markClass) then
      d :: insertMark e rest
    else
      e :: d :: rest

/-
  Accents of one letter stand by their class; accents of one
  class keep their order.
-/
def orderMarks : List Element → List Element
| [] => []
| e :: rest =>
    if e.markClass == 0 then e :: orderMarks rest
    else insertMark e (orderMarks rest)

end Timetable.Text
