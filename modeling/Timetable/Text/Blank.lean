/-
  This file defines white space in text, and trimming.

  Key definitions include:
    * `blankRanges`
    * `isBlank`
    * `trim`
-/

namespace Timetable.Text

------------------------------------------------------------
-- White Space
------------------------------------------------------------

/- The characters with the Unicode property White_Space, as closed ranges. -/
def blankRanges : List (Nat × Nat) :=
  [(0x09, 0x0D), (0x20, 0x20), (0x85, 0x85), (0xA0, 0xA0),
    (0x1680, 0x1680), (0x2000, 0x200A), (0x2028, 0x2029),
    (0x202F, 0x202F), (0x205F, 0x205F), (0x3000, 0x3000)]

/- A character is white space. -/
def isBlank (c : Char) : Bool :=
  blankRanges.any (fun r => decide (r.1 ≤ c.toNat ∧ c.toNat ≤ r.2))

/- Drop the elements at both ends of a list that satisfy `p`. -/
def trimList
    {α : Type}
    (p : α → Bool)
    (xs : List α) : List α :=
  ((xs.dropWhile p).reverse.dropWhile p).reverse

/- Drop the white space at both ends of a text. -/
def trim (s : String) : String :=
  String.ofList (trimList isBlank s.toList)

/- Drop every trailing occurrence of a character. -/
def trimRight
    (mark : Char)
    (s : String) : String :=
  String.ofList (s.toList.reverse.dropWhile (· == mark)).reverse

------------------------------------------------------------
-- Splitting
------------------------------------------------------------

/- The parts of a list between the occurrences of a separator. -/
def splitOnChar
    (separator : Char) : List Char → List (List Char)
| [] => [[]]
| c :: rest =>
    match splitOnChar separator rest with
    | [] => [[c]]
    | part :: parts =>
        if c == separator then [] :: part :: parts
        else (c :: part) :: parts

/- The parts of a text between the occurrences of a separator. -/
def split
    (separator : Char)
    (s : String) : List String :=
  (splitOnChar separator s.toList).map String.ofList

/- Whether one list of characters starts with another, and what follows. -/
def afterStart? : List Char → List Char → Option (List Char)
| [], text => some text
| _ :: _, [] => none
| p :: ps, c :: rest => if p == c then afterStart? ps rest else none

end Timetable.Text
