import Timetable.Text.Blank

/-
  This file reads lists that are written as one text.

  Key definitions include:
    * `words`
    * `wordPairs`
    * `lookup`
-/

namespace Timetable.Text

/- The words of a text, with one space between two of them. -/
def words (s : String) : List String :=
  split ' ' s

/- The words of a text, each of them two parts around a hyphen. -/
def wordPairs (s : String) : List (String × String) :=
  (words s).filterMap fun w =>
    match split '-' w with
    | [a, b] => some (a, b)
    | _ => none

/- What a list of pairs has for a word; any other word stands for itself. -/
def lookup
    (pairs : List (String × String))
    (w : String) : String :=
  ((pairs.find? (fun p => p.1 == w)).map (·.2)).getD w

end Timetable.Text
