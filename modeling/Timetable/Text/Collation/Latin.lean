import Timetable.Text.Collation.Tailoring

/-
  This file defines a collator for texts in Latin letters,
  which compares by levels.  The service works with any
  collator; this is the one that it has unless it is given
  another one.

  Key definitions include:
    * `Tailoring.elements`
    * `Collator.latin`
-/

namespace Timetable.Text

------------------------------------------------------------
-- Elements of a Text
------------------------------------------------------------

/-
  The elements of a run of digits by its value: a mark that
  follows the nine, the number of digits without leading
  zeros, and these digits.
-/
private def numberElements
    (a : Alphabet)
    (run : List Char) : List Element :=
  let digits := run.dropWhile (· == '0')
  let nine := ((a.elements ['9']).head?.map (·.primary)).getD 0
  Element.ofPrimary (nine + 1) :: Element.ofPrimary digits.length ::
    a.elements digits

/- The elements of a text; the first `skip` characters are done with. -/
private def elementsAfter
    (t : Tailoring) :
    Nat → List Char → List Element
| _, [] => []
| skip + 1, _ :: rest => elementsAfter t skip rest
| 0, c :: rest =>
    if t.numeric && c.isDigit then
      let more := rest.takeWhile Char.isDigit
      numberElements t.alphabet (c :: more) ++ elementsAfter t more.length rest
    else
      let (found, count) := t.alphabet.step (c :: rest)
      found ++ elementsAfter t (count - 1) rest

/- The elements of a text. -/
def Tailoring.elements
    (t : Tailoring)
    (s : String) : List Element :=
  if t.weighs then orderMarks (elementsAfter t 0 s.toList) else []

------------------------------------------------------------
-- The Collator
------------------------------------------------------------

/- Compares texts by the alphabets of languages in Latin letters. -/
def Collator.latin : Collator where
  compare l :=
    let t := Tailoring.ofLocale l
    fun a b =>
      (collationKey l (t.elements a) a).compare
        (collationKey l (t.elements b) b)

theorem Collator.latin_byLevels :
    Collator.latin.ByLevels
      (fun l => (Tailoring.ofLocale l).elements) where
  compare_eq _ _ _ := rfl

end Timetable.Text
