import Timetable.Text.Locale.Basic

/-
  This file says what a collator is, and what is relied on of
  one.  A collator is given from outside: it compares texts as
  the dictionaries of a locale order them, and ignores case.

  It does so by levels.  A text is made of elements, and which
  ones is up to the collator and the locale.  Texts compare by
  the primary weights of their elements first, and by the
  secondary weights when those agree.

  Key definitions include:
    * `Collator`
    * `Element`
    * `CollationKey`
    * `collationKey`
    * `compareWeights`
    * `CollationKey.compare`
    * `Collator.ByLevels`
-/

namespace Timetable.Text

------------------------------------------------------------
-- Collators
------------------------------------------------------------

/- Compares texts in a locale. -/
structure Collator where
  compare : Locale → String → String → Ordering

------------------------------------------------------------
-- Elements
------------------------------------------------------------

/-
  A weight in the comparison of texts.  The primary weight
  tells letters apart, and is zero for an accent; the
  secondary weight tells accents apart.  The class of an
  accent is where it stands at its letter.
-/
structure Element where
  primary : Nat
  secondary : Nat
  markClass : Nat := 0
deriving DecidableEq, Repr

/- The weights of elements on one level; zero does not count. -/
def weightsOn
    (level : Element → Nat)
    (elements : List Element) : List Nat :=
  (elements.map level).filter (· != 0)

------------------------------------------------------------
-- Keys
------------------------------------------------------------

/- What two texts are compared by. -/
structure CollationKey where
  primary : List Nat
  secondary : List Nat
  identity : List Nat
deriving DecidableEq, Repr

/-
  The key of a text in a locale, from its elements.  Settings
  of the locale say whether accents count, whether they are
  compared from the end, and whether texts that are alike are
  told apart by their characters.
-/
def collationKey
    (l : Locale)
    (elements : List Element)
    (s : String) : CollationKey :=
  let accents := weightsOn (·.secondary) elements
  { primary := weightsOn (·.primary) elements
    secondary :=
      if l.setting "ks" == "level1" then []
      else if l.setting "kb" == "true" then accents.reverse
      else accents
    identity :=
      if l.setting "ks" == "identic" then s.toList.map Char.toNat else [] }

/- Compare two sequences of weights; one that starts another comes first. -/
def compareWeights : List Nat → List Nat → Ordering
| [], [] => .eq
| [], _ :: _ => .lt
| _ :: _, [] => .gt
| a :: as, b :: bs =>
    if a < b then .lt
    else if b < a then .gt
    else compareWeights as bs

/- Compare two keys: letters first, then accents. -/
def CollationKey.compare (a b : CollationKey) : Ordering :=
  (compareWeights a.primary b.primary).then
    ((compareWeights a.secondary b.secondary).then
      (compareWeights a.identity b.identity))

------------------------------------------------------------
-- What Is Relied On
------------------------------------------------------------

/-
  A collator compares by levels, if in every locale texts
  compare as the keys that they have there.
-/
structure Collator.ByLevels
    (c : Collator)
    (elements : Locale → String → List Element) : Prop where
  compare_eq :
    ∀ (l : Locale) (a b : String),
      c.compare l a b =
        (collationKey l (elements l a) a).compare
          (collationKey l (elements l b) b)

end Timetable.Text
