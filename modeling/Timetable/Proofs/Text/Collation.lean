import Timetable.Text.Collation.Level

/-
  This file shows that a collator that compares by levels
  orders texts: whatever the locale and its settings, comparing
  two texts one way tells how they compare the other way, and
  no three texts form a ring.  Weights are compared as
  sequences, and keys as a sequence of such comparisons, so it
  comes down to numbers.

  Main statements include:
    * `compareWeights_eq_compareLex`
    * `CollationKey.compare_eq_compareLex`
    * `Collator.ByLevels.transCmp`
-/

namespace Timetable.Text

------------------------------------------------------------
-- Comparing by a Key
------------------------------------------------------------

/- What is compared by a key is in order when the keys are. -/
theorem transCmp_of_key
    {α β : Type}
    (cmp : β → β → Ordering)
    [hKeys : Std.TransCmp cmp]
    (key : α → β) :
    Std.TransCmp (fun a b => cmp (key a) (key b)) where
  eq_swap := hKeys.eq_swap
  isLE_trans := hKeys.isLE_trans

------------------------------------------------------------
-- Weights
------------------------------------------------------------

/- Weights are compared like the words of a dictionary. -/
theorem compareWeights_eq_compareLex
    (first second : List Nat) :
    compareWeights first second =
      List.compareLex Ord.compare first second := by
  induction first generalizing second with
  | nil =>
      cases second with
      | nil => rfl
      | cons b bs => rfl
  | cons a as ih =>
      cases second with
      | nil => rfl
      | cons b bs =>
          rw [compareWeights, List.compareLex_cons_cons, ih]
          rcases Nat.lt_trichotomy a b with hLess | rfl | hMore
          · rw [if_pos hLess, Nat.compare_eq_lt.mpr hLess]
            rfl
          · rw [if_neg (Nat.lt_irrefl a), if_neg (Nat.lt_irrefl a),
              Nat.compare_eq_eq.mpr rfl]
            rfl
          · rw [if_neg (Nat.lt_asymm hMore), if_pos hMore,
              Nat.compare_eq_gt.mpr hMore]
            rfl

instance transCmp_compareWeights :
    Std.TransCmp compareWeights := by
  have hSame :
      compareWeights = List.compareLex (α := Nat) Ord.compare := by
    funext first second
    exact compareWeights_eq_compareLex first second
  rw [hSame]
  infer_instance

------------------------------------------------------------
-- Texts
------------------------------------------------------------

/- Keys are compared by letters, then by accents, then by characters. -/
theorem CollationKey.compare_eq_compareLex :
    CollationKey.compare =
      compareLex (fun a b => compareWeights a.primary b.primary)
        (compareLex (fun a b => compareWeights a.secondary b.secondary)
          (fun a b => compareWeights a.identity b.identity)) :=
  rfl

/- Keys are in order, as their weights are. -/
instance transCmp_collationKey :
    Std.TransCmp CollationKey.compare := by
  have hPrimary := transCmp_of_key compareWeights CollationKey.primary
  have hSecondary := transCmp_of_key compareWeights CollationKey.secondary
  have hIdentity := transCmp_of_key compareWeights CollationKey.identity
  rw [CollationKey.compare_eq_compareLex]
  infer_instance

/- A collator that compares by levels puts texts in order, whatever the locale. -/
theorem Collator.ByLevels.transCmp
    {c : Collator}
    {elements : Locale → String → List Element}
    (h : c.ByLevels elements)
    (l : Locale) :
    Std.TransCmp (c.compare l) := by
  have hKeys :
      c.compare l =
        fun a b =>
          (collationKey l (elements l a) a).compare
            (collationKey l (elements l b) b) := by
    funext a b
    exact h.compare_eq l a b
  rw [hKeys]
  exact transCmp_of_key CollationKey.compare
    (fun s => collationKey l (elements l s) s)

end Timetable.Text
