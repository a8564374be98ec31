import Timetable.World.Act

/-
  This file shows that the source of ids never hands out an
  id twice: the number of an id can be read back from it.

  Correctness is proven by:
    * `Act.idOfNumber_inj`
    * `Act.idOfNumber_ne_empty`
-/

namespace Timetable

namespace Act

------------------------------------------------------------
-- Reading Numbers Back
------------------------------------------------------------

/- The number that a hexadecimal digit stands for. -/
private def digitValue (c : Char) : Nat :=
  ((List.range 16).map Nat.digitChar).idxOf c

/- The number that hexadecimal digits stand for. -/
private def readDigits (digits : List Char) : Nat :=
  digits.foldl (fun n c => 16 * n + digitValue c) 0

private theorem digitValue_digitChar
    {n : Nat}
    (hn : n < 16) :
    digitValue (Nat.digitChar n) = n := by
  have hAll :
      ∀ i : Fin 16,
        digitValue (Nat.digitChar i.1) = i.1 := by
    decide
  exact hAll ⟨n, hn⟩

private theorem readDigits_append_digitChar
    (digits : List Char)
    {d : Nat}
    (hd : d < 16) :
    readDigits (digits ++ [Nat.digitChar d]) =
      16 * readDigits digits + d := by
  simp [readDigits, digitValue_digitChar hd]

/- Zeros in front do not count. -/
private theorem readDigits_replicate_append
    (k : Nat)
    (digits : List Char) :
    readDigits (List.replicate k '0' ++ digits) =
      readDigits digits := by
  induction k with
  | zero => rfl
  | succ k ih =>
      have hZero : digitValue '0' = 0 := by
        decide
      rw [← ih, List.replicate_succ, List.cons_append]
      simp [readDigits, hZero]

private theorem readDigits_toDigits
    (n : Nat) :
    readDigits (Nat.toDigits 16 n) = n := by
  induction n using Nat.strongRecOn with
  | ind n ih =>
      rw [Nat.toDigits_eq_if (by decide)]
      split
      · next hn =>
          simp [readDigits, digitValue_digitChar hn]
      · next hn =>
          rw [readDigits_append_digitChar _
              (Nat.mod_lt n (by decide)),
            ih (n / 16) (by omega)]
          omega

------------------------------------------------------------
-- Ids
------------------------------------------------------------

/- The number of an id can be read from its digits. -/
private theorem readDigits_twelveDigits
    (n : Nat) :
    readDigits (twelveDigits n).toList = n := by
  simp only [twelveDigits, String.toList_ofList,
    readDigits_replicate_append, readDigits_toDigits]

/- Ids of different numbers differ. -/
theorem idOfNumber_inj
    {m n : Nat} :
    idOfNumber m = idOfNumber n ↔ m = n := by
  constructor
  · intro h
    have hDigits : twelveDigits m = twelveDigits n :=
      (String.append_right_inj _).mp h
    rw [← readDigits_twelveDigits m, hDigits,
      readDigits_twelveDigits n]
  · rintro rfl
    rfl

/- No id is the empty text. -/
theorem idOfNumber_ne_empty
    (n : Nat) :
    idOfNumber n ≠ "" := by
  intro h
  have hMark := (String.append_eq_empty_iff.mp h).1
  exact absurd hMark (by decide)

end Act

end Timetable
