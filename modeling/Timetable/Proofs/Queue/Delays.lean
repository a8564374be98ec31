import Mathlib.Algebra.Order.Ring.Int
import Mathlib.Tactic.Ring
import Timetable.Queue.Basic

/-
  This file says how long failed jobs wait.  The delay is
  doubled in 64 bits, and yet it is what doubling without a
  bound on the numbers gives: only a delay below the greatest
  one is doubled, and the limits of a queue leave room for
  that.

  Key definitions include:
    * `HasRoom`

  Main theorems include:
    * `HasRoom.double`
    * `HasRoom.doubled`
    * `min_doubled`
    * `hasRoom_ofFigures`
    * `backoff_exact`
-/

namespace Timetable.Queue

------------------------------------------------------------
-- Doubling in 64 Bits
------------------------------------------------------------

/- A product that fits into 64 bits is exact. -/
theorem toInt_mul_of_fits
    {a b : Int64}
    (hNonneg : 0 ≤ a.toInt * b.toInt)
    (hFits : a.toInt * b.toInt < 2 ^ 63) :
    (a * b).toInt = a.toInt * b.toInt := by
  rw [Int64.toInt_mul]
  apply Int.bmod_eq_of_le_mul_two <;> omega

/-
  A delay can be doubled until it reaches the greatest one:
  whichever power of two it was multiplied with before, what
  is still below the greatest one fits when it is doubled.
-/
structure HasRoom (greatest delay : Int64) : Prop where
  positive : 0 < delay.toInt
  fits :
    ∀ n : Nat,
      delay.toInt * 2 ^ n < greatest.toInt →
        delay.toInt * 2 ^ (n + 1) < 2 ^ 63

/- Below the greatest delay doubling is exact, and leaves room. -/
theorem HasRoom.double
    {greatest delay : Int64}
    (h : HasRoom greatest delay)
    (hBelow : delay < greatest) :
    (delay * 2).toInt = delay.toInt * 2 ∧
      HasRoom greatest (delay * 2) := by
  have hPositive := h.positive
  have hFits : delay.toInt * 2 < 2 ^ 63 := by
    have hOnce := h.fits 0
    simp only [pow_zero, mul_one, zero_add, pow_one] at hOnce
    exact hOnce (Int64.lt_iff_toInt_lt.mp hBelow)
  have hExact : (delay * 2).toInt = delay.toInt * 2 :=
    toInt_mul_of_fits (show 0 ≤ delay.toInt * 2 by omega) hFits
  refine ⟨hExact, by omega, ?_⟩
  intro n hSmall
  have hShift :
      ∀ k : Nat, (delay * 2).toInt * 2 ^ k = delay.toInt * 2 ^ (k + 1) := by
    intro k
    rw [hExact]
    ring
  rw [hShift] at hSmall ⊢
  exact h.fits (n + 1) hSmall

/- There is room at all times. -/
theorem HasRoom.doubled
    {greatest delay : Int64}
    (h : HasRoom greatest delay)
    (n : Nat) :
    HasRoom greatest (doubled greatest n delay) := by
  induction n generalizing delay with
  | zero => exact h
  | succ n ih =>
      unfold Queue.doubled
      split
      · rename_i hBelow
        exact ih (h.double hBelow).2
      · exact h

/- One more round doubles what the rounds before have made, if it is below the greatest delay. -/
theorem doubled_succ
    (greatest delay : Int64)
    (n : Nat) :
    doubled greatest (n + 1) delay =
      if doubled greatest n delay < greatest then
        doubled greatest n delay * 2
      else doubled greatest n delay := by
  induction n generalizing delay with
  | zero => rfl
  | succ n ih =>
      rw [doubled]
      split
      · rename_i hBelow
        rw [ih, doubled, if_pos hBelow]
      · rename_i hReached
        rw [doubled, if_neg hReached, if_neg hReached]

/- Up to the greatest delay the rounds multiply by a power of two. -/
theorem min_doubled
    {greatest delay : Int64}
    (h : HasRoom greatest delay)
    (n : Nat) :
    min (doubled greatest n delay).toInt greatest.toInt =
      min (delay.toInt * 2 ^ n) greatest.toInt := by
  induction n generalizing delay with
  | zero => rw [doubled, pow_zero, mul_one]
  | succ n ih =>
      rw [doubled]
      split
      · rename_i hBelow
        rcases h.double hBelow with ⟨hExact, hRoom⟩
        rw [ih hRoom, hExact]
        congr 1
        ring
      · rename_i hReached
        have hGreatest : greatest.toInt ≤ delay.toInt :=
          Int64.le_iff_toInt_le.mp (Int64.not_lt.mp hReached)
        have hMore : delay.toInt ≤ delay.toInt * 2 ^ (n + 1) :=
          le_mul_of_one_le_right h.positive.le (one_le_pow₀ one_le_two)
        rw [min_eq_right hGreatest, min_eq_right (hGreatest.trans hMore)]

------------------------------------------------------------
-- The Limits of a Queue
------------------------------------------------------------

section Figures

variable
  {workers capacity maxRetries : Int}
  {retryDelay maxRetryDelay drainTimeout : Int64}
  {l : Limits}

/- The first delay is positive, and 32 times as much fits. -/
theorem firstDelay_range
    (hLimits :
      l =
        Limits.ofFigures workers capacity maxRetries retryDelay
          maxRetryDelay drainTimeout)
    (hFirst : 32 * retryDelay.toInt < 2 ^ 63) :
    0 < l.retryDelay.toInt ∧ 32 * l.retryDelay.toInt < 2 ^ 63 := by
  have hDelay : l.retryDelay = durationOr secondNanos retryDelay := by
    rw [hLimits]
    rfl
  rw [hDelay]
  unfold durationOr
  split
  · rename_i hPositive
    exact ⟨Int64.lt_iff_toInt_lt.mp hPositive, hFirst⟩
  · decide

/- The greatest delay is the one asked for, or 32 times the first one. -/
theorem greatestDelay_exact
    (hLimits :
      l =
        Limits.ofFigures workers capacity maxRetries retryDelay
          maxRetryDelay drainTimeout)
    (hFirst : 32 * retryDelay.toInt < 2 ^ 63) :
    l.maxRetryDelay.toInt =
      if maxRetryDelay.toInt < l.retryDelay.toInt then
        32 * l.retryDelay.toInt
      else maxRetryDelay.toInt := by
  rcases firstDelay_range hLimits hFirst with ⟨hPositive, hFits⟩
  have hDelay :
      l.maxRetryDelay =
        if maxRetryDelay < l.retryDelay then l.retryDelay * 32
        else maxRetryDelay := by
    rw [hLimits]
    rfl
  have hFactor : (32 : Int64).toInt = 32 := rfl
  rw [hDelay]
  simp only [Int64.lt_iff_toInt_lt]
  split
  · rw [mul_comm 32, ← hFactor]
    apply toInt_mul_of_fits <;> rw [hFactor] <;> omega
  · rfl

/- The greatest delay is not below the first one. -/
theorem firstDelay_le
    (hLimits :
      l =
        Limits.ofFigures workers capacity maxRetries retryDelay
          maxRetryDelay drainTimeout)
    (hFirst : 32 * retryDelay.toInt < 2 ^ 63) :
    l.retryDelay.toInt ≤ l.maxRetryDelay.toInt := by
  have hPositive := (firstDelay_range hLimits hFirst).1
  rw [greatestDelay_exact hLimits hFirst]
  split <;> omega

/- The first delay can be doubled until it reaches the greatest one. -/
theorem hasRoom_ofFigures
    (hLimits :
      l =
        Limits.ofFigures workers capacity maxRetries retryDelay
          maxRetryDelay drainTimeout)
    (hFirst : 32 * retryDelay.toInt < 2 ^ 63)
    (hGreatest : 2 * maxRetryDelay.toInt < 2 ^ 63) :
    HasRoom l.maxRetryDelay l.retryDelay := by
  rcases firstDelay_range hLimits hFirst with ⟨hPositive, hFits⟩
  refine ⟨hPositive, ?_⟩
  intro n hBelow
  rw [greatestDelay_exact hLimits hFirst] at hBelow
  split at hBelow
  · -- 32 is the fifth power of two, so that fewer than five doublings stay below
    have hPower : (2 : Int) ^ n < 2 ^ 5 := by
      rw [mul_comm] at hBelow
      exact lt_of_mul_lt_mul_right hBelow hPositive.le
    have hFew : n < 5 := (pow_lt_pow_iff_right₀ one_lt_two).mp hPower
    have hNext : (2 : Int) ^ (n + 1) ≤ 2 ^ 5 :=
      pow_le_pow_right₀ one_le_two hFew
    calc
      l.retryDelay.toInt * 2 ^ (n + 1) ≤ l.retryDelay.toInt * 2 ^ 5 :=
        mul_le_mul_of_nonneg_left hNext hPositive.le
      _ = 32 * l.retryDelay.toInt := by ring
      _ < 2 ^ 63 := hFits
  · calc
      l.retryDelay.toInt * 2 ^ (n + 1) =
          2 * (l.retryDelay.toInt * 2 ^ n) := by ring
      _ < 2 * maxRetryDelay.toInt := by omega
      _ < 2 ^ 63 := hGreatest

end Figures

------------------------------------------------------------
-- Delays
------------------------------------------------------------

/- A job waits for the doubled delay, at most for the greatest one. -/
theorem toInt_backoff
    (l : Limits)
    (n : Nat) :
    (l.backoff (n + 1)).toInt =
      min (doubled l.maxRetryDelay n l.retryDelay).toInt
        l.maxRetryDelay.toInt := by
  unfold Limits.backoff
  rw [Nat.add_sub_cancel]
  simp only [Int64.lt_iff_toInt_lt]
  split
  · rename_i hAbove
    rw [min_eq_right hAbove.le]
  · rename_i hWithin
    rw [min_eq_left (not_lt.mp hWithin)]

/-
  Let 32 times the first delay and twice the greatest delay
  of a configuration fit into 64 bits.  In a queue with its
  limits attempt `n + 1` waits for the first delay, doubled
  `n` times without a bound on the numbers, and at most for
  the greatest delay.  This is positive, never more than the
  greatest delay, and never less for a later attempt.

  On the way no number overflows: neither where the greatest
  delay is made from the first one, nor in a round of the
  doubling.
-/
theorem backoff_exact
    (name : String)
    (workers capacity maxRetries : Int)
    (retryDelay maxRetryDelay drainTimeout : Int64)
    (hFirst : 32 * retryDelay.toInt < 2 ^ 63)
    (hGreatest : 2 * maxRetryDelay.toInt < 2 ^ 63) :
    let l :=
      (Queue.new name
        (Limits.ofFigures workers capacity maxRetries retryDelay
          maxRetryDelay drainTimeout)).limits
    (∀ n : Nat,
      (l.backoff (n + 1)).toInt =
          min (l.retryDelay.toInt * 2 ^ n) l.maxRetryDelay.toInt ∧
        0 < l.backoff (n + 1) ∧
        l.backoff (n + 1) ≤ l.maxRetryDelay ∧
        ∀ m, n ≤ m → l.backoff (n + 1) ≤ l.backoff (m + 1)) ∧
      (l.maxRetryDelay.toInt =
        if maxRetryDelay.toInt < l.retryDelay.toInt then
          32 * l.retryDelay.toInt
        else maxRetryDelay.toInt) ∧
      ∀ n : Nat,
        (doubled l.maxRetryDelay (n + 1) l.retryDelay).toInt =
          if (doubled l.maxRetryDelay n l.retryDelay).toInt <
              l.maxRetryDelay.toInt then
            2 * (doubled l.maxRetryDelay n l.retryDelay).toInt
          else (doubled l.maxRetryDelay n l.retryDelay).toInt := by
  intro l
  have hRoom : HasRoom l.maxRetryDelay l.retryDelay :=
    hasRoom_ofFigures rfl hFirst hGreatest
  have hOrdered : l.retryDelay.toInt ≤ l.maxRetryDelay.toInt :=
    firstDelay_le rfl hFirst
  have hExact :
      ∀ n : Nat,
        (l.backoff (n + 1)).toInt =
          min (l.retryDelay.toInt * 2 ^ n) l.maxRetryDelay.toInt :=
    fun n => (toInt_backoff l n).trans (min_doubled hRoom n)
  refine ⟨?_, greatestDelay_exact rfl hFirst, ?_⟩
  · intro n
    refine ⟨hExact n, ?_, ?_, ?_⟩
    · rw [Int64.lt_iff_toInt_lt, hExact]
      have hPower : (0 : Int) < 2 ^ n := pow_pos two_pos n
      exact lt_min (mul_pos hRoom.positive hPower)
        (hRoom.positive.trans_le hOrdered)
    · rw [Int64.le_iff_toInt_le, hExact]
      exact min_le_right _ _
    · intro m hLater
      rw [Int64.le_iff_toInt_le, hExact, hExact]
      have hPowers : (2 : Int) ^ n ≤ 2 ^ m :=
        pow_le_pow_right₀ one_le_two hLater
      exact min_le_min_right _
        (mul_le_mul_of_nonneg_left hPowers hRoom.positive.le)
  · intro n
    rw [doubled_succ]
    simp only [Int64.lt_iff_toInt_lt]
    split
    · rename_i hBelow
      have hDouble :=
        (hRoom.doubled n).double (Int64.lt_iff_toInt_lt.mpr hBelow)
      rw [hDouble.1, mul_comm]
    · rfl

/-
  The longest first delay whose 32-fold fits: the sixth
  attempt waits for the greatest delay, and so does the
  hundredth.
-/
theorem backoff_exact_of_long_delays :
    let l :=
      (Queue.new "dates"
        (Limits.ofFigures 1 1 1 288230376151711743 0 0)).limits
    (l.backoff 5).toInt = 4611686018427387888 ∧
      (l.backoff 6).toInt = 9223372036854775776 ∧
      (l.backoff 100).toInt = 9223372036854775776 := by
  intro l
  have hAll :=
    (backoff_exact "dates" 1 1 1 288230376151711743 0 0 (by decide)
      (by decide)).1
  exact ⟨(hAll 4).1, (hAll 5).1, (hAll 99).1⟩

end Timetable.Queue
