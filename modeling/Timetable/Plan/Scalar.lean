import Timetable.Decimal.Reading
import Timetable.Decimal.Shortest

/-
  This file gives the arithmetic that planning uses.  The
  program plans with binary64 numbers; the same definitions
  read over the rationals are the ideal that they round.

  Key definitions include:
    * `Scalar`
    * `Scalar.sum`
    * `instance : Scalar Float`
    * `instance : Scalar Rat`
-/

namespace Timetable

------------------------------------------------------------
-- The Interface
------------------------------------------------------------

/-
  Numbers that minutes and hours are measured in.  `decimal
  n k` is `n` with its last `k` digits behind the point, and
  `roundHalfAway` rounds to the nearest whole number, halves
  going away from zero.
-/
class Scalar (α : Type) extends Add α, Mul α, Div α, LE α, LT α where
  ofInt : Int → α
  decimal : Nat → Nat → α
  roundHalfAway : α → α
  ceiling : α → Int
  decideLE : (a b : α) → Decidable (a ≤ b)
  decideLT : (a b : α) → Decidable (a < b)

instance Scalar.decidableLE
    {α : Type}
    [Scalar α]
    (a b : α) : Decidable (a ≤ b) :=
  Scalar.decideLE a b

instance Scalar.decidableLT
    {α : Type}
    [Scalar α]
    (a b : α) : Decidable (a < b) :=
  Scalar.decideLT a b

namespace Scalar

variable {α : Type} [Scalar α]

/- Zero. -/
def zero : α :=
  ofInt 0

/- The sum of a list, added from the left. -/
def sum (xs : List α) : α :=
  xs.foldl (· + ·) zero

end Scalar

------------------------------------------------------------
-- Binary64 Numbers
------------------------------------------------------------

/- A quotient of naturals rounded up. -/
private def ceilDiv (num den : Nat) : Nat :=
  (num + (den - 1)) / den

/- Whether the sign bit of a number is set. -/
private def negativeBit (x : Float) : Bool :=
  (x.toBits >>> 63) == 1

/- The exact size of a finite number as a quotient of naturals. -/
private def exactSize (x : Float) : Nat × Nat :=
  let d := Decimal.Dyadic.ofBits x.toBits
  (d.mantissa * Nat.pow 2 d.exponent.toNat, Nat.pow 2 (-d.exponent).toNat)

/-
  The least whole number that is not below a number, as a
  64-bit integer; the smallest one stands for all that do
  not fit.
-/
def floatCeiling (x : Float) : Int :=
  if x.isNaN || x.isInf then
    Decimal.minInt64
  else
    let (num, den) := exactSize x
    let n : Int :=
      if negativeBit x then -((num / den : Nat) : Int)
      else ((ceilDiv num den : Nat) : Int)
    (Decimal.int64? n).getD Decimal.minInt64

/- The nearest whole number, halves going away from zero. -/
def floatRound (x : Float) : Float :=
  if x.isNaN || x.isInf then
    x
  else
    let (num, den) := exactSize x
    let n := Float.ofScientific ((2 * num + den) / (2 * den)) false 0
    if negativeBit x then -n else n

instance : Scalar Float where
  ofInt n := Float.ofInt n
  decimal n k := Float.ofScientific n true k
  roundHalfAway := floatRound
  ceiling := floatCeiling
  decideLE a b := inferInstanceAs (Decidable (a ≤ b))
  decideLT a b := inferInstanceAs (Decidable (a < b))

------------------------------------------------------------
-- Rational Numbers
------------------------------------------------------------

/- The nearest whole number, halves going away from zero. -/
def ratRound (x : Rat) : Rat :=
  if x < 0 then -(((-x + 1 / 2).floor : Int) : Rat)
  else (((x + 1 / 2).floor : Int) : Rat)

instance : Scalar Rat where
  ofInt n := (n : Rat)
  decimal n k := (n : Rat) / ((Nat.pow 10 k : Nat) : Rat)
  roundHalfAway := ratRound
  ceiling := Rat.ceil
  decideLE a b := inferInstanceAs (Decidable (a ≤ b))
  decideLT a b := inferInstanceAs (Decidable (a < b))

end Timetable
