import Timetable.Decimal.Shortest

/-
  This file finds the binary64 value that is nearest to a
  quotient of natural numbers.  The search works on whole
  numbers, so it needs no floating-point operation.

  Key definitions include:
    * `binaryScale`
    * `spacing`
    * `nearestBits`
    * `nearest`
-/

namespace Timetable.Decimal

------------------------------------------------------------
-- Rounding to Binary64
------------------------------------------------------------

/-
  The `k` with `2 ^ k ≤ num / den < 2 ^ (k + 1)`.  The binary
  logarithms give an estimate that is at most one too large.
-/
def binaryScale
    (num den : Nat) : Int :=
  let estimate : Int := (num.log2 : Int) - (den.log2 : Int)
  if den * Nat.pow 2 estimate.toNat ≤ num * Nat.pow 2 (-estimate).toNat then
    estimate
  else
    estimate - 1

/-
  Values of the size of `num / den` are multiples of two to
  this power: they have 53 binary digits, but none of them
  stands behind the place of the smallest value.
-/
def spacing
    (num den : Nat) : Int :=
  max (binaryScale num den - 52) (-1074)

/- The bits of infinity. -/
def infiniteBits : Nat :=
  0x7FF0000000000000

/-
  The bits of the value nearest to `num / den`, a tie going
  to the even mantissa.  A mantissa that is rounded up to 54
  digits is carried into the exponent, and what is too large
  is infinite.
-/
def nearestBits
    (num den : Nat) : Nat :=
  if num == 0 then 0
  else
    let grid := spacing num den
    let mantissa :=
      roundDivEven (num * Nat.pow 2 (-grid).toNat) (den * Nat.pow 2 grid.toNat)
    min ((grid + 1074).toNat * Nat.pow 2 52 + mantissa) infiniteBits

/- The value nearest to `num / den`. -/
def nearest
    (num den : Nat) : Float :=
  .ofBits (.ofNat (nearestBits num den))

end Timetable.Decimal
