/-
  This file selects the decimal digits that stand for a
  binary64 value.  The selection works on the exact value
  of the bits, so it needs no floating-point operation.

  Key definitions include:
    * `Dyadic`
    * `Dyadic.ofBits`
    * `Coefficient`
    * `Dyadic.readsBack`
    * `Dyadic.scale`
    * `Dyadic.shortest`
    * `roundDivEven`
-/

namespace Timetable.Decimal

------------------------------------------------------------
-- Exact Binary Values
------------------------------------------------------------

/-
  A finite non-negative binary64 value: `mantissa * 2 ^ exponent`.
  `narrowBelow` holds when the gap to the value below is half
  the gap to the value above.
-/
structure Dyadic where
  mantissa : Nat
  exponent : Int
  narrowBelow : Bool
deriving DecidableEq, Repr

/- The exact value of the bits of a finite number, sign dropped. -/
def Dyadic.ofBits (bits : UInt64) : Dyadic :=
  let biased := ((bits >>> 52) &&& 0x7FF).toNat
  let fraction := (bits &&& 0xFFFFFFFFFFFFF).toNat
  if biased == 0 then
    ⟨fraction, -1074, false⟩
  else
    ⟨Nat.pow 2 52 + fraction, (biased : Int) - 1075,
      fraction == 0 && decide (1 < biased)⟩

/- The decimal number `digits * 10 ^ exponent`. -/
structure Coefficient where
  digits : Nat
  exponent : Int
deriving DecidableEq, Repr

------------------------------------------------------------
-- Exact Comparison
------------------------------------------------------------

/- Compare `a * 10 ^ i` with `n * 2 ^ j` exactly. -/
def compareScaled
    (a : Nat)
    (i : Int)
    (n : Nat)
    (j : Int) : Ordering :=
  compare
    (a * Nat.pow 10 i.toNat * Nat.pow 2 (-j).toNat)
    (n * Nat.pow 2 j.toNat * Nat.pow 10 (-i).toNat)

/-
  A decimal reads back as `x` when it lies among the reals
  that round to `x`, both ends included exactly when the
  mantissa is even.
-/
def Dyadic.readsBack
    (x : Dyadic)
    (d : Coefficient) : Bool :=
  let low := if x.narrowBelow then 4 * x.mantissa - 1 else 4 * x.mantissa - 2
  let high := 4 * x.mantissa + 2
  let closed := x.mantissa % 2 == 0
  let atLow := compareScaled d.digits d.exponent low (x.exponent - 2)
  let atHigh := compareScaled d.digits d.exponent high (x.exponent - 2)
  (atLow == .gt || (closed && atLow == .eq)) &&
    (atHigh == .lt || (closed && atHigh == .eq))

/-
  The least `k` with `x < 10 ^ k`.  The binary logarithm
  gives an estimate that is off by at most one step, and the
  neighbours of the estimate are tried in order.
-/
def Dyadic.scale (x : Dyadic) : Int :=
  let estimate : Int :=
    (((x.mantissa.log2 : Int) + x.exponent) * 30103) / 100000
  let below (k : Int) : Bool :=
    compareScaled 1 k x.mantissa x.exponent == .gt
  match [estimate - 1, estimate, estimate + 1, estimate + 2].find? below with
  | some k => k
  | none => estimate + 3

------------------------------------------------------------
-- Digit Selection
------------------------------------------------------------

/- `x / 10 ^ k` rounded down, for a grid of step `10 ^ k`. -/
def gridFloor
    (x : Dyadic)
    (k : Int) : Nat :=
  (x.mantissa * Nat.pow 2 x.exponent.toNat * Nat.pow 10 (-k).toNat) /
    (Nat.pow 2 (-x.exponent).toNat * Nat.pow 10 k.toNat)

/-
  The point of the grid with step `10 ^ k` that reads back
  as `x`, the nearer one when both neighbours do, and the
  even one when they are equally near.
-/
def gridPoint
    (x : Dyadic)
    (k : Int) : Option Coefficient :=
  let down := gridFloor x k
  let lower : Coefficient := ⟨down, k⟩
  let upper : Coefficient := ⟨down + 1, k⟩
  match x.readsBack lower, x.readsBack upper with
  | true, false => some lower
  | false, true => some upper
  | false, false => none
  | true, true =>
      match compareScaled (2 * down + 1) k (2 * x.mantissa) x.exponent with
      | .gt => some lower
      | .lt => some upper
      | .eq => some (if down % 2 == 0 then lower else upper)

/- Move trailing zeros of the digits into the exponent. -/
def stripZeros : Nat → Coefficient → Coefficient
  | 0, d => d
  | fuel + 1, d =>
      if d.digits != 0 && d.digits % 10 == 0 then
        stripZeros fuel ⟨d.digits / 10, d.exponent + 1⟩
      else
        d

/- The exact decimal value of `x`. -/
def exactDecimal (x : Dyadic) : Coefficient :=
  if 0 ≤ x.exponent then
    ⟨x.mantissa * Nat.pow 2 x.exponent.toNat, 0⟩
  else
    ⟨x.mantissa * Nat.pow 5 (-x.exponent).toNat, x.exponent⟩

/-
  The decimal with the fewest digits that reads back as `x`.
  Grids of one to seventeen digits are tried in turn; the
  exact value is the answer of last resort.
-/
def Dyadic.shortest (x : Dyadic) : Coefficient :=
  if x.mantissa == 0 then
    ⟨0, 0⟩
  else
    let top := x.scale
    let found :=
      (List.range 17).findSome? (fun i => gridPoint x (top - (i + 1 : Nat)))
    stripZeros 400 (found.getD (exactDecimal x))

------------------------------------------------------------
-- Rounded Quotients
------------------------------------------------------------

/- `num / den` rounded to the nearest natural, a half going to the even one. -/
def roundDivEven
    (num den : Nat) : Nat :=
  let quotient := num / den
  let rest := num % den
  match compare (2 * rest) den with
  | .lt => quotient
  | .gt => quotient + 1
  | .eq => if quotient % 2 == 0 then quotient else quotient + 1

/- `x * 10 ^ places` rounded to the nearest natural, halves to even. -/
def Dyadic.roundPlaces
    (x : Dyadic)
    (places : Nat) : Nat :=
  roundDivEven
    (x.mantissa * Nat.pow 2 x.exponent.toNat * Nat.pow 10 places)
    (Nat.pow 2 (-x.exponent).toNat)

end Timetable.Decimal
