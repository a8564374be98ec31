import Timetable.Decimal.Reading
import Timetable.Decimal.Shortest

/-
  This file drops the fraction of a number.

  Key definitions include:
    * `wholePart`
-/

namespace Timetable.Decimal

------------------------------------------------------------
-- Whole Parts
------------------------------------------------------------

/-
  The whole part of a number as a 64-bit integer; the
  smallest one stands for all that do not fit.
-/
def wholePart (x : Float) : Int :=
  if Float.abs x < 9223372036854775808.0 then
    let size := Dyadic.ofBits x.toBits
    let whole : Int :=
      if 0 ≤ size.exponent then size.mantissa * Nat.pow 2 size.exponent.toNat
      else size.mantissa / Nat.pow 2 size.exponent.natAbs
    if x < 0 then -whole else whole
  else minInt64

end Timetable.Decimal
