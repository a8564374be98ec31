import Timetable.Decimal.Reading

/-
  This file reads durations such as `1h30m` or `2.5s`.

  Key definitions include:
    * `unitNanos?`
    * `DecimalFraction`
    * `readDuration?`
-/

namespace Timetable.Configuration

------------------------------------------------------------
-- Units
------------------------------------------------------------

/- The length of a unit in nanoseconds. -/
def unitNanos? (unit : List Char) : Option Nat :=
  [("ns", 1), ("us", 1000), ("\u00B5s", 1000), ("\u03BCs", 1000), ("ms", 1000000),
    ("s", 1000000000), ("m", 60000000000), ("h", 3600000000000)].lookup
      (String.ofList unit)

/- No duration is longer than this many nanoseconds, whatever its sign. -/
def durationBound : Nat := 9223372036854775808

------------------------------------------------------------
-- Amounts
------------------------------------------------------------

/-
  A fraction: its digits as a number, and the power of ten
  that they are divided by.  Digits beyond 63 bits are
  dropped.
-/
structure DecimalFraction where
  digits : Nat := 0
  scale : Float := 1
  exhausted : Bool := false

/- Append a digit to a fraction. -/
def DecimalFraction.append
    (f : DecimalFraction)
    (c : Char) : DecimalFraction :=
  let digits := f.digits * 10 + (Decimal.digitValue? 10 c).getD 0
  if f.exhausted then f
  else if (durationBound - 1) / 10 < f.digits || durationBound < digits then
    { f with exhausted := true }
  else { f with digits := digits, scale := f.scale * 10 }

/- An amount of a unit in nanoseconds; what the fraction adds is rounded down. -/
def amountNanos
    (whole : Nat)
    (fraction : DecimalFraction)
    (unit : Nat) : Nat :=
  whole * unit +
    if fraction.digits == 0 then 0
    else (Float.ofNat fraction.digits * (Float.ofNat unit / fraction.scale)).toUInt64.toNat

/- An amount of a unit at the start of a text, and what follows it. -/
def readAmount? (text : List Char) : Option (Nat × List Char) := do
  let isDigit := Decimal.isDigitIn 10
  let whole := text.takeWhile isDigit
  let rest := text.dropWhile isDigit
  let (places, rest) :=
    match rest with
    | '.' :: rest => (rest.takeWhile isDigit, rest.dropWhile isDigit)
    | rest => ([], rest)
  if whole.isEmpty && places.isEmpty then none
  else
    let inUnit := fun c => !(c == '.' || isDigit c)
    let unit ← unitNanos? (rest.takeWhile inUnit)
    let n := Decimal.digitsValue 10 whole
    let nanos := amountNanos n (places.foldl DecimalFraction.append {}) unit
    if durationBound < nanos then none
    else return (nanos, rest.dropWhile inUnit)

/- The sum of the amounts of a text; `n` bounds their number. -/
def sumAmounts? : Nat → List Char → Nat → Option Nat
| _, [], sum => some sum
| 0, _, _ => none
| n + 1, text, sum => do
    let (nanos, rest) ← readAmount? text
    if durationBound < sum + nanos then none
    else sumAmounts? n rest (sum + nanos)

------------------------------------------------------------
-- Durations
------------------------------------------------------------

/-
  Read a duration in nanoseconds: a sign that may be left
  out, and amounts of units.  Only zero needs no unit.
-/
def readDuration? (text : String) : Option Int :=
  let (negative, unsigned) :=
    match text.toList with
    | '-' :: rest => (true, rest)
    | '+' :: rest => (false, rest)
    | rest => (false, rest)
  if unsigned == ['0'] then some 0
  else if unsigned.isEmpty then none
  else do
    let nanos ← sumAmounts? unsigned.length unsigned 0
    if negative then return -(nanos : Int)
    else if nanos < durationBound then return (nanos : Int)
    else none

end Timetable.Configuration
