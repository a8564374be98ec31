import Timetable.Decimal.Shortest

/-
  This file lays out selected digits as text.  A `Layout`
  holds the decisions of one output format; the formats of
  the program are values of it.

  Key definitions include:
    * `Layout`
    * `Layout.render`
    * `fixed`
    * `Layout.json`
    * `Layout.sample`
-/

namespace Timetable.Decimal

------------------------------------------------------------
-- Layout Decisions
------------------------------------------------------------

/-
  The decisions of a number format.  An exponent `e` of the
  leading digit with `plainFrom ≤ e < plainBelow` is written
  positionally; any other exponent is written after the
  digits with at least `exponentWidth` digits of its own.
-/
structure Layout where
  plainFrom : Int
  plainBelow : Int
  exponentWidth : Nat
  notANumber : String
  infinite : String
deriving DecidableEq, Repr

/- Pad a text on the left with zeros. -/
def padZeros
    (width : Nat)
    (s : String) : String :=
  String.ofList (List.replicate (width - s.length) '0') ++ s

/- Digits of a number with the point after the first `whole` of them. -/
def pointed
    (digits : String)
    (whole : Int) : String :=
  let count : Int := digits.length
  if whole ≤ 0 then
    "0." ++ String.ofList (List.replicate (-whole).toNat '0') ++ digits
  else if count ≤ whole then
    digits ++ String.ofList (List.replicate (whole - count).toNat '0')
  else
    String.ofList (digits.toList.take whole.toNat) ++ "." ++
      String.ofList (digits.toList.drop whole.toNat)

/- Scientific form: one digit, the point, the other digits, the exponent. -/
def scientific
    (l : Layout)
    (digits : String)
    (exponent : Int) : String :=
  let mark := if exponent < 0 then "e-" else "e+"
  pointed digits 1 ++ mark ++ padZeros l.exponentWidth (toString exponent.natAbs)

/- Lay out a non-negative decimal. -/
def Layout.unsigned
    (l : Layout)
    (d : Coefficient) : String :=
  if d.digits == 0 then
    "0"
  else
    let digits := toString d.digits
    let exponent : Int := d.exponent + (digits.length : Int) - 1
    if l.plainFrom ≤ exponent ∧ exponent < l.plainBelow then
      pointed digits (exponent + 1)
    else
      scientific l digits exponent

/- The sign bit of a number, which a zero has too. -/
def signBit (x : Float) : Bool :=
  (x.toBits >>> 63) == 1

/- The text of a number in a layout, with the fewest digits that read back. -/
def Layout.render
    (l : Layout)
    (x : Float) : String :=
  if x.isNaN then
    l.notANumber
  else
    let body :=
      if x.isInf then l.infinite
      else l.unsigned (Dyadic.ofBits x.toBits).shortest
    if signBit x then "-" ++ body else body

------------------------------------------------------------
-- A Fixed Number of Places
------------------------------------------------------------

/-
  The exact value rounded to a number of decimal places, a
  half going to the even neighbour.
-/
def fixed
    (places : Nat)
    (x : Float) : String :=
  if x.isNaN then
    "NaN"
  else if x.isInf then
    if signBit x then "-Inf" else "+Inf"
  else
    let scaled := (Dyadic.ofBits x.toBits).roundPlaces places
    let digits := padZeros (places + 1) (toString scaled)
    let body := pointed digits ((digits.length : Int) - (places : Int))
    if signBit x then "-" ++ body else body

------------------------------------------------------------
-- The Formats of the Program
------------------------------------------------------------

/-
  Numbers in JSON: positional from `1e-6` up to `1e21`, a
  bare exponent otherwise.
-/
def Layout.json : Layout where
  plainFrom := -6
  plainBelow := 21
  exponentWidth := 1
  notANumber := "NaN"
  infinite := "Infinity"

/-
  Sample values in the metrics text: positional from `1e-4`
  up to a million, an exponent of two digits otherwise.
-/
def Layout.sample : Layout where
  plainFrom := -4
  plainBelow := 6
  exponentWidth := 2
  notANumber := "NaN"
  infinite := "Inf"

end Timetable.Decimal
