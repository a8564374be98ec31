import Timetable.Decimal.Nearest

/-
  This file reads numbers from text: decimal and hexadecimal
  fractions, and integers in several bases.

  Key definitions include:
    * `digitValue?`
    * `underscoresSeparateDigits`
    * `readFraction?`
    * `readFloat?`
    * `readInteger?`
    * `readPrefixedInteger?`
-/

namespace Timetable.Decimal

------------------------------------------------------------
-- Digits
------------------------------------------------------------

/- The value of a digit in a base of at most sixteen. -/
def digitValue?
    (base : Nat)
    (c : Char) : Option Nat :=
  let value? : Option Nat :=
    if '0' ≤ c ∧ c ≤ '9' then some (c.toNat - 48)
    else if 'a' ≤ c ∧ c ≤ 'f' then some (c.toNat - 87)
    else if 'A' ≤ c ∧ c ≤ 'F' then some (c.toNat - 55)
    else none
  value?.filter (· < base)

/- A character is a digit in the base. -/
def isDigitIn
    (base : Nat)
    (c : Char) : Bool :=
  (digitValue? base c).isSome

/- The natural number that a run of digits stands for. -/
def digitsValue
    (base : Nat)
    (digits : List Char) : Nat :=
  digits.foldl (fun n c => n * base + (digitValue? base c).getD 0) 0

/- Lower case of an ASCII letter. -/
def lowerAscii (c : Char) : Char :=
  if 'A' ≤ c ∧ c ≤ 'Z' then Char.ofNat (c.toNat + 32) else c

/- Whether a number starts with a minus, and what follows its sign. -/
def splitSign : List Char → Bool × List Char
  | '-' :: rest => (true, rest)
  | '+' :: rest => (false, rest)
  | rest => (false, rest)

------------------------------------------------------------
-- Underscores
------------------------------------------------------------

/- What stands before a position: the start, a digit, an underscore or something else. -/
private inductive Before where
  | start
  | digit
  | underscore
  | other
deriving DecidableEq

/- The class of the next character, given what stands before it. -/
private def underscoreStep
    (hex : Bool) : Before → List Char → Bool
  | before, [] => before != .underscore
  | before, c :: rest =>
      if isDigitIn (if hex then 16 else 10) c then
        underscoreStep hex .digit rest
      else if c == '_' then
        before == .digit && underscoreStep hex .underscore rest
      else
        before != .underscore && underscoreStep hex .other rest

/-
  Underscores stand between digits, or between a base mark
  and a digit.
-/
def underscoresSeparateDigits (text : List Char) : Bool :=
  let unsigned := (splitSign text).2
  match unsigned with
  | '0' :: mark :: rest =>
      if ['b', 'o', 'x'].contains (lowerAscii mark) then
        underscoreStep (lowerAscii mark == 'x') .digit rest
      else
        underscoreStep false .start unsigned
  | _ => underscoreStep false .start unsigned

------------------------------------------------------------
-- Fractions
------------------------------------------------------------

/- A scanned mantissa: its digits, how many stand after the point, and the rest of the text. -/
structure Mantissa where
  digits : List Char
  places : Nat
  sawPoint : Bool
  rest : List Char

/- Scan digits and at most one point; underscores are skipped. -/
def scanMantissa
    (base : Nat) : List Char → Mantissa → Mantissa
  | [], m => { m with rest := [] }
  | c :: rest, m =>
      if c == '_' then
        scanMantissa base rest m
      else if c == '.' then
        if m.sawPoint then { m with rest := c :: rest }
        else scanMantissa base rest { m with sawPoint := true }
      else if isDigitIn base c then
        scanMantissa base rest
          { m with
            digits := m.digits ++ [c]
            places := if m.sawPoint then m.places + 1 else m.places }
      else
        { m with rest := c :: rest }

/-
  The size of an exponent with one more digit; it is cut off
  far beyond any finite value, and underscores are skipped.
-/
def appendDigit
    (size : Nat)
    (c : Char) : Nat :=
  match digitValue? 10 c with
  | some d => if size < 10000 then size * 10 + d else size
  | none => size

/- A signed exponent that ends the text. -/
def readExponent? (text : List Char) : Option Int :=
  let (negative, digits) := splitSign text
  match digits with
  | [] => none
  | first :: _ =>
      if isDigitIn 10 first && digits.all (fun c => c == '_' || isDigitIn 10 c) then
        let size := digits.foldl appendDigit 0
        some (if negative then -(size : Int) else size)
      else
        none

/- The nearest binary64 value of `digits * 10 ^ exponent`. -/
def ofDecimal
    (digits : Nat)
    (exponent : Int) : Float :=
  nearest (digits * Nat.pow 10 exponent.toNat) (Nat.pow 10 (-exponent).toNat)

/- The nearest binary64 value of `digits * 2 ^ exponent`. -/
def ofBinary
    (digits : Nat)
    (exponent : Int) : Float :=
  nearest (digits * Nat.pow 2 exponent.toNat) (Nat.pow 2 (-exponent).toNat)

/- An unsigned decimal fraction with an optional exponent. -/
def readDecimalFraction? (text : List Char) : Option Float :=
  let m := scanMantissa 10 text ⟨[], 0, false, []⟩
  if m.digits.isEmpty then none
  else
    match m.rest with
    | [] => some (ofDecimal (digitsValue 10 m.digits) (-(m.places : Int)))
    | mark :: exponent =>
        if lowerAscii mark == 'e' then
          (readExponent? exponent).map
            (fun e => ofDecimal (digitsValue 10 m.digits) (e - (m.places : Int)))
        else none

/- An unsigned hexadecimal fraction; its binary exponent is required. -/
def readHexFraction? (text : List Char) : Option Float :=
  let m := scanMantissa 16 text ⟨[], 0, false, []⟩
  if m.digits.isEmpty then none
  else
    match m.rest with
    | [] => none
    | mark :: exponent =>
        if lowerAscii mark == 'p' then
          (readExponent? exponent).map
            (fun e => ofBinary (digitsValue 16 m.digits) (e - 4 * (m.places : Int)))
        else none

/- An unsigned fraction, a hexadecimal one after its mark. -/
def readFraction? (text : List Char) : Option Float :=
  match text with
  | '0' :: mark :: rest =>
      if lowerAscii mark == 'x' then readHexFraction? rest
      else readDecimalFraction? text
  | _ => readDecimalFraction? text

/- Names of the special values, in any case. -/
def special? (text : List Char) : Option Float :=
  let name := String.ofList (text.map lowerAscii)
  if name == "inf" || name == "infinity" then some (1.0 / 0.0)
  else none

/-
  Read a number: a decimal or hexadecimal fraction with an
  optional sign, or the name of a special value.  A finite
  text whose value is too large is refused.
-/
def readFloat? (text : String) : Option Float :=
  let chars := text.toList
  let (negative, unsigned) := splitSign chars
  let signed (x : Float) : Float := if negative then -x else x
  match special? unsigned with
  | some x => some (signed x)
  | none =>
      if String.ofList (chars.map lowerAscii) == "nan" then
        some (0.0 / 0.0)
      else if chars.contains '_' && !underscoresSeparateDigits chars then
        none
      else
        ((readFraction? unsigned).filter (fun x => !x.isInf)).map signed

------------------------------------------------------------
-- Integers
------------------------------------------------------------

/- The largest and smallest 64-bit integers. -/
def maxInt64 : Int := 9223372036854775807

def minInt64 : Int := -9223372036854775808

/- How many 64-bit integers there are. -/
def int64Count : Nat := 18446744073709551616

/- A value as a 64-bit integer, when it is one. -/
def int64? (n : Int) : Option Int :=
  if minInt64 ≤ n ∧ n ≤ maxInt64 then some n else none

/- A signed run of digits in a base, as a 64-bit integer. -/
def readSigned?
    (base : Nat)
    (negative : Bool)
    (digits : List Char) : Option Int :=
  if digits.isEmpty || !digits.all (isDigitIn base) then none
  else
    let size : Int := digitsValue base digits
    int64? (if negative then -size else size)

/- A decimal 64-bit integer with an optional sign. -/
def readInteger? (text : String) : Option Int :=
  let (negative, digits) := splitSign text.toList
  readSigned? 10 negative digits

/-
  A 64-bit integer whose base is told by its first
  characters: `0b`, `0o` or `0` for eight, `0x`, and ten
  otherwise.  Underscores may separate digits.
-/
def readPrefixedInteger? (text : String) : Option Int :=
  let chars := text.toList
  let (negative, unsigned) := splitSign chars
  let (base, digits) :=
    match unsigned with
    | '0' :: mark :: rest =>
        match lowerAscii mark with
        | 'b' => if rest.isEmpty then (8, mark :: rest) else (2, rest)
        | 'o' => if rest.isEmpty then (8, mark :: rest) else (8, rest)
        | 'x' => if rest.isEmpty then (8, mark :: rest) else (16, rest)
        | _ => (8, mark :: rest)
    | _ => (10, unsigned)
  if chars.contains '_' && !underscoresSeparateDigits chars then none
  else readSigned? base negative (digits.filter (· != '_'))

end Timetable.Decimal
