import Timetable.Calendar.Date

/-
  This file defines moments as they are written: a local day
  and time with the offset of the local clock.  Two moments
  are compared by the instant they stand for; the calendar
  day of a moment is the one its own clock shows.

  Key definitions include:
    * `Timestamp`
    * `Timestamp.instant`
    * `Timestamp.ofDate`
    * `Timestamp.render`
    * `Timestamp.read?`
-/

namespace Timetable

------------------------------------------------------------
-- Moments
------------------------------------------------------------

/-
  A moment: the local day, the nanoseconds since local
  midnight, and the seconds that the local clock is ahead.
-/
structure Timestamp where
  date : Date
  nanos : Nat
  offset : Int
deriving DecidableEq, Repr, Inhabited

namespace Timestamp

/- Nanoseconds of a second and of a day. -/
def nanosPerSecond : Nat := 1000000000

def nanosPerDay : Nat := 86400 * nanosPerSecond

/- Nanoseconds since the first of January 1970, universal time. -/
def instant (t : Timestamp) : Int :=
  t.date.day * nanosPerDay + t.nanos - t.offset * nanosPerSecond

/- The moment in universal time with an instant. -/
def ofInstant (n : Int) : Timestamp :=
  let day := Int.fdiv n nanosPerDay
  ⟨⟨day⟩, (n - day * nanosPerDay).toNat, 0⟩

/- Midnight of a day in universal time. -/
def ofDate (d : Date) : Timestamp :=
  ⟨d, 0, 0⟩

/- The moment of a field that was never set. -/
def unset : Timestamp :=
  ofDate Date.unset

/- A moment was never set. -/
def isUnset (t : Timestamp) : Bool :=
  t.instant == unset.instant

------------------------------------------------------------
-- Text
------------------------------------------------------------

/- A fraction of a second without trailing zeros, with its point. -/
private def renderFraction (nanos : Nat) : String :=
  if nanos == 0 then ""
  else
    let digits := (Decimal.padZeros 9 (toString nanos)).toList
    "." ++ String.ofList (digits.reverse.dropWhile (· == '0')).reverse

/- The offset of a clock, `Z` for universal time. -/
private def renderOffset (offset : Int) : String :=
  if offset == 0 then "Z"
  else
    let minutes := offset.natAbs / 60
    (if offset < 0 then "-" else "+") ++
      Decimal.padZeros 2 (toString (minutes / 60)) ++ ":" ++
      Decimal.padZeros 2 (toString (minutes % 60))

/- A day and time with its offset; the fraction is written when it is not zero. -/
def render (t : Timestamp) : String :=
  let seconds := t.nanos / nanosPerSecond
  t.date.render ++ "T" ++
    Decimal.padZeros 2 (toString (seconds / 3600)) ++ ":" ++
    Decimal.padZeros 2 (toString (seconds / 60 % 60)) ++ ":" ++
    Decimal.padZeros 2 (toString (seconds % 60)) ++
    renderFraction (t.nanos % nanosPerSecond) ++ renderOffset t.offset

/- Two digits whose value is at most `top`. -/
private def twoDigits?
    (top : Int)
    (a b : Char) : Option Int := do
  let n ← Date.digits? [a, b]
  if n ≤ top then some n else none

/- The nanoseconds of a fraction after its point. -/
private def fractionNanos (digits : List Char) : Nat :=
  let first := (digits ++ List.replicate 9 '0').take 9
  first.foldl (fun n c => n * 10 + (c.toNat - 48)) 0

/- The offset at the end of a moment. -/
private def readOffset? : List Char → Option Int
| ['Z'] => some 0
| [sign, h1, h2, ':', m1, m2] => do
    let hours ← twoDigits? 23 h1 h2
    let minutes ← twoDigits? 59 m1 m2
    let size := hours * 3600 + minutes * 60
    if sign == '+' then some size
    else if sign == '-' then some (-size)
    else none
| _ => none

/- Read a day and time with its offset. -/
def read? (s : String) : Option Timestamp :=
  match s.toList.splitAt 10 with
  | (day, 'T' :: h1 :: h2 :: ':' :: m1 :: m2 :: ':' :: s1 :: s2 :: rest) => do
      let date ← Date.ofChars? day
      let hours ← twoDigits? 23 h1 h2
      let minutes ← twoDigits? 59 m1 m2
      let seconds ← twoDigits? 59 s1 s2
      let whole := (hours * 3600 + minutes * 60 + seconds).toNat * nanosPerSecond
      match rest with
      | '.' :: tail =>
          match tail.span Char.isDigit with
          | ([], _) => none
          | (digits, rest) => do
              let offset ← readOffset? rest
              return ⟨date, whole + fractionNanos digits, offset⟩
      | _ => do
          let offset ← readOffset? rest
          return ⟨date, whole, offset⟩
  | _ => none

end Timestamp

end Timetable
