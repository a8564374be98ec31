import Timetable.Decimal.Layout

/-
  This file defines calendar days.  A day is its distance
  from the first of January 1970, so moving through the
  calendar is addition; year, month and day of the month are
  views of it.

  Key definitions include:
    * `Date`
    * `Date.addDays`
    * `Date.weekday`
    * `Date.ofCivil`
    * `Date.civil`
    * `Date.render`
    * `Date.read?`
-/

namespace Timetable

------------------------------------------------------------
-- Days
------------------------------------------------------------

/- A calendar day, counted from the first of January 1970. -/
structure Date where
  day : Int
deriving DecidableEq, Repr, Inhabited

namespace Date

instance : LE Date := ⟨fun a b => a.day ≤ b.day⟩

instance : LT Date := ⟨fun a b => a.day < b.day⟩

instance (a b : Date) : Decidable (a ≤ b) :=
  inferInstanceAs (Decidable (a.day ≤ b.day))

instance (a b : Date) : Decidable (a < b) :=
  inferInstanceAs (Decidable (a.day < b.day))

/- The day a number of days later. -/
def addDays
    (d : Date)
    (n : Int) : Date :=
  ⟨d.day + n⟩

/- The day of the week, from 0 for Sunday to 6 for Saturday. -/
def weekday (d : Date) : Int :=
  (d.day + 4) % 7

/- The earlier of two days. -/
def earlier (a b : Date) : Date :=
  if b < a then b else a

------------------------------------------------------------
-- Years, Months and Days
------------------------------------------------------------

/- A year of the calendar has a twenty-ninth of February. -/
def isLeap (year : Int) : Bool :=
  year % 4 == 0 && (year % 100 != 0 || year % 400 == 0)

/- The number of days of a month. -/
def daysInMonth
    (year month : Int) : Int :=
  if month == 2 then (if isLeap year then 29 else 28)
  else if month == 4 || month == 6 || month == 9 || month == 11 then 30
  else 31

/-
  The day with a year, month and day of the month.  Years
  are counted from the first of March, so that the leap day
  comes last, and in cycles of 400 years.
-/
def ofCivil
    (year month dayOfMonth : Int) : Date :=
  let y := if month ≤ 2 then year - 1 else year
  let cycle := Int.fdiv y 400
  let yearOfCycle := y - cycle * 400
  let monthFromMarch := (month + 9) % 12
  let dayOfYear := (153 * monthFromMarch + 2) / 5 + dayOfMonth - 1
  let dayOfCycle :=
    yearOfCycle * 365 + yearOfCycle / 4 - yearOfCycle / 100 + dayOfYear
  ⟨cycle * 146097 + dayOfCycle - 719468⟩

/- A year, a month and a day of the month. -/
structure Civil where
  year : Int
  month : Int
  dayOfMonth : Int
deriving DecidableEq, Repr

/- The year, month and day of the month of a day. -/
def civil (d : Date) : Civil :=
  let z := d.day + 719468
  let cycle := Int.fdiv z 146097
  let dayOfCycle := z - cycle * 146097
  let yearOfCycle :=
    (dayOfCycle - dayOfCycle / 1460 + dayOfCycle / 36524 - dayOfCycle / 146096) / 365
  let dayOfYear :=
    dayOfCycle - (365 * yearOfCycle + yearOfCycle / 4 - yearOfCycle / 100)
  let monthFromMarch := (5 * dayOfYear + 2) / 153
  let dayOfMonth := dayOfYear - (153 * monthFromMarch + 2) / 5 + 1
  let month := if monthFromMarch < 10 then monthFromMarch + 3 else monthFromMarch - 9
  let year := yearOfCycle + cycle * 400
  ⟨if month ≤ 2 then year + 1 else year, month, dayOfMonth⟩

/- The first of January of the year 1, the day of an unset time. -/
def unset : Date :=
  ⟨-719162⟩

------------------------------------------------------------
-- Text
------------------------------------------------------------

/- A number with at least `width` digits after its sign. -/
def paddedInt
    (width : Nat)
    (n : Int) : String :=
  let digits := Decimal.padZeros width (toString n.natAbs)
  if n < 0 then "-" ++ digits else digits

/- `YYYY-MM-DD`. -/
def render (d : Date) : String :=
  let c := d.civil
  paddedInt 4 c.year ++ "-" ++ paddedInt 2 c.month ++ "-" ++ paddedInt 2 c.dayOfMonth

/- `YYYYMMDD`. -/
def renderCompact (d : Date) : String :=
  let c := d.civil
  paddedInt 4 c.year ++ paddedInt 2 c.month ++ paddedInt 2 c.dayOfMonth

/- The number of exactly these digits. -/
def digits? (cs : List Char) : Option Int :=
  if cs.all Char.isDigit then
    some (cs.foldl (fun (n : Int) c => n * 10 + ((c.toNat : Int) - 48)) 0)
  else
    none

/- The day with these parts, when there is one. -/
def ofCivil?
    (year month dayOfMonth : Int) : Option Date :=
  if 1 ≤ month ∧ month ≤ 12 ∧ 1 ≤ dayOfMonth ∧ dayOfMonth ≤ daysInMonth year month then
    some (ofCivil year month dayOfMonth)
  else
    none

/- Read a day from characters of the form `YYYY-MM-DD`. -/
def ofChars? : List Char → Option Date
| [y1, y2, y3, y4, '-', m1, m2, '-', d1, d2] => do
    let year ← digits? [y1, y2, y3, y4]
    let month ← digits? [m1, m2]
    let dayOfMonth ← digits? [d1, d2]
    ofCivil? year month dayOfMonth
| _ => none

/- Read a day of the form `YYYY-MM-DD`. -/
def read? (s : String) : Option Date :=
  ofChars? s.toList

end Date

end Timetable
