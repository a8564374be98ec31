import Mathlib.Algebra.Group.Nat.Defs
import Timetable.Calendar.Date

/-
  This file proves that the text of a calendar day reads back
  as the same day.

  Key definitions include:
    * `Date.yearOfDay`
    * `Date.firstDay`, `Date.lastDay`
    * `Date.marchYear`, `Date.dayOfYear`

  Main theorems:
    * `Date.civil_ofCivil`: the parts that a day is made of
      are the parts it shows
    * `Date.ofCivil_civil`: a day is made of the parts it
      shows, so that no two days show the same ones
    * `Date.digits?_paddedInt`: a padded number reads back
    * `Date.read?_render`: a day that was read can be written
      and read again
-/

namespace Timetable.Date

------------------------------------------------------------
-- Years of a Cycle
------------------------------------------------------------

/- The year that a day of a cycle of 400 years lies in. -/
def yearOfDay (dayOfCycle : Int) : Int :=
  (dayOfCycle - dayOfCycle / 1460 + dayOfCycle / 36524 - dayOfCycle / 146096) / 365

/- The first day of a year of the cycle, the first of March. -/
def firstDay (yearOfCycle : Int) : Int :=
  yearOfCycle * 365 + yearOfCycle / 4 - yearOfCycle / 100

/- The last day of a year of the cycle, the end of February. -/
def lastDay (yearOfCycle : Int) : Int :=
  firstDay yearOfCycle + if isLeap (yearOfCycle + 1) then 365 else 364

theorem yearOfDay_mono
    {a b : Int}
    (h : a ≤ b) :
    yearOfDay a ≤ yearOfDay b := by
  have hFours : a - a / 1460 ≤ b - b / 1460 := by omega
  have hCenturies : a / 36524 ≤ b / 36524 := by omega
  have hA : a / 146096 = a / 36524 / 4 := by omega
  have hB : b / 146096 = b / 36524 / 4 := by omega
  unfold yearOfDay
  apply Int.ediv_le_ediv (by decide)
  omega

theorem yearOfDay_ends :
    ∀ y : Fin 400,
      yearOfDay (firstDay (y.val : Int)) = y.val ∧
        yearOfDay (lastDay (y.val : Int)) = y.val := by
  decide +kernel

/- The ends of a year lie in it. -/
theorem yearOfDay_end
    {y : Int}
    (hYear : 0 ≤ y ∧ y < 400) :
    yearOfDay (firstDay y) = y ∧ yearOfDay (lastDay y) = y := by
  have hEnds := yearOfDay_ends ⟨y.toNat, by omega⟩
  simpa only [Int.toNat_of_nonneg hYear.1] using hEnds

/- All days between the ends of a year lie in it. -/
theorem yearOfDay_eq
    {y dayOfCycle : Int}
    (hYear : 0 ≤ y ∧ y < 400)
    (hFirst : firstDay y ≤ dayOfCycle)
    (hLast : dayOfCycle ≤ lastDay y) :
    yearOfDay dayOfCycle = y := by
  have hEnds := yearOfDay_end hYear
  have hLow := yearOfDay_mono hFirst
  have hHigh := yearOfDay_mono hLast
  omega

theorem isLeap_add_cycles
    (cycle year : Int) :
    isLeap (cycle * 400 + year) = isLeap year := by
  have h4 : (cycle * 400 + year) % 4 = year % 4 := by omega
  have h100 : (cycle * 400 + year) % 100 = year % 100 := by omega
  have h400 : (cycle * 400 + year) % 400 = year % 400 := by omega
  unfold isLeap
  rw [h4, h100, h400]

/- A cycle has 146097 days. -/
theorem dayOfCycle_lt
    {yearOfCycle dayOfYear : Int}
    (hYear : 0 ≤ yearOfCycle ∧ yearOfCycle < 400)
    (hEnd : dayOfYear ≤ if isLeap (yearOfCycle + 1) then 365 else 364) :
    firstDay yearOfCycle + dayOfYear < 146097 := by
  unfold firstDay
  split at hEnd
  · omega
  · -- The last year of a cycle is a leap year, so this is another one.
    have hLast : yearOfCycle ≠ 399 := by
      rintro rfl
      contradiction
    omega

------------------------------------------------------------
-- Days of a Year
------------------------------------------------------------

/- The year that a month lies in, when years start in March. -/
def marchYear (year month : Int) : Int :=
  if month ≤ 2 then year - 1 else year

/- The day of a year that starts in March. -/
def dayOfYear (month dayOfMonth : Int) : Int :=
  (153 * ((month + 9) % 12) + 2) / 5 + dayOfMonth - 1

private theorem month_cases
    {month : Int}
    (hMonth : 1 ≤ month ∧ month ≤ 12) :
    month = 1 ∨ month = 2 ∨ month = 3 ∨ month = 4 ∨ month = 5 ∨ month = 6 ∨
      month = 7 ∨ month = 8 ∨ month = 9 ∨ month = 10 ∨ month = 11 ∨ month = 12 := by
  omega

/- A day of a month lies in its year, and shows the month. -/
theorem dayOfYear_range
    {year month dayOfMonth : Int}
    (hMonth : 1 ≤ month ∧ month ≤ 12)
    (hDay : 1 ≤ dayOfMonth ∧ dayOfMonth ≤ daysInMonth year month) :
    0 ≤ dayOfYear month dayOfMonth ∧
      dayOfYear month dayOfMonth ≤
        (if isLeap (marchYear year month + 1) then 365 else 364) ∧
      (5 * dayOfYear month dayOfMonth + 2) / 153 = (month + 9) % 12 := by
  cases hLeap : isLeap year <;>
    rcases month_cases hMonth with
      rfl | rfl | rfl | rfl | rfl | rfl | rfl | rfl | rfl | rfl | rfl | rfl <;>
    simp [daysInMonth, hLeap, dayOfYear, marchYear] at hDay ⊢ <;>
    omega

------------------------------------------------------------
-- Parts of a Day
------------------------------------------------------------

/- What a day shows, from its cycle, its year of the cycle and its day of the year. -/
theorem civil_of_parts
    {cycle yearOfCycle dayOfYear : Int}
    (hYear : 0 ≤ yearOfCycle ∧ yearOfCycle < 400)
    (hStart : 0 ≤ dayOfYear)
    (hEnd : dayOfYear ≤ if isLeap (yearOfCycle + 1) then 365 else 364) :
    (Date.mk (cycle * 146097 + (firstDay yearOfCycle + dayOfYear) - 719468)).civil =
      let monthFromMarch := (5 * dayOfYear + 2) / 153
      let month :=
        if monthFromMarch < 10 then monthFromMarch + 3 else monthFromMarch - 9
      let year := yearOfCycle + cycle * 400
      ⟨if month ≤ 2 then year + 1 else year, month,
        dayOfYear - (153 * monthFromMarch + 2) / 5 + 1⟩ := by
  have hLess := dayOfCycle_lt hYear hEnd
  have hFirst : 0 ≤ firstDay yearOfCycle := by
    unfold firstDay
    omega
  have hYearOf : yearOfDay (firstDay yearOfCycle + dayOfYear) = yearOfCycle := by
    apply yearOfDay_eq hYear
    · omega
    · unfold lastDay
      omega
  have hCycle :
      Int.fdiv (cycle * 146097 + (firstDay yearOfCycle + dayOfYear)) 146097 = cycle := by
    rw [Int.fdiv_eq_ediv_of_nonneg _ (by decide)]
    omega
  have hDayOfCycle :
      cycle * 146097 + (firstDay yearOfCycle + dayOfYear) - cycle * 146097 =
        firstDay yearOfCycle + dayOfYear := by
    omega
  have hDayOfYear :
      firstDay yearOfCycle + dayOfYear -
        (365 * yearOfCycle + yearOfCycle / 4 - yearOfCycle / 100) = dayOfYear := by
    unfold firstDay
    omega
  unfold yearOfDay at hYearOf
  simp only [civil, Int.sub_add_cancel, hCycle, hDayOfCycle, hYearOf, hDayOfYear]

/- A day shows the parts that it was made of. -/
theorem civil_ofCivil
    {year month dayOfMonth : Int}
    (hMonth : 1 ≤ month ∧ month ≤ 12)
    (hDay : 1 ≤ dayOfMonth ∧ dayOfMonth ≤ daysInMonth year month) :
    (ofCivil year month dayOfMonth).civil = ⟨year, month, dayOfMonth⟩ := by
  obtain ⟨hStart, hEnd, hBack⟩ := dayOfYear_range hMonth hDay
  -- The year from March, split into its cycle and its place there.
  have hSplit : ∃ cycle yearOfCycle : Int,
      0 ≤ yearOfCycle ∧ yearOfCycle < 400 ∧
        cycle = Int.fdiv (marchYear year month) 400 ∧
        marchYear year month = cycle * 400 + yearOfCycle := by
    rw [Int.fdiv_eq_ediv_of_nonneg _ (by decide)]
    exact ⟨_, marchYear year month % 400, by omega, by omega, rfl, by omega⟩
  rcases hSplit with ⟨cycle, yearOfCycle, hLow, hHigh, hCycle, hMarch⟩
  have hParts :
      ofCivil year month dayOfMonth =
        ⟨cycle * 146097 + (firstDay yearOfCycle + dayOfYear month dayOfMonth) -
          719468⟩ := by
    have hPlace : yearOfCycle = marchYear year month - cycle * 400 := by omega
    rw [hPlace, hCycle]
    rfl
  rw [hMarch, Int.add_assoc, isLeap_add_cycles] at hEnd
  rw [hParts, civil_of_parts ⟨hLow, hHigh⟩ hStart hEnd, hBack]
  have hDayBack :
      dayOfYear month dayOfMonth - (153 * ((month + 9) % 12) + 2) / 5 + 1 =
        dayOfMonth := by
    unfold dayOfYear
    omega
  have hMonthBack :
      (if (month + 9) % 12 < 10 then (month + 9) % 12 + 3 else (month + 9) % 12 - 9) =
        month := by
    split <;> omega
  have hYearBack :
      (if month ≤ 2 then yearOfCycle + cycle * 400 + 1 else yearOfCycle + cycle * 400) =
        year := by
    unfold marchYear at hMarch
    by_cases hEarly : month ≤ 2
    · rw [if_pos hEarly] at hMarch ⊢
      omega
    · rw [if_neg hEarly] at hMarch ⊢
      omega
  simp only [hDayBack, hMonthBack, hYearBack]

------------------------------------------------------------
-- Days from their Parts
------------------------------------------------------------

/- A year of the cycle starts when the one before it ends. -/
theorem firstDay_succ
    {y : Int}
    (hYear : 0 ≤ y ∧ y < 399) :
    firstDay (y + 1) = lastDay y + 1 := by
  unfold firstDay lastDay
  cases hLeap : isLeap (y + 1) with
  | true =>
      simp only [isLeap, Bool.and_eq_true, Bool.or_eq_true, bne_iff_ne,
        beq_iff_eq] at hLeap
      rw [if_pos rfl, firstDay]
      omega
  | false =>
      simp only [isLeap, Bool.and_eq_false_iff, Bool.or_eq_false_iff,
        beq_eq_false_iff_ne, bne_eq_false_iff_eq] at hLeap
      rw [if_neg Bool.false_ne_true, firstDay]
      omega

/- A day of a cycle lies between the ends of its year. -/
theorem yearOfDay_spec
    {dayOfCycle : Int}
    (hStart : 0 ≤ dayOfCycle)
    (hEnd : dayOfCycle < 146097) :
    (0 ≤ yearOfDay dayOfCycle ∧ yearOfDay dayOfCycle < 400) ∧
      firstDay (yearOfDay dayOfCycle) ≤ dayOfCycle ∧
      dayOfCycle ≤ lastDay (yearOfDay dayOfCycle) := by
  have hLow : 0 ≤ yearOfDay dayOfCycle :=
    yearOfDay_mono (a := 0) hStart
  have hHigh : yearOfDay dayOfCycle ≤ 399 :=
    yearOfDay_mono (b := 146096) (by omega)
  refine ⟨⟨hLow, by omega⟩, ?_, ?_⟩
  · -- a day before the first of its year would lie in the year before
    apply Int.not_lt.mp
    intro hBefore
    have hPositive : yearOfDay dayOfCycle ≠ 0 := by
      intro hZero
      rw [hZero] at hBefore
      exact Int.not_lt.mpr hStart hBefore
    have hJoin := firstDay_succ (y := yearOfDay dayOfCycle - 1) (by omega)
    have hEarlier := (yearOfDay_end (y := yearOfDay dayOfCycle - 1) (by omega)).2
    rw [Int.sub_add_cancel] at hJoin
    have hMono :
        yearOfDay dayOfCycle ≤ yearOfDay (lastDay (yearOfDay dayOfCycle - 1)) :=
      yearOfDay_mono (by omega)
    omega
  · -- and one after the last of its year in the year after
    apply Int.not_lt.mp
    intro hAfter
    have hMore : yearOfDay dayOfCycle ≠ 399 := by
      intro hFull
      have hEndOfCycle : lastDay 399 = 146096 := by decide
      rw [hFull] at hAfter
      omega
    have hJoin := firstDay_succ (y := yearOfDay dayOfCycle) (by omega)
    have hLater := (yearOfDay_end (y := yearOfDay dayOfCycle + 1) (by omega)).1
    have hMono :
        yearOfDay (firstDay (yearOfDay dayOfCycle + 1)) ≤ yearOfDay dayOfCycle :=
      yearOfDay_mono (by omega)
    omega

/- Every day has a cycle, a year of the cycle and a day of the year. -/
theorem exists_parts
    (d : Date) :
    ∃ cycle yearOfCycle dayOfYear : Int,
      (0 ≤ yearOfCycle ∧ yearOfCycle < 400) ∧
      0 ≤ dayOfYear ∧
      (dayOfYear ≤ if isLeap (yearOfCycle + 1) then 365 else 364) ∧
      d = ⟨cycle * 146097 + (firstDay yearOfCycle + dayOfYear) - 719468⟩ := by
  have hSplit := Int.ediv_mul_add_emod (d.day + 719468) 146097
  generalize (d.day + 719468) / 146097 = cycle at hSplit
  generalize hDay : (d.day + 719468) % 146097 = dayOfCycle at hSplit
  have hStart : 0 ≤ dayOfCycle := by omega
  have hEnd : dayOfCycle < 146097 := by omega
  rcases yearOfDay_spec hStart hEnd with ⟨hYear, hFirst, hLast⟩
  refine ⟨cycle, yearOfDay dayOfCycle,
    dayOfCycle - firstDay (yearOfDay dayOfCycle), hYear, by omega, ?_, ?_⟩
  · unfold lastDay at hLast
    omega
  · cases d
    simp only [Date.mk.injEq] at hSplit ⊢
    omega

/- The day with a month of a year that starts in March. -/
theorem ofCivil_of_march
    {cycle yearOfCycle monthFromMarch : Int}
    (hYear : 0 ≤ yearOfCycle ∧ yearOfCycle < 400)
    (hMonth : 0 ≤ monthFromMarch ∧ monthFromMarch ≤ 11)
    (dayOfMonth : Int) :
    (let month :=
        if monthFromMarch < 10 then monthFromMarch + 3 else monthFromMarch - 9
      let year := yearOfCycle + cycle * 400
      ofCivil (if month ≤ 2 then year + 1 else year) month dayOfMonth) =
      ⟨cycle * 146097 +
          (firstDay yearOfCycle +
            ((153 * monthFromMarch + 2) / 5 + dayOfMonth - 1)) -
        719468⟩ := by
  have hBack :
      ((if monthFromMarch < 10 then monthFromMarch + 3
          else monthFromMarch - 9) + 9) % 12 = monthFromMarch := by
    split <;> omega
  have hMarch :
      marchYear
          (if (if monthFromMarch < 10 then monthFromMarch + 3
              else monthFromMarch - 9) ≤ 2 then
            yearOfCycle + cycle * 400 + 1
          else yearOfCycle + cycle * 400)
          (if monthFromMarch < 10 then monthFromMarch + 3
            else monthFromMarch - 9) =
        yearOfCycle + cycle * 400 := by
    unfold marchYear
    split <;> split <;> omega
  have hCycle : Int.fdiv (yearOfCycle + cycle * 400) 400 = cycle := by
    rw [Int.fdiv_eq_ediv_of_nonneg _ (by decide)]
    omega
  unfold marchYear at hMarch
  simp only [ofCivil, hBack, hMarch, hCycle, Int.add_sub_cancel, firstDay]

/- A day is made of the year, month and day of the month that it shows. -/
theorem ofCivil_civil
    (d : Date) :
    ofCivil d.civil.year d.civil.month d.civil.dayOfMonth = d := by
  rcases exists_parts d with
    ⟨cycle, yearOfCycle, dayOfYear, hYear, hStart, hEnd, rfl⟩
  have hMonth :
      0 ≤ (5 * dayOfYear + 2) / 153 ∧ (5 * dayOfYear + 2) / 153 ≤ 11 := by
    have hLess : dayOfYear ≤ 365 := by
      split at hEnd
      · exact hEnd
      · omega
    omega
  have hDayOfYear :
      (153 * ((5 * dayOfYear + 2) / 153) + 2) / 5 +
          (dayOfYear - (153 * ((5 * dayOfYear + 2) / 153) + 2) / 5 + 1) - 1 =
        dayOfYear := by
    omega
  rw [civil_of_parts hYear hStart hEnd]
  refine (ofCivil_of_march hYear hMonth _).trans ?_
  rw [hDayOfYear]

/- No two days show the same year, month and day of the month. -/
theorem civil_injective
    {first second : Date}
    (h : first.civil = second.civil) :
    first = second := by
  rw [← ofCivil_civil first, h, ofCivil_civil]

------------------------------------------------------------
-- Digits
------------------------------------------------------------

private theorem digit_range
    {c : Char}
    (h : c.isDigit) :
    48 ≤ c.toNat ∧ c.toNat ≤ 57 := by
  simpa [Char.isDigit, UInt32.le_iff_toNat_le] using h

private theorem foldl_digits
    (cs : List Char)
    (n : Nat)
    (hDigits : ∀ c ∈ cs, c.isDigit) :
    cs.foldl (fun (n : Int) c => n * 10 + ((c.toNat : Int) - 48)) n =
      (Nat.ofDigitChars 10 cs n : Nat) := by
  induction cs generalizing n with
  | nil => rfl
  | cons c rest ih =>
      have hRange := digit_range (hDigits c List.mem_cons_self)
      have hStep : (n : Int) * 10 + ((c.toNat : Int) - 48) =
          ((10 * n + (c.toNat - 48) : Nat) : Int) := by
        omega
      rw [List.foldl_cons, Nat.ofDigitChars_cons, hStep,
        ih _ (fun d hd => hDigits d (List.mem_cons_of_mem c hd))]
      rfl

private theorem ofDigitChars_lt
    (cs : List Char)
    (n width : Nat)
    (hDigits : ∀ c ∈ cs, c.isDigit)
    (hLess : n < 10 ^ width) :
    Nat.ofDigitChars 10 cs n < 10 ^ (width + cs.length) := by
  induction cs generalizing n width with
  | nil => exact hLess
  | cons c rest ih =>
      have hRange := digit_range (hDigits c List.mem_cons_self)
      have hNext : 10 * n + (c.toNat - 48) < 10 ^ (width + 1) := by
        rw [Nat.pow_succ]
        omega
      have hWidth : width + (c :: rest).length = width + 1 + rest.length := by
        rw [List.length_cons]
        omega
      rw [Nat.ofDigitChars_cons, hWidth]
      exact ih _ _ (fun d hd => hDigits d (List.mem_cons_of_mem c hd)) hNext

theorem digits?_of_digits
    {cs : List Char}
    (hDigits : ∀ c ∈ cs, c.isDigit) :
    digits? cs = some ((Nat.ofDigitChars 10 cs 0 : Nat) : Int) := by
  have hAll : cs.all Char.isDigit := List.all_eq_true.2 hDigits
  rw [digits?, if_pos hAll]
  exact congrArg some (foldl_digits cs 0 hDigits)

/- A number that was read has no more digits than were read. -/
theorem exists_of_digits?
    {cs : List Char}
    {n : Int}
    (h : digits? cs = some n) :
    ∃ m : Nat, n = m ∧ m < 10 ^ cs.length := by
  have hDigits : ∀ c ∈ cs, c.isDigit := by
    by_cases hAll : cs.all Char.isDigit
    · exact List.all_eq_true.1 hAll
    · rw [digits?, if_neg hAll] at h
      cases h
  rw [digits?_of_digits hDigits] at h
  have hLess := ofDigitChars_lt cs 0 0 hDigits (by decide)
  rw [Nat.zero_add] at hLess
  exact ⟨_, (Option.some.inj h).symm, hLess⟩

theorem toList_paddedInt
    (width n : Nat) :
    (paddedInt width n).toList =
      List.replicate (width - (Nat.toDigits 10 n).length) '0' ++ Nat.toDigits 10 n := by
  have hSign : ¬ (n : Int) < 0 := by omega
  rw [paddedInt, if_neg hSign, Int.natAbs_natCast, Decimal.padZeros,
    Nat.toString_eq_ofList_toDigits]
  simp

/- A padded number reads back. -/
theorem digits?_paddedInt
    (width n : Nat) :
    digits? (paddedInt width n).toList = some (n : Int) := by
  have hDigits : ∀ c ∈ (paddedInt width n).toList, c.isDigit := by
    intro c hC
    rw [toList_paddedInt] at hC
    rcases List.mem_append.1 hC with hZero | hDigit
    · rw [List.eq_of_mem_replicate hZero]
      rfl
    · exact Nat.isDigit_of_mem_toDigits (by decide) (by decide) hDigit
  rw [digits?_of_digits hDigits, toList_paddedInt, Nat.ofDigitChars_append,
    Nat.ofDigitChars_replicate_zero, Nat.mul_zero, Nat.ofDigitChars_ten_toDigits]

/- A number that is short enough is padded to the very width. -/
theorem length_paddedInt
    {width n : Nat}
    (hWidth : 0 < width)
    (hLess : n < 10 ^ width) :
    (paddedInt width n).toList.length = width := by
  have hShort := (Nat.length_toDigits_le_iff (by decide) hWidth).2 hLess
  rw [toList_paddedInt, List.length_append, List.length_replicate]
  omega

------------------------------------------------------------
-- Reading Back
------------------------------------------------------------

/- What a day that was read is made of. -/
theorem exists_of_read?
    {s : String}
    {d : Date}
    (h : read? s = some d) :
    ∃ year month dayOfMonth : Nat,
      year < 10000 ∧ (1 ≤ (month : Int) ∧ (month : Int) ≤ 12) ∧
        (1 ≤ (dayOfMonth : Int) ∧ (dayOfMonth : Int) ≤ daysInMonth year month) ∧
        d = ofCivil year month dayOfMonth := by
  unfold read? ofChars? at h
  split at h
  case h_1 =>
    rcases Option.bind_eq_some_iff.1 h with ⟨year, hYear, h⟩
    rcases Option.bind_eq_some_iff.1 h with ⟨month, hMonth, h⟩
    rcases Option.bind_eq_some_iff.1 h with ⟨dayOfMonth, hDay, h⟩
    rcases exists_of_digits? hYear with ⟨year, rfl, hYearLess⟩
    rcases exists_of_digits? hMonth with ⟨month, rfl, -⟩
    rcases exists_of_digits? hDay with ⟨dayOfMonth, rfl, -⟩
    unfold ofCivil? at h
    split at h
    · rename_i hParts
      exact ⟨year, month, dayOfMonth, by simpa using hYearLess, ⟨hParts.1, hParts.2.1⟩, hParts.2.2,
        (Option.some.inj h).symm⟩
    · cases h
  case h_2 => cases h

private theorem daysInMonth_lt
    (year month : Int) :
    daysInMonth year month < 100 := by
  unfold daysInMonth
  repeat' split
  all_goals decide

/- Digits in groups of four, two and two with dashes between them are a day. -/
theorem ofChars?_groups
    {years months days : List Char}
    {year month dayOfMonth : Int}
    (hYears : years.length = 4)
    (hMonths : months.length = 2)
    (hDays : days.length = 2)
    (hYear : digits? years = some year)
    (hMonth : digits? months = some month)
    (hDay : digits? days = some dayOfMonth) :
    ofChars? (years ++ '-' :: months ++ '-' :: days) = ofCivil? year month dayOfMonth := by
  match years, hYears, months, hMonths, days, hDays with
  | [_, _, _, _], _, [_, _], _, [_, _], _ =>
      simp only [List.cons_append, List.nil_append, ofChars?, hYear, hMonth, hDay]
      rfl

/- A day that was read can be written and read again. -/
theorem read?_render
    {s : String}
    {d : Date}
    (h : read? s = some d) :
    read? d.render = some d := by
  rcases exists_of_read? h with ⟨year, month, dayOfMonth, hYear, hMonth, hDay, rfl⟩
  have hMonthLess : month < 10 ^ 2 := by omega
  have hDayLess : dayOfMonth < 10 ^ 2 := by
    have := daysInMonth_lt year month
    omega
  have hText :
      (ofCivil year month dayOfMonth).render.toList =
        (paddedInt 4 year).toList ++ '-' :: (paddedInt 2 month).toList ++
          '-' :: (paddedInt 2 dayOfMonth).toList := by
    rw [render, civil_ofCivil hMonth hDay]
    simp
  rw [read?, hText,
    ofChars?_groups (length_paddedInt (by decide) hYear)
      (length_paddedInt (by decide) hMonthLess) (length_paddedInt (by decide) hDayLess)
      (digits?_paddedInt 4 year) (digits?_paddedInt 2 month)
      (digits?_paddedInt 2 dayOfMonth),
    ofCivil?, if_pos ⟨hMonth.1, hMonth.2, hDay.1, hDay.2⟩]

end Timetable.Date
