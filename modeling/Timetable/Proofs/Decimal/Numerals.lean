import Mathlib.Data.List.Basic
import Timetable.Decimal.Reading
import Timetable.Proofs.Decimal.Bits

/-
  This file proves that the text of a finite number reads
  back as the same number.

  Key definitions include:
    * `Numeral`
    * `Numeral.text`
    * `Numeral.value`
    * `Numeral.WellFormed`

  Main theorems include:
    * `readDecimalFraction?_text`: a numeral is read digit by
      digit
    * `exists_numeral`: a decimal is laid out as a numeral of
      the same value
    * `readFloat?_render`: a finite number reads back
    * `readInteger?_toString`: so does an integer
    * `eq_of_toString`: integers are told apart by their texts
-/

namespace Timetable.Decimal

------------------------------------------------------------
-- Runs of Digits
------------------------------------------------------------

/- A run of characters consists of digits. -/
def AllDigits (cs : List Char) : Prop :=
  ∀ c ∈ cs, c.isDigit = true

theorem isDigit_range
    {c : Char}
    (hDigit : c.isDigit = true) :
    '0' ≤ c ∧ c ≤ '9' := by
  simpa [Char.isDigit, Char.le_def] using hDigit

theorem digitValue?_of_isDigit
    {c : Char}
    (hDigit : c.isDigit = true) :
    digitValue? 10 c = some (c.toNat - 48) := by
  have hRange := isDigit_range hDigit
  have hSmall : c.toNat - 48 < 10 := by
    have hNine : c.toNat ≤ 57 := hRange.2
    omega
  simp only [digitValue?, if_pos hRange, Option.filter_some, hSmall, decide_true, if_true]

theorem isDigitIn_of_isDigit
    {c : Char}
    (hDigit : c.isDigit = true) :
    isDigitIn 10 c = true := by
  rw [isDigitIn, digitValue?_of_isDigit hDigit]
  rfl

theorem digitsValue_eq
    {cs : List Char}
    (hDigits : AllDigits cs) :
    digitsValue 10 cs = Nat.ofDigitChars 10 cs 0 := by
  unfold digitsValue Nat.ofDigitChars
  apply List.foldl_ext
  intro n c hMember
  rw [digitValue?_of_isDigit (hDigits c hMember), Option.getD_some, Nat.mul_comm]
  rfl

theorem ne_of_isDigit
    {c d : Char}
    (hDigit : c.isDigit = true)
    (hOther : d.isDigit = false) :
    c ≠ d := by
  rintro rfl
  rw [hDigit] at hOther
  cases hOther

theorem AllDigits.append
    {cs ds : List Char}
    (hLeft : AllDigits cs)
    (hRight : AllDigits ds) :
    AllDigits (cs ++ ds) := by
  intro c hMember
  rcases List.mem_append.mp hMember with h | h
  · exact hLeft c h
  · exact hRight c h

theorem allDigits_toDigits
    (n : Nat) :
    AllDigits (Nat.toDigits 10 n) :=
  fun _ => Nat.isDigit_of_mem_toDigits (by decide) (by decide)

theorem allDigits_zeros
    (n : Nat) :
    AllDigits (List.replicate n '0') := by
  intro c hMember
  rw [List.eq_of_mem_replicate hMember]
  rfl

------------------------------------------------------------
-- Numerals
------------------------------------------------------------

/-
  A numeral: the digits before the point, those behind it,
  and the power of ten that follows them.
-/
structure Numeral where
  whole : List Char
  places : List Char
  power : Option Int

namespace Numeral

/- The point with the digits behind it. -/
def placesText : List Char → List Char
| [] => []
| ds => '.' :: ds

theorem placesText_of_ne_nil
    {ds : List Char}
    (hSome : ds ≠ []) :
    placesText ds = '.' :: ds := by
  obtain ⟨d, rest, rfl⟩ := List.exists_cons_of_ne_nil hSome
  rfl

/- The mark of a power with its sign and its digits. -/
def powerText : Option Int → List Char
| none => []
| some e => 'e' :: (if e < 0 then '-' else '+') :: Nat.toDigits 10 e.natAbs

/- The text of a numeral. -/
def text (n : Numeral) : List Char :=
  n.whole ++ (placesText n.places ++ powerText n.power)

/- The digits of a numeral as a natural number. -/
def digits (n : Numeral) : Nat :=
  Nat.ofDigitChars 10 (n.whole ++ n.places) 0

/- The power of ten that the digits are scaled with. -/
def exponent (n : Numeral) : Int :=
  n.power.getD 0 - n.places.length

/- The number that a numeral stands for. -/
def value (n : Numeral) : ℚ :=
  n.digits * 10 ^ n.exponent

/-
  A numeral as numbers are written: no zero leads other
  digits, and the power is one that is read in full.
-/
structure WellFormed (n : Numeral) : Prop where
  whole : AllDigits n.whole
  places : AllDigits n.places
  some : n.whole ≠ []
  leading : n.whole = ['0'] ∨ n.whole.head? ≠ Option.some '0'
  power : ∀ e ∈ n.power, e.natAbs < 10000

end Numeral

------------------------------------------------------------
-- Reading Numerals
------------------------------------------------------------

/- A run of digits is taken over as a whole. -/
theorem scanMantissa_digits
    {cs : List Char}
    (hDigits : AllDigits cs)
    (rest : List Char)
    (m : Mantissa) :
    scanMantissa 10 (cs ++ rest) m =
      scanMantissa 10 rest
        { m with
          digits := m.digits ++ cs
          places := if m.sawPoint then m.places + cs.length else m.places } := by
  induction cs generalizing m with
  | nil => simp
  | cons c cs ih =>
      have hDigit := hDigits c List.mem_cons_self
      have hMark : (c == '_') = false := by
        simpa using ne_of_isDigit hDigit rfl
      have hPoint : (c == '.') = false := by
        simpa using ne_of_isDigit hDigit rfl
      rw [List.cons_append, scanMantissa, hMark, hPoint, isDigitIn_of_isDigit hDigit]
      simp only [Bool.false_eq_true, if_false, if_true]
      rw [ih (fun d hd => hDigits d (List.mem_cons_of_mem c hd))]
      simp only [List.append_assoc, List.singleton_append, List.length_cons]
      congr 2
      split <;> omega

/- A mantissa ends where the text or a power does. -/
theorem scanMantissa_powerText
    (power : Option Int)
    (m : Mantissa) :
    scanMantissa 10 (Numeral.powerText power) m =
      { m with rest := Numeral.powerText power } := by
  cases power with
  | none => rfl
  | some e => rfl

/- A numeral is scanned into its digits and its power. -/
theorem scanMantissa_text
    {n : Numeral}
    (hShape : n.WellFormed) :
    ∃ point,
      scanMantissa 10 n.text ⟨[], 0, false, []⟩ =
        ⟨n.whole ++ n.places, n.places.length, point, Numeral.powerText n.power⟩ := by
  unfold Numeral.text
  rw [scanMantissa_digits hShape.whole]
  cases hPlaces : n.places with
  | nil =>
      refine ⟨false, ?_⟩
      rw [Numeral.placesText, List.nil_append, scanMantissa_powerText]
      simp
  | cons c cs =>
      refine ⟨true, ?_⟩
      have hDigits := hShape.places
      rw [hPlaces] at hDigits
      have hPoint : ('.' == '_') = false := rfl
      rw [Numeral.placesText, List.cons_append, scanMantissa, hPoint]
      · simp only [Bool.false_eq_true, if_false, beq_self_eq_true, if_true]
        rw [scanMantissa_digits hDigits, scanMantissa_powerText]
        simp
      · simp

theorem le_ofDigitChars
    (cs : List Char)
    (n : Nat) :
    n ≤ Nat.ofDigitChars 10 cs n := by
  induction cs generalizing n with
  | nil => exact Nat.le_refl n
  | cons c cs ih =>
      rw [Nat.ofDigitChars_cons]
      have hLess := ih (10 * n + (c.toNat - '0'.toNat))
      omega

/- A power that is not too large is read in full. -/
theorem foldl_appendDigit
    {cs : List Char}
    {n : Nat}
    (hDigits : AllDigits cs)
    (hSmall : Nat.ofDigitChars 10 cs n < 10000) :
    cs.foldl appendDigit n = Nat.ofDigitChars 10 cs n := by
  induction cs generalizing n with
  | nil => rfl
  | cons c cs ih =>
      have hHead := le_ofDigitChars (c :: cs) n
      have hNext : n * 10 + (c.toNat - 48) = 10 * n + (c.toNat - '0'.toNat) := by
        rw [Nat.mul_comm]
        rfl
      rw [List.foldl_cons, appendDigit, digitValue?_of_isDigit (hDigits c List.mem_cons_self)]
      simp only
      rw [if_pos (by omega), hNext]
      rw [Nat.ofDigitChars_cons] at hSmall ⊢
      exact ih (fun d hd => hDigits d (List.mem_cons_of_mem c hd)) hSmall

theorem readExponent?_powerText
    {e : Int}
    (hSmall : e.natAbs < 10000) :
    readExponent? ((if e < 0 then '-' else '+') :: Nat.toDigits 10 e.natAbs) = some e := by
  have hDigits := allDigits_toDigits e.natAbs
  have hValue := Nat.ofDigitChars_ten_toDigits (n := e.natAbs)
  have hFold := foldl_appendDigit (n := 0) hDigits (by rw [hValue]; exact hSmall)
  rw [hValue] at hFold
  have hAll :
      (Nat.toDigits 10 e.natAbs).all (fun c => c == '_' || isDigitIn 10 c) = true := by
    rw [List.all_eq_true]
    intro c hMember
    rw [isDigitIn_of_isDigit (hDigits c hMember), Bool.or_true]
  obtain ⟨first, rest, hStart⟩ :=
    List.exists_cons_of_ne_nil (Nat.toDigits_ne_nil (n := e.natAbs) (b := 10))
  have hFirst : isDigitIn 10 first = true := by
    apply isDigitIn_of_isDigit (hDigits first _)
    rw [hStart]
    exact List.mem_cons_self
  rw [hStart] at hFold hAll ⊢
  unfold readExponent?
  by_cases hNegative : e < 0
  · simp only [hNegative, if_true, splitSign, hFirst, hAll, Bool.and_self, hFold]
    congr 1
    omega
  · simp only [hNegative, if_false, splitSign, hFirst, hAll, Bool.and_self, if_true, hFold,
      Bool.false_eq_true]
    congr 1
    omega

/- A numeral is read as the nearest number. -/
theorem readDecimalFraction?_text
    {n : Numeral}
    (hShape : n.WellFormed) :
    readDecimalFraction? n.text = some (ofDecimal n.digits n.exponent) := by
  obtain ⟨point, hScan⟩ := scanMantissa_text hShape
  have hDigits := digitsValue_eq (hShape.whole.append hShape.places)
  have hSome : (n.whole ++ n.places).isEmpty = false := by
    simp [hShape.some]
  unfold readDecimalFraction?
  simp only [hScan, hSome, Bool.false_eq_true, if_false, hDigits]
  unfold Numeral.exponent Numeral.digits
  cases hPower : n.power with
  | none =>
      simp [Numeral.powerText]
  | some e =>
      have hRead := readExponent?_powerText (hShape.power e hPower)
      simp [Numeral.powerText, hRead, lowerAscii]

------------------------------------------------------------
-- Writing Numerals
------------------------------------------------------------

/- The digits of a positive number do not start with a zero. -/
theorem head?_toDigits
    {n : Nat}
    (hSome : 0 < n) :
    (Nat.toDigits 10 n).head? ≠ some '0' := by
  induction n using Nat.strongRecOn with
  | ind n ih =>
      rw [Nat.toDigits_eq_if (by decide)]
      split
      · rename_i hSmall
        have hDigit : ∀ d : Fin 10, 0 < d.val → [d.val.digitChar].head? ≠ some '0' := by
          decide
        exact hDigit ⟨n, hSmall⟩ hSome
      · rename_i hLarge
        rw [List.head?_append_of_ne_nil _ Nat.toDigits_ne_nil]
        exact ih (n / 10) (by omega) (by omega)

section

variable {cs : List Char} (hDigits : AllDigits cs) (hSome : cs ≠ [])
variable (hLeading : cs.head? ≠ some '0')

include hDigits in
/- All digits stand behind the point. -/
theorem numeral_behind
    (k : Nat) :
    let n : Numeral := ⟨['0'], List.replicate k '0' ++ cs, none⟩
    n.WellFormed ∧
      n.value = Nat.ofDigitChars 10 cs 0 * 10 ^ (-(k : Int) - cs.length) := by
  refine ⟨⟨by simp [AllDigits], (allDigits_zeros k).append hDigits, by simp, .inl rfl,
    by simp⟩, ?_⟩
  have hValue : Nat.ofDigitChars 10 (['0'] ++ (List.replicate k '0' ++ cs)) 0 =
      Nat.ofDigitChars 10 cs 0 := by
    rw [Nat.ofDigitChars_append, Nat.ofDigitChars_append]
    simp [Nat.ofDigitChars_cons]
  simp only [Numeral.value, Numeral.digits, Numeral.exponent, hValue, Option.getD_none,
    List.length_append, List.length_replicate]
  congr 2
  push_cast
  ring

include hDigits hSome hLeading in
/- All digits stand before the point. -/
theorem numeral_before
    (k : Nat) :
    let n : Numeral := ⟨cs ++ List.replicate k '0', [], none⟩
    n.WellFormed ∧ n.value = Nat.ofDigitChars 10 cs 0 * 10 ^ (k : Int) := by
  refine ⟨⟨hDigits.append (allDigits_zeros k), by simp [AllDigits], by simp [hSome], .inr ?_,
    by simp⟩, ?_⟩
  · rwa [List.head?_append_of_ne_nil _ hSome]
  · simp only [Numeral.value, Numeral.digits, Numeral.exponent, List.append_nil,
      Nat.ofDigitChars_append, Nat.ofDigitChars_replicate_zero, Option.getD_none,
      List.length_nil]
    push_cast
    ring_nf
    simp

include hDigits hSome hLeading in
/- The point stands among the digits. -/
theorem numeral_among
    {k : Nat}
    (hAbove : 0 < k)
    (hShort : k < cs.length) :
    let n : Numeral := ⟨cs.take k, cs.drop k, none⟩
    n.WellFormed ∧
      n.value = Nat.ofDigitChars 10 cs 0 * 10 ^ ((k : Int) - cs.length) := by
  have hHead : (cs.take k).head? = cs.head? := by
    rw [List.head?_take, if_neg hAbove.ne']
  refine ⟨⟨?_, ?_, ?_, .inr ?_, by simp⟩, ?_⟩
  · exact fun c hMember => hDigits c (List.mem_of_mem_take hMember)
  · exact fun c hMember => hDigits c (List.mem_of_mem_drop hMember)
  · simpa [hSome] using hAbove.ne'
  · rwa [hHead]
  · simp only [Numeral.value, Numeral.digits, Numeral.exponent, List.take_append_drop,
      Option.getD_none, List.length_drop]
    congr 2
    omega

include hDigits hSome hLeading in
/- Digits with a point among them form a numeral without a power. -/
theorem exists_pointed
    (whole : Int) :
    ∃ n : Numeral,
      n.WellFormed ∧ n.power = none ∧ n.text = (pointed (String.ofList cs) whole).toList ∧
        n.value = Nat.ofDigitChars 10 cs 0 * 10 ^ (whole - cs.length) := by
  unfold pointed
  simp only [String.length_ofList, String.toList_ofList]
  split
  · rename_i hBelow
    obtain ⟨k, hk⟩ := Int.eq_ofNat_of_zero_le (by omega : 0 ≤ -whole)
    obtain ⟨hShape, hValue⟩ := numeral_behind hDigits k
    refine ⟨_, hShape, rfl, ?_, ?_⟩
    · have hPlaces : List.replicate k '0' ++ cs ≠ [] := by simp [hSome]
      simp [Numeral.text, Numeral.placesText_of_ne_nil hPlaces, Numeral.powerText, hk]
    · rw [hValue]
      congr 2
      omega
  · split
    · rename_i hAbove hLong
      obtain ⟨k, hk⟩ := Int.eq_ofNat_of_zero_le (by omega : 0 ≤ whole - cs.length)
      obtain ⟨hShape, hValue⟩ := numeral_before hDigits hSome hLeading k
      refine ⟨_, hShape, rfl, ?_, ?_⟩
      · simp [Numeral.text, Numeral.placesText, Numeral.powerText, hk]
      · rw [hValue, hk]
    · rename_i hAbove hShort
      obtain ⟨k, hk⟩ := Int.eq_ofNat_of_zero_le (by omega : 0 ≤ whole)
      obtain ⟨hShape, hValue⟩ :=
        numeral_among hDigits hSome hLeading (k := k) (by omega) (by omega)
      refine ⟨_, hShape, rfl, ?_, ?_⟩
      · have hPlaces : cs.drop k ≠ [] := by
          simp
          omega
        simp [Numeral.text, Numeral.placesText_of_ne_nil hPlaces, Numeral.powerText, hk]
      · rw [hValue, hk]

end

/- A power scales the number that stands before it. -/
theorem value_with_power
    {n : Numeral}
    (hNone : n.power = none)
    (e : Int) :
    ({ n with power := some e } : Numeral).value = n.value * 10 ^ e := by
  have hTen : (10 : ℚ) ≠ 0 := by norm_num
  simp only [Numeral.value, Numeral.exponent, hNone, Option.getD_none, Option.getD_some]
  rw [mul_assoc, ← zpow_add₀ hTen]
  congr 2
  ring

/- The power of ten of the leading digit. -/
def leadingPower (d : Coefficient) : Int :=
  d.exponent + (Nat.toDigits 10 d.digits).length - 1

theorem padZeros_toString
    (n : Nat) :
    padZeros 1 (toString n) = String.ofList (Nat.toDigits 10 n) := by
  have hLength := Nat.length_toDigits_pos (b := 10) (n := n)
  rw [Nat.toString_eq_ofList_toDigits, padZeros, String.length_ofList,
    Nat.sub_eq_zero_of_le hLength]
  simp

/- A decimal is laid out as a numeral of the same value. -/
theorem exists_numeral
    {d : Coefficient}
    (hPower : (leadingPower d).natAbs < 10000) :
    ∃ n : Numeral,
      n.WellFormed ∧ n.text = (Layout.json.unsigned d).toList ∧ n.value = d.value := by
  unfold Layout.unsigned
  by_cases hZero : d.digits = 0
  · refine ⟨⟨['0'], [], none⟩, ⟨by simp [AllDigits], by simp [AllDigits], by simp, .inl rfl,
      by simp⟩, ?_, ?_⟩
    · simp [hZero, Numeral.text, Numeral.placesText, Numeral.powerText]
    · simp [Numeral.value, Numeral.digits, Coefficient.value, hZero, Nat.ofDigitChars_cons]
  have hSome : 0 < d.digits := Nat.pos_of_ne_zero hZero
  have hPointed :=
    exists_pointed (allDigits_toDigits d.digits) Nat.toDigits_ne_nil (head?_toDigits hSome)
  have hLead :
      d.exponent + ((toString d.digits).length : Int) - 1 = leadingPower d := by
    rw [Nat.toString_eq_ofList_toDigits, String.length_ofList, leadingPower]
  have hNonzero : (d.digits == 0) = false := by simpa using hZero
  simp only [hNonzero, Bool.false_eq_true, if_false, hLead]
  rw [Nat.toString_eq_ofList_toDigits]
  split
  · obtain ⟨n, hShape, -, hText, hValue⟩ := hPointed (leadingPower d + 1)
    refine ⟨n, hShape, hText, ?_⟩
    rw [hValue, Nat.ofDigitChars_ten_toDigits, Coefficient.value, leadingPower]
    congr 2
    ring
  · obtain ⟨n, hShape, hNone, hText, hValue⟩ := hPointed 1
    refine ⟨{ n with power := some (leadingPower d) },
      ⟨hShape.whole, hShape.places, hShape.some, hShape.leading, ?_⟩, ?_, ?_⟩
    · intro e hPresent
      cases hPresent
      exact hPower
    · have hBefore : n.text = n.whole ++ Numeral.placesText n.places := by
        rw [Numeral.text, hNone, Numeral.powerText, List.append_nil]
      rw [scientific, String.toList_append, String.toList_append, ← hText, hBefore,
        show Layout.json.exponentWidth = 1 from rfl, padZeros_toString, String.toList_ofList]
      simp only [Numeral.text, Numeral.powerText]
      split <;> simp
    · have hTen : (10 : ℚ) ≠ 0 := by norm_num
      rw [value_with_power hNone, hValue, Nat.ofDigitChars_ten_toDigits, Coefficient.value,
        leadingPower, mul_assoc, ← zpow_add₀ hTen]
      congr 2
      ring

------------------------------------------------------------
-- The Size of the Leading Digit
------------------------------------------------------------

/- A decimal has the size of its leading digit. -/
theorem value_near_leading
    {d : Coefficient}
    (hSome : 0 < d.digits) :
    (10 : ℚ) ^ leadingPower d ≤ d.value ∧ d.value < 10 ^ (leadingPower d + 1) := by
  have hTen : (10 : ℚ) ≠ 0 := by norm_num
  have hPower : (0 : ℚ) < 10 ^ d.exponent := by positivity
  obtain ⟨k, hLength⟩ :=
    Nat.exists_eq_succ_of_ne_zero (Nat.length_toDigits_pos (b := 10) (n := d.digits)).ne'
  have hHigh : d.digits < 10 ^ (k + 1) :=
    (Nat.length_toDigits_le_iff (by decide) (by omega)).mp hLength.le
  have hLow : 10 ^ k ≤ d.digits := by
    rcases Nat.eq_zero_or_pos k with rfl | hMore
    · exact hSome
    · by_contra hLess
      have hShort := (Nat.length_toDigits_le_iff (by decide) hMore).mpr (not_le.mp hLess)
      omega
  have hLeading : leadingPower d = (k : Int) + d.exponent := by
    rw [leadingPower, hLength]
    push_cast
    ring
  unfold Coefficient.value
  rw [hLeading, zpow_add₀ hTen, zpow_natCast, add_right_comm, zpow_add₀ hTen]
  constructor
  · apply mul_le_mul_of_nonneg_right _ hPower.le
    exact_mod_cast hLow
  · apply mul_lt_mul_of_pos_right _ hPower
    exact_mod_cast hHigh

/- The digits of a value have powers that are read in full. -/
theorem leadingPower_shortest
    {x : Dyadic}
    (hShape : x.Canonical) :
    (leadingPower x.shortest).natAbs < 10000 := by
  have hAttracts := Dyadic.attracts_shortest hShape.some
  have hLowerEnd := hAttracts.lowerEnd_le
  have hPositive := hShape.lowerEnd_pos.trans_le hLowerEnd
  have hSome : 0 < x.shortest.digits := by
    by_contra hNone
    simp [Coefficient.value, Nat.eq_zero_of_not_pos hNone] at hPositive
  obtain ⟨hLow, hHigh⟩ := value_near_leading hSome
  -- The largest value is smaller than a power of ten.
  have hLarge : (10 : ℚ) ^ leadingPower x.shortest < 10 ^ (1024 : Int) := by
    calc
      (10 : ℚ) ^ leadingPower x.shortest ≤ x.upperEnd := hLow.trans hAttracts.le_upperEnd
      _ < 2 ^ (53 + x.exponent) := hShape.upperEnd_lt
      _ ≤ 2 ^ (1024 : Int) := by
          apply zpow_le_zpow_right₀ one_le_two
          have := hShape.large
          omega
      _ ≤ 10 ^ (1024 : Int) := zpow_le_zpow_left₀ (by norm_num) (by norm_num) (by norm_num)
  -- Half of the smallest value is larger than another one.
  have hSmall : (10 : ℚ) ^ (-1075 : Int) < 10 ^ (leadingPower x.shortest + 1) := by
    calc
      (10 : ℚ) ^ (-1075 : Int) ≤ 2 ^ (-1075 : Int) := by
          rw [zpow_neg, zpow_neg]
          apply inv_anti₀ (by positivity)
          exact zpow_le_zpow_left₀ (by norm_num) (by norm_num) (by norm_num)
      _ = 1 / 2 * 2 ^ (-1074 : Int) := by
          rw [show (-1075 : Int) = -1074 - 1 by norm_num, zpow_sub_one₀ two_ne_zero]
          ring
      _ ≤ (x.mantissa - 1 / 2) * 2 ^ x.exponent := by
          have hOne := hShape.one_le_mantissa
          apply mul_le_mul (by linarith) _ (by positivity) (by linarith)
          exact zpow_le_zpow_right₀ one_le_two hShape.small
      _ ≤ x.shortest.value := x.half_le_lowerEnd.trans hLowerEnd
      _ < 10 ^ (leadingPower x.shortest + 1) := hHigh
  have hTen : (1 : ℚ) < 10 := by norm_num
  have hUp := (zpow_lt_zpow_iff_right₀ hTen).mp hLarge
  have hDown := (zpow_lt_zpow_iff_right₀ hTen).mp hSmall
  omega

------------------------------------------------------------
-- Signed Numerals
------------------------------------------------------------

/- The sign that is written. -/
def signText (negative : Bool) : List Char :=
  if negative then ['-'] else []

theorem splitSign_signText
    {c : Char}
    (hDigit : c.isDigit = true)
    (negative : Bool)
    (rest : List Char) :
    splitSign (signText negative ++ c :: rest) = (negative, c :: rest) := by
  cases negative with
  | true => rfl
  | false =>
      have hMinus : c ≠ '-' := ne_of_isDigit hDigit rfl
      have hPlus : c ≠ '+' := ne_of_isDigit hDigit rfl
      simp [signText, splitSign, hMinus, hPlus]

namespace Numeral

variable {n : Numeral} (hShape : n.WellFormed)

include hShape

/- A numeral starts with a digit. -/
theorem text_start :
    ∃ c rest, c.isDigit = true ∧ n.text = c :: rest := by
  obtain ⟨c, rest, hStart⟩ := List.exists_cons_of_ne_nil hShape.some
  refine ⟨c, rest ++ (placesText n.places ++ powerText n.power), ?_, ?_⟩
  · apply hShape.whole c
    rw [hStart]
    exact List.mem_cons_self
  · rw [text, hStart, List.cons_append]

/- It consists of digits and of the marks between them. -/
theorem mem_text
    {c : Char}
    (hMember : c ∈ n.text) :
    c.isDigit = true ∨ c ∈ ['.', 'e', '-', '+'] := by
  rw [text, List.mem_append, List.mem_append] at hMember
  rcases hMember with h | h | h
  · exact .inl (hShape.whole c h)
  · cases hPlaces : n.places with
    | nil =>
        rw [hPlaces] at h
        cases h
    | cons d ds =>
        rw [hPlaces, placesText] at h
        · rcases List.mem_cons.mp h with rfl | h
          · exact .inr (by decide)
          · exact .inl (hShape.places c (by rwa [hPlaces]))
        · simp
  · cases hPower : n.power with
    | none =>
        rw [hPower] at h
        cases h
    | some e =>
        rw [hPower, powerText] at h
        rcases List.mem_cons.mp h with rfl | h
        · exact .inr (by decide)
        · rcases List.mem_cons.mp h with rfl | h
          · exact .inr (by split <;> decide)
          · exact .inl (allDigits_toDigits _ c h)

end Numeral

theorem lowerAscii_of_isDigit
    {c : Char}
    (hDigit : c.isDigit = true) :
    lowerAscii c = c := by
  have hNine : c ≤ '9' := (isDigit_range hDigit).2
  have hNoLetter : ¬ ('A' ≤ c ∧ c ≤ 'Z') := by
    rintro ⟨hLetter, -⟩
    exact absurd (Char.le_trans hLetter hNine) (by decide)
  rw [lowerAscii, if_neg hNoLetter]

section

variable {n : Numeral} (hShape : n.WellFormed)

include hShape

/- A numeral is no name of a special value. -/
theorem special?_text :
    special? n.text = none := by
  obtain ⟨c, rest, hDigit, hText⟩ := Numeral.text_start hShape
  have hStart : c ≠ 'i' := ne_of_isDigit hDigit rfl
  rw [special?, hText, List.map_cons, lowerAscii_of_isDigit hDigit]
  simp [String.ext_iff, hStart]

/- Nor does it, with its sign, name what is no number. -/
theorem signed_text_ne_nan
    (negative : Bool) :
    (String.ofList ((signText negative ++ n.text).map lowerAscii) == "nan") = false := by
  obtain ⟨c, rest, hDigit, hText⟩ := Numeral.text_start hShape
  have hStart : c ≠ 'n' := ne_of_isDigit hDigit rfl
  cases negative with
  | true => simp [signText, String.ext_iff, lowerAscii]
  | false => simp [signText, hText, lowerAscii_of_isDigit hDigit, String.ext_iff, hStart]

theorem signed_text_no_underscore
    (negative : Bool) :
    (signText negative ++ n.text).contains '_' = false := by
  have hText : '_' ∉ n.text := by
    intro hMember
    have hMarks := Numeral.mem_text hShape hMember
    revert hMarks
    decide
  cases negative <;> simp [signText, hText]

/- Its second character is not the mark of another base. -/
theorem readFraction?_text :
    readFraction? n.text = some (ofDecimal n.digits n.exponent) := by
  have hDecimal := readDecimalFraction?_text hShape
  unfold readFraction?
  split
  · rename_i mark rest hText
    have hMark : (lowerAscii mark == 'x') = false := by
      have hMember : mark ∈ n.text := by
        rw [hText]
        exact List.mem_cons_of_mem _ List.mem_cons_self
      rcases Numeral.mem_text hShape hMember with hDigit | hOther
      · rw [lowerAscii_of_isDigit hDigit]
        simpa using ne_of_isDigit hDigit rfl
      · simp only [List.mem_cons, List.not_mem_nil, or_false] at hOther
        rcases hOther with rfl | rfl | rfl | rfl <;> rfl
    rw [hMark]
    exact hDecimal
  · exact hDecimal

/- A numeral with a sign is read as the nearest number with this sign. -/
theorem readFloat?_numeral
    (negative : Bool)
    (hFinite : (ofDecimal n.digits n.exponent).isInf = false) :
    readFloat? (String.ofList (signText negative ++ n.text)) =
      some (if negative then -ofDecimal n.digits n.exponent
        else ofDecimal n.digits n.exponent) := by
  obtain ⟨c, rest, hDigit, hText⟩ := Numeral.text_start hShape
  have hSplit : splitSign (signText negative ++ n.text) = (negative, n.text) := by
    rw [hText]
    exact splitSign_signText hDigit negative rest
  unfold readFloat?
  simp only [String.toList_ofList, hSplit, special?_text hShape,
    signed_text_ne_nan hShape, signed_text_no_underscore hShape, Bool.false_and,
    Bool.false_eq_true, if_false, readFraction?_text hShape, Option.filter_some, hFinite,
    Bool.not_false, if_true, Option.map_some]

end

------------------------------------------------------------
-- Reading Back
------------------------------------------------------------

/- A finite number is written as a numeral with its sign. -/
theorem exists_numeral_render
    {x : Float}
    (hFinite : IsFinite x) :
    ∃ n : Numeral,
      n.WellFormed ∧
        Layout.json.render x = String.ofList (signText (signBit x) ++ n.text) ∧
        n.value = (Dyadic.ofBits x.toBits).shortest.value := by
  have hPower : (leadingPower (Dyadic.ofBits x.toBits).shortest).natAbs < 10000 := by
    by_cases hZero : magnitude x.toBits = 0
    · have hDyadic : Dyadic.ofBits x.toBits = ⟨0, -1074, false⟩ := by
        rw [dyadic_ofBits, hZero]
        rfl
      rw [hDyadic]
      decide
    · exact leadingPower_shortest (canonical_ofBits (magnitude_lt hFinite) hZero)
  obtain ⟨n, hShape, hText, hValue⟩ := exists_numeral hPower
  refine ⟨n, hShape, ?_, hValue⟩
  rw [hText]
  simp only [Layout.render, hFinite.1, hFinite.2, Bool.false_eq_true, if_false]
  cases signBit x <;> simp [signText]

/- A finite number reads back. -/
theorem readFloat?_render
    {x : Float}
    (hFinite : IsFinite x) :
    readFloat? (Layout.json.render x) = some x := by
  obtain ⟨n, hShape, hText, hValue⟩ := exists_numeral_render hFinite
  have hInfinite := isInf_nearest_shortest hFinite hValue
  rw [hText, readFloat?_numeral hShape _ hInfinite]
  exact congrArg some (nearest_shortest hFinite hValue)

/- The digits of a natural number form a numeral. -/
theorem wellFormed_toDigits
    (k : Nat) :
    (Numeral.mk (Nat.toDigits 10 k) [] none).WellFormed := by
  refine ⟨allDigits_toDigits k, by simp [AllDigits], Nat.toDigits_ne_nil, ?_, by simp⟩
  rcases Nat.eq_zero_or_pos k with rfl | hSome
  · exact .inl rfl
  · exact .inr (head?_toDigits hSome)

/- An integer is written as its digits with its sign. -/
theorem toString_eq_signed
    (k : Int) :
    toString k = String.ofList (signText (decide (k < 0)) ++ Nat.toDigits 10 k.natAbs) := by
  rw [Int.toString_eq_repr, Int.repr_eq_if]
  split
  · rename_i hPlus
    rw [Nat.repr_eq_ofList_toDigits, show k.toNat = k.natAbs by omega,
      decide_eq_false (by omega : ¬ k < 0)]
    rfl
  · rename_i hMinus
    rw [Nat.repr_eq_ofList_toDigits, show (-k).toNat = k.natAbs by omega,
      decide_eq_true (by omega : k < 0), String.ofList_append]
    rfl

/- The sign of an integer is told from its digits. -/
theorem splitSign_toString
    (k : Int) :
    splitSign (toString k).toList = (decide (k < 0), Nat.toDigits 10 k.natAbs) := by
  obtain ⟨c, rest, hStart⟩ :=
    List.exists_cons_of_ne_nil (Nat.toDigits_ne_nil (n := k.natAbs) (b := 10))
  rw [toString_eq_signed, String.toList_ofList, hStart]
  apply splitSign_signText
  apply allDigits_toDigits k.natAbs
  rw [hStart]
  exact List.mem_cons_self

/- Integers are told apart by their texts, whatever their size. -/
theorem eq_of_toString
    {k m : Int}
    (hSame : toString k = toString m) :
    k = m := by
  have hSplit := congrArg (fun s => splitSign s.toList) hSame
  simp only [splitSign_toString, Prod.mk.injEq, decide_eq_decide] at hSplit
  have hSize := congrArg (Nat.ofDigitChars 10 · 0) hSplit.2
  simp only [Nat.ofDigitChars_ten_toDigits] at hSize
  have hSign := hSplit.1
  omega

/- An integer reads back if it has a size that is read. -/
theorem readInteger?_toString
    (k : Int) :
    readInteger? (toString k) = int64? k := by
  have hDigits := allDigits_toDigits k.natAbs
  have hAll : (Nat.toDigits 10 k.natAbs).all (isDigitIn 10) = true := by
    rw [List.all_eq_true]
    exact fun d hd => isDigitIn_of_isDigit (hDigits d hd)
  have hSome : (Nat.toDigits 10 k.natAbs).isEmpty = false :=
    List.isEmpty_eq_false_iff.mpr Nat.toDigits_ne_nil
  rw [readInteger?, splitSign_toString]
  simp only [readSigned?, hAll, hSome, digitsValue_eq hDigits, Nat.ofDigitChars_ten_toDigits,
    Bool.not_true, Bool.or_self, Bool.false_eq_true, if_false]
  congr 1
  split
  · rename_i hMinus
    have := of_decide_eq_true hMinus
    omega
  · rename_i hPlus
    rw [decide_eq_true_iff] at hPlus
    omega

end Timetable.Decimal
