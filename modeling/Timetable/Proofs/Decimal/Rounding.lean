import Mathlib.Algebra.Order.Field.Power
import Mathlib.Algebra.Order.Field.Rat
import Mathlib.Tactic.FieldSimp
import Mathlib.Tactic.Linarith
import Mathlib.Tactic.NormNum
import Mathlib.Tactic.Positivity
import Mathlib.Tactic.Ring
import Timetable.Decimal.Nearest

/-
  This file proves that the digits which are selected for a
  binary64 value are rounded to this value again.  Both the
  selection and the rounding are compared with the rationals
  that are nearest to the value.

  Key definitions include:
    * `Dyadic.value`, `Coefficient.value`
    * `Dyadic.Attracts`
    * `Dyadic.Canonical`
    * `Dyadic.bits`

  Main theorems include:
    * `Dyadic.readsBack_iff`: a decimal reads back when it is
      attracted
    * `Dyadic.attracts_shortest`: the selected decimal is
    * `nearestBits_of_attracts`: what a value attracts is
      rounded to it
-/

namespace Timetable.Decimal

------------------------------------------------------------
-- Exact Values
------------------------------------------------------------

/- The number that a dyadic stands for. -/
def Dyadic.value (x : Dyadic) : ℚ :=
  x.mantissa * 2 ^ x.exponent

/- The number that a decimal stands for. -/
def Coefficient.value (d : Coefficient) : ℚ :=
  d.digits * 10 ^ d.exponent

/- A scaled number as a quotient of natural ones. -/
theorem mul_zpow_eq_div
    (a b : Nat)
    (i : Int) :
    (a : ℚ) * (b : ℚ) ^ i = (a * b ^ i.toNat : Nat) / (b ^ (-i).toNat : Nat) := by
  rcases Int.le_total 0 i with h | h
  · obtain ⟨n, rfl⟩ := Int.eq_ofNat_of_zero_le h
    simp
  · obtain ⟨n, hNegated⟩ := Int.eq_ofNat_of_zero_le (Int.neg_nonneg_of_nonpos h)
    obtain rfl : i = -n := by omega
    simp [div_eq_mul_inv]

/- Quotients compare as the cross products do. -/
theorem compare_div
    {p q r s : Nat}
    (hLeft : 0 < q)
    (hRight : 0 < s) :
    compare (p * s) (r * q) = compare ((p : ℚ) / q) ((r : ℚ) / s) := by
  have hq : (0 : ℚ) < q := by exact_mod_cast hLeft
  have hs : (0 : ℚ) < s := by exact_mod_cast hRight
  rcases lt_trichotomy (p * s) (r * q) with h | h | h
  · rw [compare_lt_iff_lt.mpr h, eq_comm, compare_lt_iff_lt, div_lt_div_iff₀ hq hs]
    exact_mod_cast h
  · rw [compare_eq_iff_eq.mpr h, eq_comm, compare_eq_iff_eq, div_eq_div_iff hq.ne' hs.ne']
    exact_mod_cast h
  · rw [compare_gt_iff_gt.mpr h, eq_comm, compare_gt_iff_gt, div_lt_div_iff₀ hs hq]
    exact_mod_cast h

theorem compareScaled_eq
    (a : Nat)
    (i : Int)
    (n : Nat)
    (j : Int) :
    compareScaled a i n j = compare ((a : ℚ) * 10 ^ i) ((n : ℚ) * 2 ^ j) := by
  have hTens := mul_zpow_eq_div a 10 i
  have hTwos := mul_zpow_eq_div n 2 j
  rw [Nat.cast_ofNat] at hTens hTwos
  rw [hTens, hTwos, ← compare_div (by positivity) (by positivity)]
  rfl

------------------------------------------------------------
-- What a Value Attracts
------------------------------------------------------------

namespace Dyadic

/- The middle between a value and the one below it. -/
def lowerEnd (x : Dyadic) : ℚ :=
  (x.mantissa - if x.narrowBelow then 1 / 4 else 1 / 2) * 2 ^ x.exponent

/- The middle between a value and the one above it. -/
def upperEnd (x : Dyadic) : ℚ :=
  (x.mantissa + 1 / 2) * 2 ^ x.exponent

/-
  A number is nearer to the value than to any other, or as
  near as to another one with an odd mantissa.
-/
def Attracts
    (x : Dyadic)
    (v : ℚ) : Prop :=
  (x.lowerEnd < v ∨ x.mantissa % 2 = 0 ∧ v = x.lowerEnd) ∧
    (v < x.upperEnd ∨ x.mantissa % 2 = 0 ∧ v = x.upperEnd)

theorem two_zpow_pos
    (i : Int) :
    (0 : ℚ) < 2 ^ i :=
  zpow_pos two_pos i

theorem zpow_sub_two
    (i : Int) :
    (2 : ℚ) ^ (i - 2) = 2 ^ i / 4 := by
  rw [zpow_sub₀ two_ne_zero]
  norm_num

/- The ends are the numbers that the selection of digits compares with. -/
theorem readsBack_iff
    {x : Dyadic}
    (hSome : 0 < x.mantissa)
    (d : Coefficient) :
    x.readsBack d = true ↔ x.Attracts d.value := by
  have hLow :
      (((if x.narrowBelow then 4 * x.mantissa - 1 else 4 * x.mantissa - 2 : Nat) : Nat) : ℚ) *
        2 ^ (x.exponent - 2) = x.lowerEnd := by
    unfold lowerEnd
    rw [zpow_sub_two]
    split
    · rw [Nat.cast_sub (by omega)]
      push_cast
      ring
    · rw [Nat.cast_sub (by omega)]
      push_cast
      ring
  have hHigh : ((4 * x.mantissa + 2 : Nat) : ℚ) * 2 ^ (x.exponent - 2) = x.upperEnd := by
    unfold upperEnd
    rw [zpow_sub_two]
    push_cast
    ring
  unfold readsBack Attracts Coefficient.value
  simp only [compareScaled_eq, hLow, hHigh, Bool.and_eq_true, Bool.or_eq_true, beq_iff_eq,
    compare_gt_iff_gt, compare_lt_iff_lt, compare_eq_iff_eq]

theorem lowerEnd_lt_value
    (x : Dyadic) :
    x.lowerEnd < x.value := by
  have hPower := two_zpow_pos x.exponent
  unfold lowerEnd value
  apply mul_lt_mul_of_pos_right _ hPower
  split <;> linarith

theorem value_lt_upperEnd
    (x : Dyadic) :
    x.value < x.upperEnd := by
  have hPower := two_zpow_pos x.exponent
  unfold upperEnd value
  apply mul_lt_mul_of_pos_right _ hPower
  linarith

theorem attracts_value
    (x : Dyadic) :
    x.Attracts x.value :=
  ⟨.inl x.lowerEnd_lt_value, .inl x.value_lt_upperEnd⟩

------------------------------------------------------------
-- Selected Digits
------------------------------------------------------------

theorem value_exactDecimal
    (x : Dyadic) :
    (exactDecimal x).value = x.value := by
  unfold exactDecimal Coefficient.value value
  split
  · rename_i hWhole
    obtain ⟨n, hn⟩ := Int.eq_ofNat_of_zero_le hWhole
    simp [hn]
  · rename_i hBroken
    obtain ⟨n, hn⟩ := Int.eq_ofNat_of_zero_le (by omega : 0 ≤ -x.exponent)
    obtain hExponent : x.exponent = -n := by omega
    have hTen : (10 : ℚ) ^ n = 5 ^ n * 2 ^ n := by
      rw [← mul_pow]
      norm_num
    simp [hExponent, hTen]
    field_simp

theorem value_stripZeros
    (fuel : Nat)
    (d : Coefficient) :
    (stripZeros fuel d).value = d.value := by
  induction fuel generalizing d with
  | zero => rfl
  | succ fuel ih =>
      rw [stripZeros]
      split
      · rename_i hZero
        have hTens : d.digits % 10 = 0 := by simp_all
        have hDigits : d.digits = d.digits / 10 * 10 := by omega
        rw [ih]
        unfold Coefficient.value
        simp only [zpow_add_one₀ (by norm_num : (10 : ℚ) ≠ 0)]
        rw [hDigits]
        push_cast
        simp
        ring
      · rfl

theorem readsBack_of_gridPoint
    {x : Dyadic}
    {k : Int}
    {d : Coefficient}
    (hPoint : gridPoint x k = some d) :
    x.readsBack d = true := by
  unfold gridPoint at hPoint
  grind

/- The selected decimal is rounded to the value. -/
theorem attracts_shortest
    {x : Dyadic}
    (hSome : 0 < x.mantissa) :
    x.Attracts x.shortest.value := by
  have hNonzero : (x.mantissa == 0) = false := by
    simpa using Nat.ne_of_gt hSome
  simp only [shortest, hNonzero, Bool.false_eq_true, if_false, value_stripZeros]
  cases hFound : (List.range 17).findSome? (fun i => gridPoint x (x.scale - (i + 1 : Nat))) with
  | none =>
      rw [Option.getD_none, value_exactDecimal]
      exact x.attracts_value
  | some d =>
      obtain ⟨i, -, hPoint⟩ := List.exists_of_findSome?_eq_some hFound
      exact (readsBack_iff hSome d).mp (readsBack_of_gridPoint hPoint)

end Dyadic

------------------------------------------------------------
-- The Scale of a Quotient
------------------------------------------------------------

section

variable {num den : Nat} (hNum : 0 < num) (hDen : 0 < den)

include hNum hDen

/- The logarithms bound a quotient from both sides. -/
theorem quotient_near_estimate :
    (2 : ℚ) ^ ((num.log2 : Int) - den.log2 - 1) < (num : ℚ) / den ∧
      (num : ℚ) / den < 2 ^ ((num.log2 : Int) - den.log2 + 1) := by
  have hDenPos : (0 : ℚ) < den := by exact_mod_cast hDen
  have hNumLow : (2 : ℚ) ^ num.log2 ≤ num := by
    exact_mod_cast Nat.log2_self_le hNum.ne'
  have hNumHigh : (num : ℚ) < 2 ^ (num.log2 + 1) := by
    exact_mod_cast Nat.lt_log2_self
  have hDenLow : (2 : ℚ) ^ den.log2 ≤ den := by
    exact_mod_cast Nat.log2_self_le hDen.ne'
  have hDenHigh : (den : ℚ) < 2 ^ (den.log2 + 1) := by
    exact_mod_cast Nat.lt_log2_self
  constructor
  · rw [lt_div_iff₀ hDenPos]
    calc
      (2 : ℚ) ^ ((num.log2 : Int) - den.log2 - 1) * den
        < 2 ^ ((num.log2 : Int) - den.log2 - 1) * 2 ^ (den.log2 + 1) :=
          mul_lt_mul_of_pos_left hDenHigh (zpow_pos two_pos _)
      _ = 2 ^ num.log2 := by
          rw [← zpow_natCast, ← zpow_natCast, ← zpow_add₀ two_ne_zero]
          congr 1
          push_cast
          ring
      _ ≤ num := hNumLow
  · rw [div_lt_iff₀ hDenPos]
    calc
      (num : ℚ) < 2 ^ (num.log2 + 1) := hNumHigh
      _ = 2 ^ ((num.log2 : Int) - den.log2 + 1) * 2 ^ den.log2 := by
          rw [← zpow_natCast, ← zpow_natCast, ← zpow_add₀ two_ne_zero]
          congr 1
          push_cast
          ring
      _ ≤ 2 ^ ((num.log2 : Int) - den.log2 + 1) * den :=
          mul_le_mul_of_nonneg_left hDenLow (zpow_pos two_pos _).le

/- The scale is the place of the leading binary digit. -/
theorem binaryScale_spec :
    (2 : ℚ) ^ binaryScale num den ≤ (num : ℚ) / den ∧
      (num : ℚ) / den < 2 ^ (binaryScale num den + 1) := by
  have hDenPos : (0 : ℚ) < den := by exact_mod_cast hDen
  have hNear := quotient_near_estimate hNum hDen
  have hTest : ∀ k : Int,
      den * Nat.pow 2 k.toNat ≤ num * Nat.pow 2 (-k).toNat ↔ (2 : ℚ) ^ k ≤ (num : ℚ) / den := by
    intro k
    have hPower := mul_zpow_eq_div 1 2 k
    rw [Nat.cast_one, one_mul, Nat.cast_ofNat, one_mul] at hPower
    rw [hPower, div_le_div_iff₀ (by positivity) hDenPos]
    norm_cast
    rw [Nat.mul_comm den]
    exact Iff.rfl
  unfold binaryScale
  simp only [hTest]
  split
  · exact ⟨by assumption, hNear.2⟩
  · rename_i hBelow
    rw [Int.sub_add_cancel]
    exact ⟨hNear.1.le, not_le.mp hBelow⟩

/- No other power of two could be the scale. -/
theorem binaryScale_eq
    {k : Int}
    (hLow : (2 : ℚ) ^ k ≤ (num : ℚ) / den)
    (hHigh : (num : ℚ) / den < 2 ^ (k + 1)) :
    binaryScale num den = k := by
  obtain ⟨hScaleLow, hScaleHigh⟩ := binaryScale_spec hNum hDen
  have hUp := (zpow_lt_zpow_iff_right₀ one_lt_two).mp (hScaleLow.trans_lt hHigh)
  have hDown := (zpow_lt_zpow_iff_right₀ one_lt_two).mp (hLow.trans_lt hScaleHigh)
  omega

end

------------------------------------------------------------
-- Rounding
------------------------------------------------------------

/- A quotient lies within half a step of a natural number, or at the end of it. -/
theorem quotient_within
    {num den r : Nat}
    (hDen : 0 < den)
    (hLow : (r : ℚ) - 1 / 2 < num / den ∨ r % 2 = 0 ∧ (num : ℚ) / den = r - 1 / 2)
    (hHigh : (num : ℚ) / den < r + 1 / 2 ∨ r % 2 = 0 ∧ (num : ℚ) / den = r + 1 / 2) :
    (2 * (r * den) < 2 * num + den ∨ r % 2 = 0 ∧ 2 * (r * den) = 2 * num + den) ∧
      (2 * num < 2 * (r * den) + den ∨ r % 2 = 0 ∧ 2 * num = 2 * (r * den) + den) := by
  have hDenPos : (0 : ℚ) < den := by exact_mod_cast hDen
  constructor
  · refine hLow.imp (fun hLow => ?_) (fun hLow => ⟨hLow.1, ?_⟩)
    · rw [lt_div_iff₀ hDenPos] at hLow
      have : (2 * (r * den) : ℚ) < 2 * num + den := by linarith
      exact_mod_cast this
    · have hExact := (div_eq_iff hDenPos.ne').mp hLow.2
      have : (2 * (r * den) : ℚ) = 2 * num + den := by linarith
      exact_mod_cast this
  · refine hHigh.imp (fun hHigh => ?_) (fun hHigh => ⟨hHigh.1, ?_⟩)
    · rw [div_lt_iff₀ hDenPos] at hHigh
      have : (2 * num : ℚ) < 2 * (r * den) + den := by linarith
      exact_mod_cast this
    · have hExact := (div_eq_iff hDenPos.ne').mp hHigh.2
      have : (2 * num : ℚ) = 2 * (r * den) + den := by linarith
      exact_mod_cast this

/- The nearest natural number is found, and the even one of two. -/
theorem roundDivEven_eq
    {num den r : Nat}
    (hDen : 0 < den)
    (hLow : (r : ℚ) - 1 / 2 < num / den ∨ r % 2 = 0 ∧ (num : ℚ) / den = r - 1 / 2)
    (hHigh : (num : ℚ) / den < r + 1 / 2 ∨ r % 2 = 0 ∧ (num : ℚ) / den = r + 1 / 2) :
    roundDivEven num den = r := by
  obtain ⟨hAbove, hBelow⟩ := quotient_within hDen hLow hHigh
  have hParts := Nat.div_add_mod num den
  have hRest := Nat.mod_lt num hDen
  unfold roundDivEven
  simp only
  generalize num / den = quotient at hParts ⊢
  generalize num % den = rest at hParts hRest ⊢
  rw [Nat.mul_comm den] at hParts
  -- The quotient rounded down is the result or the number before it.
  have hCases : r = quotient ∨ r = quotient + 1 := by
    by_contra hOther
    rcases Nat.lt_or_ge r quotient with h | h
    · have hStep := Nat.mul_le_mul_right den (Nat.succ_le_of_lt h)
      rw [Nat.succ_mul] at hStep
      omega
    · have hStep := Nat.mul_le_mul_right den (show quotient + 1 + 1 ≤ r by omega)
      rw [Nat.add_mul, Nat.add_mul] at hStep
      omega
  have hNext : (quotient + 1) * den = quotient * den + den := Nat.succ_mul _ _
  cases hOrder : compare (2 * rest) den with
  | lt =>
      have hLess := compare_lt_iff_lt.mp hOrder
      rcases hCases with rfl | rfl
      · rfl
      · omega
  | gt =>
      have hMore := compare_gt_iff_gt.mp hOrder
      rcases hCases with rfl | rfl
      · omega
      · rfl
  | eq =>
      have hHalf := compare_eq_iff_eq.mp hOrder
      simp only [beq_iff_eq]
      rcases hCases with rfl | rfl <;> split <;> omega

------------------------------------------------------------
-- Rounding to Binary64
------------------------------------------------------------

/- A dyadic has the shape of a finite binary64 value other than zero. -/
structure Dyadic.Canonical (x : Dyadic) : Prop where
  some : 0 < x.mantissa
  short : x.mantissa < 2 ^ 53
  small : -1074 ≤ x.exponent
  large : x.exponent ≤ 971
  normal : 2 ^ 52 ≤ x.mantissa ∨ x.exponent = -1074
  narrow : x.narrowBelow = true ↔ x.mantissa = 2 ^ 52 ∧ -1074 < x.exponent

/- The bits of a value, which count the values up to it. -/
def Dyadic.bits (x : Dyadic) : Nat :=
  (x.exponent + 1074).toNat * 2 ^ 52 + x.mantissa

theorem Dyadic.Canonical.bits_lt
    {x : Dyadic}
    (hShape : x.Canonical) :
    x.bits < infiniteBits := by
  have hShort := hShape.short
  have hLarge := hShape.large
  unfold bits infiniteBits
  omega

section

variable {num den : Nat} (hNum : 0 < num) (hDen : 0 < den)

include hNum hDen

/- The bits from the grid of a quotient, and from the step of the grid it is rounded to. -/
theorem nearestBits_eq
    {grid : Int}
    {r : Nat}
    (hGrid : spacing num den = grid)
    (hLow :
      (r - 1 / 2 : ℚ) * 2 ^ grid < num / den ∨
        r % 2 = 0 ∧ (num : ℚ) / den = (r - 1 / 2) * 2 ^ grid)
    (hHigh :
      (num : ℚ) / den < (r + 1 / 2) * 2 ^ grid ∨
        r % 2 = 0 ∧ (num : ℚ) / den = (r + 1 / 2) * 2 ^ grid) :
    nearestBits num den =
      min ((grid + 1074).toNat * 2 ^ 52 + r) infiniteBits := by
  have hPower := Dyadic.two_zpow_pos grid
  have hScaled :
      ((num * 2 ^ (-grid).toNat : Nat) : ℚ) / (den * 2 ^ grid.toNat : Nat) =
        num / den / 2 ^ grid := by
    have hStep := mul_zpow_eq_div 1 2 grid
    rw [Nat.cast_one, one_mul, Nat.cast_ofNat, one_mul] at hStep
    rw [hStep]
    push_cast
    rw [div_div_eq_mul_div, div_mul_eq_mul_div, div_div]
  have hRound :
      roundDivEven (num * Nat.pow 2 (-grid).toNat) (den * Nat.pow 2 grid.toNat) = r := by
    simp only [Nat.pow_eq]
    apply roundDivEven_eq (by positivity)
    · rw [hScaled]
      refine hLow.imp (fun h => ?_) (fun h => ⟨h.1, ?_⟩)
      · exact (lt_div_iff₀ hPower).mpr h
      · exact (div_eq_iff hPower.ne').mpr h.2
    · rw [hScaled]
      refine hHigh.imp (fun h => ?_) (fun h => ⟨h.1, ?_⟩)
      · exact (div_lt_iff₀ hPower).mpr h
      · exact (div_eq_iff hPower.ne').mpr h.2
  have hNonzero : (num == 0) = false := by
    simpa using Nat.ne_of_gt hNum
  simp only [nearestBits, hNonzero, Bool.false_eq_true, if_false, hGrid, hRound]
  rfl

end

namespace Dyadic

variable {x : Dyadic} {v : ℚ}

theorem Attracts.lowerEnd_le
    (hAttracts : x.Attracts v) :
    x.lowerEnd ≤ v := by
  rcases hAttracts.1 with h | ⟨-, h⟩
  · exact h.le
  · exact h.ge

theorem Attracts.le_upperEnd
    (hAttracts : x.Attracts v) :
    v ≤ x.upperEnd := by
  rcases hAttracts.2 with h | ⟨-, h⟩
  · exact h.le
  · exact h.le

theorem half_le_lowerEnd
    (x : Dyadic) :
    (x.mantissa - 1 / 2 : ℚ) * 2 ^ x.exponent ≤ x.lowerEnd := by
  unfold lowerEnd
  apply mul_le_mul_of_nonneg_right _ (two_zpow_pos _).le
  split <;> linarith

theorem zpow_add_nat
    (n : Nat)
    (i : Int) :
    (2 : ℚ) ^ (n + i) = 2 ^ n * 2 ^ i := by
  rw [zpow_add₀ two_ne_zero, zpow_natCast]

namespace Canonical

variable (hShape : x.Canonical)

include hShape

theorem one_le_mantissa : (1 : ℚ) ≤ x.mantissa := by
  exact_mod_cast hShape.some

/- What a value attracts is larger than zero. -/
theorem lowerEnd_pos : 0 < x.lowerEnd := by
  have hSome := hShape.one_le_mantissa
  have hPower := two_zpow_pos x.exponent
  refine lt_of_lt_of_le ?_ x.half_le_lowerEnd
  exact mul_pos (by linarith) hPower

/- It does not need a further digit. -/
theorem upperEnd_lt : x.upperEnd < 2 ^ (53 + x.exponent) := by
  have hShort : (x.mantissa : ℚ) + 1 ≤ 2 ^ 53 := by exact_mod_cast hShape.short
  have hWhole := zpow_add_nat 53 x.exponent
  rw [Nat.cast_ofNat] at hWhole
  rw [hWhole]
  unfold upperEnd
  exact mul_lt_mul_of_pos_right (by linarith) (two_zpow_pos _)

/-
  A number below the powers of two that have the size of the
  value is attracted by the least of them only, which has
  values on the finer grid below it.
-/
theorem eq_power_of_lt
    (hAttracts : x.Attracts v)
    (hNormal : -1074 < x.exponent)
    (hBelow : v < 2 ^ (52 + x.exponent)) :
    x.mantissa = 2 ^ 52 ∧ x.narrowBelow = true := by
  have hLeast : 2 ^ 52 ≤ x.mantissa := by
    rcases hShape.normal with h | h
    · exact h
    · omega
  have hMantissa : x.mantissa = 2 ^ 52 := by
    by_contra hOther
    have hMore : (2 ^ 52 + 1 : ℚ) ≤ x.mantissa := by
      exact_mod_cast (by omega : 2 ^ 52 + 1 ≤ x.mantissa)
    have hWhole := zpow_add_nat 52 x.exponent
    rw [Nat.cast_ofNat] at hWhole
    rw [hWhole] at hBelow
    have hLow := (x.half_le_lowerEnd.trans hAttracts.lowerEnd_le).trans_lt hBelow
    have hLess := lt_of_mul_lt_mul_right hLow (two_zpow_pos _).le
    linarith
  exact ⟨hMantissa, hShape.narrow.mpr ⟨hMantissa, hNormal⟩⟩

end Canonical

end Dyadic

section

variable {x : Dyadic} {num den : Nat} (hShape : x.Canonical) (hNum : 0 < num) (hDen : 0 < den)
variable (hAttracts : x.Attracts ((num : ℚ) / den))

include hShape hNum hDen hAttracts

/- What is attracted lies on the grid of the value, unless it is below its power of two. -/
theorem spacing_eq_exponent
    (hAbove : x.exponent = -1074 ∨ (2 : ℚ) ^ (52 + x.exponent) ≤ (num : ℚ) / den) :
    spacing num den = x.exponent := by
  have hHigh := hAttracts.le_upperEnd.trans_lt hShape.upperEnd_lt
  have hScale := binaryScale_spec hNum hDen
  have hUp := (zpow_lt_zpow_iff_right₀ one_lt_two).mp (hScale.1.trans_lt hHigh)
  unfold spacing
  rcases hAbove with hLeast | hAbove
  · omega
  · have hDown := (zpow_lt_zpow_iff_right₀ one_lt_two).mp (hAbove.trans_lt hScale.2)
    have hSmall := hShape.small
    omega

theorem nearestBits_on_grid
    (hGrid : spacing num den = x.exponent) :
    nearestBits num den = x.bits := by
  have hBits := hShape.bits_lt
  rw [nearestBits_eq hNum hDen hGrid (r := x.mantissa)]
  · exact Nat.min_eq_left hBits.le
  · rcases hAttracts.1 with h | ⟨hEven, h⟩
    · exact .inl (x.half_le_lowerEnd.trans_lt h)
    · rcases x.half_le_lowerEnd.lt_or_eq with hLess | hSame
      · exact .inl (hLess.trans_eq h.symm)
      · exact .inr ⟨hEven, h.trans hSame.symm⟩
  · exact hAttracts.2

/- Below a power of two the grid is finer, and rounding carries. -/
theorem nearestBits_below_power
    (hNormal : -1074 < x.exponent)
    (hBelow : (num : ℚ) / den < 2 ^ (52 + x.exponent)) :
    nearestBits num den = x.bits := by
  obtain ⟨hMantissa, hNarrow⟩ := hShape.eq_power_of_lt hAttracts hNormal hBelow
  have hFine : (2 : ℚ) ^ x.exponent = 2 * 2 ^ (x.exponent - 1) := by
    rw [zpow_sub_one₀ two_ne_zero]
    ring
  have hPower := Dyadic.two_zpow_pos (x.exponent - 1)
  have hLowerEnd : x.lowerEnd = (2 ^ 53 - 1 / 2) * 2 ^ (x.exponent - 1) := by
    unfold Dyadic.lowerEnd
    rw [hMantissa, hNarrow, hFine, if_pos rfl]
    push_cast
    ring
  have hUpper : (2 : ℚ) ^ (52 + x.exponent) = 2 ^ 53 * 2 ^ (x.exponent - 1) := by
    rw [show (52 + x.exponent : Int) = ((53 : Nat) : Int) + (x.exponent - 1) by push_cast; ring,
      Dyadic.zpow_add_nat]
  have hLow := hAttracts.lowerEnd_le
  have hScale : binaryScale num den = 51 + x.exponent := by
    apply binaryScale_eq hNum hDen
    · refine le_trans ?_ hLow
      rw [show (51 + x.exponent : Int) = ((52 : Nat) : Int) + (x.exponent - 1) by push_cast; ring,
        Dyadic.zpow_add_nat, hLowerEnd]
      exact mul_le_mul_of_nonneg_right (by norm_num) hPower.le
    · rwa [show (51 + x.exponent + 1 : Int) = 52 + x.exponent by ring]
  have hGrid : spacing num den = x.exponent - 1 := by
    unfold spacing
    omega
  have hBits := hShape.bits_lt
  unfold Dyadic.bits at hBits ⊢
  rw [nearestBits_eq hNum hDen hGrid (r := 2 ^ 53), Nat.min_eq_left]
  · omega
  · omega
  · rw [Nat.cast_pow, Nat.cast_ofNat, ← hLowerEnd]
    rcases hAttracts.1 with h | ⟨-, h⟩
    · exact .inl h
    · exact .inr ⟨by decide, h⟩
  · refine .inl (hBelow.trans_le ?_)
    rw [hUpper]
    push_cast
    exact mul_le_mul_of_nonneg_right (by norm_num) hPower.le

end

/- What a value attracts is rounded to it. -/
theorem nearestBits_of_attracts
    {x : Dyadic}
    {num den : Nat}
    (hShape : x.Canonical)
    (hDen : 0 < den)
    (hAttracts : x.Attracts ((num : ℚ) / den)) :
    nearestBits num den = x.bits := by
  have hNum : 0 < num := by
    have hPos := hShape.lowerEnd_pos.trans_le hAttracts.lowerEnd_le
    by_contra hZero
    simp [Nat.eq_zero_of_not_pos hZero] at hPos
  rcases hShape.small.eq_or_lt with hLeast | hNormal
  · exact nearestBits_on_grid hShape hNum hDen hAttracts
      (spacing_eq_exponent hShape hNum hDen hAttracts (.inl hLeast.symm))
  · rcases le_or_gt ((2 : ℚ) ^ (52 + x.exponent)) ((num : ℚ) / den) with hAbove | hBelow
    · exact nearestBits_on_grid hShape hNum hDen hAttracts
        (spacing_eq_exponent hShape hNum hDen hAttracts (.inr hAbove))
    · exact nearestBits_below_power hShape hNum hDen hAttracts hNormal hBelow

end Timetable.Decimal
