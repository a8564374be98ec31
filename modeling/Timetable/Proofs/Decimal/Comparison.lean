import Timetable.Proofs.Decimal.Bits

/-
  This file compares binary64 values.  Every two values that
  are numbers can be compared, and the product of finite
  values is a number, if perhaps an infinite one.

  Main theorems include:
    * `compare_swap`
    * `not_le_of_lt`
    * `lt_of_not_le`
    * `isNaN_mul`
-/

namespace Timetable.Decimal

open Float.Model (Format UnpackedFloat)
open Float.Model.UnpackedFloat

------------------------------------------------------------
-- Order
------------------------------------------------------------

/- Comparing two values the other way round gives the opposite answer. -/
theorem compare_swap
    (a b : UnpackedFloat) :
    b.compare a = (a.compare b).map Ordering.swap := by
  cases a with
  | notANumber => cases b <;> rfl
  | infinity s =>
      cases b with
      | infinity t => cases s <;> cases t <;> rfl
      | _ => cases s <;> rfl
  | zero s =>
      cases b with
      | infinity t => cases t <;> rfl
      | finite t => cases t <;> rfl
      | _ => rfl
  | finite s m e hm =>
      cases b with
      | infinity t => cases s <;> cases t <;> rfl
      | finite t n f hn =>
          have hSwap :
              (compare f e).then (compare n m) =
                ((compare e f).then (compare m n)).swap := by
            rw [Ordering.swap_then, Int.compare_swap, Nat.compare_swap]
          cases s <;> cases t <;>
            simp [UnpackedFloat.compare, hSwap]
      | _ => cases s <;> rfl

/- Numbers can be compared. -/
theorem compare_isSome
    {a b : UnpackedFloat}
    (ha : a.isNaN = false)
    (hb : b.isNaN = false) :
    (a.compare b).isSome = true := by
  cases b with
  | notANumber => cases hb
  | zero t =>
      cases a with
      | notANumber => cases ha
      | zero s => rfl
      | _ s => cases s <;> rfl
  | _ t =>
      cases a with
      | notANumber => cases ha
      | zero s => cases t <;> rfl
      | _ s => cases s <;> cases t <;> rfl

theorem le_iff_compare
    {a b : Float} :
    a ≤ b ↔
      (a.toModel.unpack.compare b.toModel.unpack).any (·.isLE) = true :=
  decide_eq_true_iff

theorem lt_iff_compare
    {a b : Float} :
    a < b ↔
      a.toModel.unpack.compare b.toModel.unpack = some .lt :=
  decide_eq_true_iff.trans beq_iff_eq

theorem not_le_of_lt
    {a b : Float}
    (hLess : a < b) :
    ¬ b ≤ a := by
  rw [le_iff_compare, compare_swap, lt_iff_compare.mp hLess]
  exact Bool.false_ne_true

theorem lt_of_not_le
    {a b : Float}
    (ha : a.isNaN = false)
    (hb : b.isNaN = false)
    (hNot : ¬ b ≤ a) :
    a < b := by
  rw [le_iff_compare, compare_swap] at hNot
  rw [lt_iff_compare]
  rcases Option.isSome_iff_exists.mp (compare_isSome ha hb) with
    ⟨order, hOrder⟩
  rw [hOrder] at hNot ⊢
  cases order with
  | lt => rfl
  | eq => exact absurd rfl hNot
  | gt => exact absurd rfl hNot

------------------------------------------------------------
-- Products
------------------------------------------------------------

/- Bits whose exponent is not full belong to a number. -/
theorem isNaN_unpack
    {b : BitVec Format.binary64.numBits}
    (hNotFull : unpackExponent b ≠ -1#_) :
    (unpack Format.binary64 b).isNaN = false := by
  unfold unpack
  rw [if_neg hNotFull]
  split
  · split <;> rfl
  · rfl

/- Packing keeps numbers numbers: one that is too large becomes infinite. -/
theorem isNaN_unpack_pack
    {x : UnpackedFloat}
    (hNumber : x.isNaN = false) :
    (unpack Format.binary64 (pack Format.binary64 x)).isNaN = false := by
  fun_cases pack Format.binary64 x with
  | case1 => cases hNumber
  | case2 s => cases s <;> decide +kernel
  | case3 s => cases s <;> decide +kernel
  | case4 s =>
      clear hNumber
      cases s <;> decide +kernel
  | case5 s m e hm bits biased hSmall hNormal =>
      apply isNaN_unpack
      rw [unpackExponent_packComponents]
      intro hFull
      have hNat := congrArg BitVec.toNat hFull
      change biased % 2048 = 2047 at hNat
      change ¬ 2048 ≤ biased + 1 at hSmall
      rw [Nat.mod_eq_of_lt (by omega)] at hNat
      omega
  | case6 s m e hm bits biased hSmall hSubnormal =>
      apply isNaN_unpack
      rw [unpackExponent_packComponents]
      decide

/- Rounding gives a number. -/
theorem isNaN_roundWithAccuracy
    (sign : Sign)
    (mantissa : Nat)
    (exponent : Int)
    (accuracy : Accuracy) :
    (roundWithAccuracy Format.binary64 sign mantissa exponent
      accuracy).isNaN = false := by
  unfold roundWithAccuracy
  simp only
  split <;> rfl

/-
  A product is a number unless a factor is none, or one is
  infinite and the other one is zero.
-/
theorem isNaN_mul
    {x y : Float}
    (hx : x.isNaN = false)
    (hy : y.isFinite = true)
    (hFactors :
      x.isFinite = true ∨ ∀ s, y.toModel.unpack ≠ .zero s) :
    (x * y).isNaN = false := by
  apply isNaN_unpack_pack
  change x.toModel.unpack.isNaN = false at hx
  change y.toModel.unpack.isFinite = true at hy
  change x.toModel.unpack.isFinite = true ∨ _ at hFactors
  generalize x.toModel.unpack = a at *
  generalize y.toModel.unpack = b at *
  cases b with
  | notANumber => cases hy
  | infinity t => cases hy
  | zero t =>
      cases a with
      | notANumber => cases hx
      | infinity s =>
          rcases hFactors with hFinite | hNonzero
          · cases hFinite
          · exact absurd rfl (hNonzero t)
      | _ => rfl
  | finite t n f hn =>
      cases a with
      | notANumber => cases hx
      | infinity s => rfl
      | zero s => rfl
      | finite s m e hm => exact isNaN_roundWithAccuracy _ _ _ _

end Timetable.Decimal
