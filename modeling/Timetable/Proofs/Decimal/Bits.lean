import Mathlib
import Timetable.Decimal.Layout
import Timetable.Proofs.Decimal.Rounding

/-
  This file relates binary64 values to their bits.  A value
  that is finite is told by its sign and by the number that
  its other bits form.

  Key definitions include:
    * `IsFinite`
    * `magnitude`

  Main theorems include:
    * `ofBits_toBits`: a value is told by its bits
    * `ofBits_magnitude`: a finite value is told by its sign
      and its magnitude
    * `nearest_shortest`: the digits that are selected for a
      value are rounded to it
-/

namespace Timetable.Decimal

open Float.Model (Format UnpackedFloat)
open Float.Model.UnpackedFloat

------------------------------------------------------------
-- Fields of the Bits
------------------------------------------------------------

section

variable (b : BitVec Format.binary64.numBits)

theorem toNat_unpackMantissa :
    (unpackMantissa b).toNat = b.toNat % 2 ^ 52 := by
  simp [unpackMantissa]

theorem toNat_unpackExponent :
    (unpackExponent b).toNat = b.toNat / 2 ^ 52 % 2 ^ 11 := by
  simp [unpackExponent, Nat.shiftRight_eq_div_pow]

theorem toNat_unpackSign :
    (unpackSign b).toNat = b.toNat / 2 ^ 63 % 2 := by
  simp [unpackSign, Nat.shiftRight_eq_div_pow]

end

/- Bits are made of their fields. -/
theorem packComponents_fields
    (b : BitVec Format.binary64.numBits) :
    packComponents Format.binary64 (Sign.ofBitVec (unpackSign b)) (unpackExponent b)
      (unpackMantissa b) = b := by
  have hSign :
      (Sign.ofBitVec (unpackSign b)).toBitVec = unpackSign b := by
    generalize unpackSign b = s
    revert s
    decide
  apply BitVec.eq_of_toNat_eq
  have hSize := b.isLt
  simp only [packComponents, hSign, BitVec.toNat_append, toNat_unpackMantissa,
    toNat_unpackExponent, toNat_unpackSign]
  rw [← Nat.shiftLeft_add_eq_or_of_lt (by omega), ← Nat.shiftLeft_add_eq_or_of_lt (by omega)]
  simp only [Nat.shiftLeft_eq]
  simp only [Format.numBits] at hSize
  omega

theorem pack_subnormal
    {s : Sign}
    {m : Nat}
    (hSome : 0 < m)
    (hShort : m < 2 ^ 52) :
    UnpackedFloat.pack Format.binary64 (.finite s m (-1074) hSome) =
      packComponents Format.binary64 s 0#11 (BitVec.ofNat 52 m) := by
  have hDigits : m.log2 < 52 := (Nat.log2_lt hSome.ne').mpr hShort
  have hOther : m.log2 + 1 ≠ Format.binary64.mantissaBits := by
    simp only [Format.mantissaBits]
    omega
  unfold UnpackedFloat.pack
  simp only [if_neg hOther]
  rfl

theorem pack_normal
    {s : Sign}
    {m biased : Nat}
    {e : Int}
    (hSome : 0 < m)
    (hLong : 2 ^ 52 ≤ m)
    (hShort : m < 2 ^ 53)
    (hExponent : e = (biased : Int) - 1075)
    (hFinite : biased < 2047) :
    UnpackedFloat.pack Format.binary64 (.finite s m e hSome) =
      packComponents Format.binary64 s (BitVec.ofNat 11 biased) (BitVec.ofNat 52 m) := by
  have hDigits : m.log2 + 1 = Format.binary64.mantissaBits := by
    have hLow : 52 ≤ m.log2 := (Nat.le_log2 hSome.ne').mpr hLong
    have hHigh : m.log2 < 53 := (Nat.log2_lt hSome.ne').mpr hShort
    simp only [Format.mantissaBits]
    omega
  have hBiased :
      (e + Format.binary64.exponentBias + Format.binary64.mantissaBitsWithoutImplicit).toNat =
        biased := by
    simp only [Format.exponentBias]
    omega
  unfold UnpackedFloat.pack
  simp only [hBiased, if_pos hDigits]
  rw [if_neg (by omega)]

/- What was unpacked from valid bits is packed into the same bits. -/
theorem pack_unpack
    {b : BitVec Format.binary64.numBits}
    (hValid : Format.binary64.Valid b) :
    UnpackedFloat.pack Format.binary64 (unpack Format.binary64 b) = b := by
  have hWhole := packComponents_fields b
  unfold unpack
  simp only
  split
  · rename_i hFull
    split
    · rename_i hNone
      rw [hFull, hNone] at hWhole
      exact hWhole
    · rename_i hSome
      exact (hValid.eq_packedNaN hFull hSome).symm
  · rename_i hFull
    split
    · rename_i hLeast
      split
      · rename_i hNone
        rw [hLeast, hNone] at hWhole
        exact hWhole
      · rename_i hSome
        have hShort := (unpackMantissa b).isLt
        rw [hLeast] at hWhole ⊢
        refine (pack_subnormal (s := Sign.ofBitVec (unpackSign b)) _ hShort).trans ?_
        rw [BitVec.ofNat_toNat, BitVec.setWidth_eq]
        exact hWhole
    · rename_i hMore
      have hShort := (unpackMantissa b).isLt
      have hMantissa : (1#1 ++ unpackMantissa b).toNat = 2 ^ 52 + (unpackMantissa b).toNat := by
        rw [BitVec.toNat_append, ← Nat.shiftLeft_add_eq_or_of_lt hShort]
        rfl
      have hFinite : (unpackExponent b).toNat < 2047 := by
        have hSize := (unpackExponent b).isLt
        have hOther : (unpackExponent b).toNat ≠ 2047 := fun h => hFull (BitVec.eq_of_toNat_eq h)
        simp only at hSize
        omega
      simp only [hMantissa]
      refine (pack_normal (s := Sign.ofBitVec (unpackSign b)) _ ?_ ?_ rfl hFinite).trans ?_
      · omega
      · simp only at hShort
        omega
      · have hLeading : BitVec.ofNat 52 (2 ^ 52 + (unpackMantissa b).toNat) = unpackMantissa b := by
          apply BitVec.eq_of_toNat_eq
          rw [BitVec.toNat_ofNat, Nat.add_mod_left, Nat.mod_eq_of_lt hShort]
        rw [hLeading, BitVec.ofNat_toNat, BitVec.setWidth_eq]
        exact hWhole

------------------------------------------------------------
-- Finite Values
------------------------------------------------------------

/- A value is told by its bits. -/
theorem ofBits_toBits
    (x : Float) :
    Float.ofBits x.toBits = x := by
  obtain ⟨⟨bits, hValid⟩⟩ := x
  have hBits := pack_unpack hValid
  simp only [Float.ofBits, Float.toBits, Float.Model.ofBits, Float.Model.pack, hBits]

/- The bits of a value without the sign, as a number. -/
def magnitude (bits : UInt64) : Nat :=
  bits.toNat % 2 ^ 63

/- A value is a number and not infinite. -/
def IsFinite (x : Float) : Prop :=
  x.isNaN = false ∧ x.isInf = false

theorem unpackExponent_eq_full_iff
    (bits : UInt64) :
    @unpackExponent Format.binary64 bits.toBitVec = -1#11 ↔ infiniteBits ≤ magnitude bits := by
  have hField := toNat_unpackExponent bits.toBitVec
  rw [UInt64.toNat_toBitVec] at hField
  unfold infiniteBits magnitude
  rw [← BitVec.toNat_inj, hField]
  change _ = 2047 ↔ _
  omega

theorem magnitude_lt
    {x : Float}
    (hFinite : IsFinite x) :
    magnitude x.toBits < infiniteBits := by
  by_contra hLarge
  have hFull := (unpackExponent_eq_full_iff x.toBits).mpr (Nat.le_of_not_lt hLarge)
  obtain ⟨hNumber, hBounded⟩ := hFinite
  simp only [Float.isNaN, Float.isInf, Float.Model.isNaN, Float.Model.isInf, Float.Model.unpack,
    unpack] at hNumber hBounded
  change @unpackExponent Format.binary64 x.toModel.toBits.toBitVec = _ at hFull
  simp only [hFull, if_true] at hNumber hBounded
  split at hNumber
  · rename_i hNone
    simp [hNone, UnpackedFloat.isInf] at hBounded
  · cases hNumber

theorem valid_of_lt
    {bits : UInt64}
    (hSmall : magnitude bits < infiniteBits) :
    Format.binary64.Valid bits.toBitVec := by
  refine ⟨fun hFull => ?_⟩
  have := (unpackExponent_eq_full_iff bits).mp hFull
  omega

theorem isInf_ofBits
    {bits : UInt64}
    (hSmall : magnitude bits < infiniteBits) :
    (Float.ofBits bits).isInf = false := by
  have hBits := pack_unpack (valid_of_lt hSmall)
  have hNotFull : @unpackExponent Format.binary64 bits.toBitVec ≠ -1#11 := by
    intro hFull
    have := (unpackExponent_eq_full_iff bits).mp hFull
    omega
  simp only [Float.ofBits, Float.isInf, Float.Model.isInf, Float.Model.unpack, Float.Model.ofBits,
    Float.Model.pack, hBits]
  unfold unpack
  simp only [if_neg hNotFull]
  split
  · split <;> rfl
  · rfl

/- Changing the sign of a value changes its first bit. -/
theorem neg_unpack
    {a b : BitVec Format.binary64.numBits}
    (hMantissa : unpackMantissa a = unpackMantissa b)
    (hExponent : unpackExponent a = unpackExponent b)
    (hPlus : unpackSign a = 0#1)
    (hMinus : unpackSign b = 1#1) :
    (unpack Format.binary64 a).neg = unpack Format.binary64 b := by
  unfold unpack
  simp only [hMantissa, hExponent, hPlus, hMinus]
  split
  · split <;> rfl
  · split
    · split <;> rfl
    · rfl

theorem neg_ofBits
    {a b : UInt64}
    (hSmall : magnitude a < infiniteBits)
    (hSame : magnitude a = magnitude b)
    (hPlus : a.toNat < 2 ^ 63)
    (hMinus : 2 ^ 63 ≤ b.toNat) :
    -Float.ofBits a = Float.ofBits b := by
  have hBits := pack_unpack (valid_of_lt hSmall)
  have hSizeB := b.toNat_lt
  have hNeg :
      (unpack Format.binary64 a.toBitVec).neg = unpack Format.binary64 b.toBitVec := by
    unfold magnitude at hSame
    apply neg_unpack <;> apply BitVec.eq_of_toNat_eq
    · simp only [toNat_unpackMantissa, UInt64.toNat_toBitVec]
      omega
    · simp only [toNat_unpackExponent, UInt64.toNat_toBitVec]
      omega
    · simp only [toNat_unpackSign, UInt64.toNat_toBitVec]
      change _ = 0
      omega
    · simp only [toNat_unpackSign, UInt64.toNat_toBitVec]
      change _ = 1
      omega
  simp only [Neg.neg, Float.neg, Float.ofBits, Float.Model.neg, Float.Model.ofBits,
    Float.Model.unpack, Float.Model.pack, hBits, hNeg]

theorem toNat_ofNat_of_lt
    {n : Nat}
    (hSmall : n < infiniteBits) :
    (UInt64.ofNat n).toNat = n := by
  unfold infiniteBits at hSmall
  exact UInt64.toNat_ofNat_of_lt (hSmall.trans (by decide))

theorem magnitude_ofNat
    {n : Nat}
    (hSmall : n < infiniteBits) :
    magnitude (.ofNat n) = n := by
  rw [magnitude, toNat_ofNat_of_lt hSmall]
  unfold infiniteBits at hSmall
  omega

theorem signBit_eq
    (x : Float) :
    signBit x = decide (2 ^ 63 ≤ x.toBits.toNat) := by
  have hSize := x.toBits.toNat_lt
  unfold signBit
  rw [Bool.eq_iff_iff, beq_iff_eq, decide_eq_true_iff, ← UInt64.toNat_inj,
    UInt64.toNat_shiftRight, Nat.shiftRight_eq_div_pow]
  change x.toBits.toNat / 2 ^ 63 = 1 ↔ _
  omega

/- A finite value is told by its sign and its magnitude. -/
theorem ofBits_magnitude
    {x : Float}
    (hFinite : IsFinite x) :
    (if signBit x then -Float.ofBits (.ofNat (magnitude x.toBits))
      else Float.ofBits (.ofNat (magnitude x.toBits))) = x := by
  have hSmall := magnitude_lt hFinite
  have hPlain := toNat_ofNat_of_lt hSmall
  conv_rhs => rw [← ofBits_toBits x]
  rw [signBit_eq]
  split
  · rename_i hMinus
    apply neg_ofBits
    · rwa [magnitude_ofNat hSmall]
    · exact magnitude_ofNat hSmall
    · rw [hPlain]
      exact Nat.mod_lt _ (by decide)
    · exact of_decide_eq_true hMinus
  · rename_i hPlus
    rw [decide_eq_true_iff] at hPlus
    congr 1
    rw [← UInt64.toNat_inj, hPlain]
    exact Nat.mod_eq_of_lt (by omega)

------------------------------------------------------------
-- Exact Values
------------------------------------------------------------

/- The parts of a value from its magnitude. -/
theorem dyadic_ofBits
    (bits : UInt64) :
    Dyadic.ofBits bits =
      if magnitude bits / 2 ^ 52 = 0 then ⟨magnitude bits % 2 ^ 52, -1074, false⟩
      else
        ⟨2 ^ 52 + magnitude bits % 2 ^ 52, (magnitude bits / 2 ^ 52 : Nat) - 1075,
          magnitude bits % 2 ^ 52 = 0 ∧ 1 < magnitude bits / 2 ^ 52⟩ := by
  have hBiased : ((bits >>> 52) &&& 0x7FF).toNat = magnitude bits / 2 ^ 52 := by
    rw [UInt64.toNat_and, UInt64.toNat_shiftRight, Nat.shiftRight_eq_div_pow]
    change bits.toNat / 2 ^ 52 &&& 2 ^ 11 - 1 = _
    rw [Nat.and_two_pow_sub_one_eq_mod]
    unfold magnitude
    omega
  have hFraction : (bits &&& 0xFFFFFFFFFFFFF).toNat = magnitude bits % 2 ^ 52 := by
    rw [UInt64.toNat_and]
    change bits.toNat &&& 2 ^ 52 - 1 = _
    rw [Nat.and_two_pow_sub_one_eq_mod]
    unfold magnitude
    omega
  simp only [Dyadic.ofBits, hBiased, hFraction, beq_iff_eq]
  split
  · rfl
  · simp
    rfl

/- A finite value other than zero is canonical. -/
theorem canonical_ofBits
    {bits : UInt64}
    (hSmall : magnitude bits < infiniteBits)
    (hSome : magnitude bits ≠ 0) :
    (Dyadic.ofBits bits).Canonical := by
  unfold infiniteBits at hSmall
  rw [dyadic_ofBits]
  split
  · constructor <;> simp <;> omega
  · constructor <;> simp <;> omega

theorem bits_ofBits
    (bits : UInt64) :
    (Dyadic.ofBits bits).bits = magnitude bits := by
  rw [dyadic_ofBits, Dyadic.bits]
  split
  · simp only
    omega
  · simp only
    omega

section

variable {x : Float} (hFinite : IsFinite x) {digits : Nat} {exponent : Int}
variable
  (hValue : (digits : ℚ) * 10 ^ exponent = (Dyadic.ofBits x.toBits).shortest.value)

include hFinite hValue

/- The digits that are selected for a value are rounded to its magnitude. -/
theorem nearestBits_shortest :
    nearestBits (digits * Nat.pow 10 exponent.toNat) (Nat.pow 10 (-exponent).toNat) =
      magnitude x.toBits := by
  have hQuotient := mul_zpow_eq_div digits 10 exponent
  rw [Nat.cast_ofNat, hValue] at hQuotient
  rw [← bits_ofBits]
  by_cases hZero : magnitude x.toBits = 0
  · have hDyadic : Dyadic.ofBits x.toBits = ⟨0, -1074, false⟩ := by
      rw [dyadic_ofBits, hZero]
      rfl
    rw [hDyadic] at hValue ⊢
    have hDigits : digits = 0 := by
      simpa [Dyadic.shortest, Coefficient.value, zpow_ne_zero] using hValue
    rw [hDigits, Nat.zero_mul]
    rfl
  · have hShape := canonical_ofBits (magnitude_lt hFinite) hZero
    apply nearestBits_of_attracts hShape (Nat.pow_pos (by decide))
    have hAttracts := Dyadic.attracts_shortest hShape.some
    rw [hQuotient] at hAttracts
    exact hAttracts

/- With the sign of the value they are rounded to the value. -/
theorem nearest_shortest :
    (if signBit x then
      -nearest (digits * Nat.pow 10 exponent.toNat) (Nat.pow 10 (-exponent).toNat)
    else nearest (digits * Nat.pow 10 exponent.toNat) (Nat.pow 10 (-exponent).toNat)) = x := by
  rw [nearest, nearestBits_shortest hFinite hValue]
  exact ofBits_magnitude hFinite

theorem isInf_nearest_shortest :
    (nearest (digits * Nat.pow 10 exponent.toNat) (Nat.pow 10 (-exponent).toNat)).isInf =
      false := by
  have hSmall := magnitude_lt hFinite
  rw [nearest, nearestBits_shortest hFinite hValue]
  exact isInf_ofBits (by rwa [magnitude_ofNat hSmall])

end

end Timetable.Decimal
