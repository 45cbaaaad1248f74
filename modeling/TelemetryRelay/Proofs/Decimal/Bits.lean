import Mathlib
import TelemetryRelay.Decimal.Nearest

/-!
# Bits of floating-point numbers

A floating-point number that is a number at all is determined by its sign and
by its bits without the sign, which are at most those of infinity.
-/

namespace TelemetryRelay
namespace Decimal

open Float.Model (Format)
open Float.Model.UnpackedFloat (isNaNBits pack_unpack packComponents unpack unpackExponent
  unpackExponent_def unpackMantissa unpackMantissa_def unpackSign unpackSign_def)

/-- Whether a floating-point number has this sign and these bits behind it. -/
def HasBits (number : Float) (negative : Bool) (bits : Nat) : Prop :=
  number.toBits.toNat = (if negative then 2 ^ 63 else 0) + bits

theorem infinityBits_eq : infinityBits = 2047 * 2 ^ 52 :=
  rfl

/-! ## Fields of the bits -/

section

variable {bits : BitVec Format.binary64.numBits}

theorem toNat_unpackExponent : (unpackExponent bits).toNat = bits.toNat / 2 ^ 52 % 2 ^ 11 := by
  rw [unpackExponent_def, BitVec.extractLsb'_toNat, Nat.shiftRight_eq_div_pow]

theorem toNat_unpackMantissa : (unpackMantissa bits).toNat = bits.toNat % 2 ^ 52 := by
  rw [unpackMantissa_def, BitVec.extractLsb'_toNat, Nat.shiftRight_zero]

theorem toNat_unpackSign : (unpackSign bits).toNat = bits.toNat / 2 ^ 63 := by
  have size : bits.toNat < 2 ^ 64 := bits.isLt
  rw [unpackSign_def, BitVec.extractLsb'_toNat, Nat.shiftRight_eq_div_pow]
  exact Nat.mod_eq_of_lt (show bits.toNat / 2 ^ 63 < 2 by omega)

theorem isNaNBits_eq_false (number : bits.toNat % 2 ^ 63 ≤ infinityBits) :
    isNaNBits bits = false := by
  rw [infinityBits_eq] at number
  rw [isNaNBits, decide_eq_false_iff_not]
  rintro ⟨exponent, mantissa⟩
  have greatest := congrArg BitVec.toNat exponent
  rw [toNat_unpackExponent] at greatest
  have nonzero : (unpackMantissa bits).toNat ≠ 0 :=
    fun zero => mantissa (BitVec.eq_of_toNat_eq zero)
  rw [toNat_unpackMantissa] at nonzero
  change _ = 2 ^ 11 - 1 at greatest
  omega

/-- The highest bit is the sign and nothing else. -/
theorem unpack_signed {signed : BitVec Format.binary64.numBits} (unsigned : bits.toNat < 2 ^ 63)
    (flipped : signed.toNat = 2 ^ 63 + bits.toNat) :
    unpack Format.binary64 signed = (unpack Format.binary64 bits).neg := by
  have exponent : unpackExponent signed = unpackExponent bits := by
    apply BitVec.eq_of_toNat_eq
    rw [toNat_unpackExponent, toNat_unpackExponent]
    omega
  have mantissa : unpackMantissa signed = unpackMantissa bits := by
    apply BitVec.eq_of_toNat_eq
    rw [toNat_unpackMantissa, toNat_unpackMantissa]
    omega
  have negative : unpackSign signed = 1#1 := by
    apply BitVec.eq_of_toNat_eq
    rw [toNat_unpackSign, BitVec.toNat_one (by decide)]
    omega
  have positive : unpackSign bits = 0#1 := by
    apply BitVec.eq_of_toNat_eq
    rw [toNat_unpackSign, BitVec.toNat_zero]
    omega
  simp only [unpack, exponent, mantissa, negative, positive]
  split
  · split <;> rfl
  · split
    · split <;> rfl
    · rfl

theorem isInf_unpack (finite : bits.toNat % 2 ^ 63 < infinityBits) :
    (unpack Format.binary64 bits).isInf = false := by
  rw [infinityBits_eq] at finite
  have exponent : unpackExponent bits ≠ -BitVec.ofNat Format.binary64.exponentBits 1 := by
    intro greatest
    have greatest := congrArg BitVec.toNat greatest
    rw [toNat_unpackExponent] at greatest
    change _ = 2 ^ 11 - 1 at greatest
    omega
  simp only [unpack, if_neg exponent]
  split
  · split <;> rfl
  · rfl

end

/-! ## Numbers by their bits -/

variable {number : Float} {negative : Bool} {bits : Nat}

theorem HasBits.toNat_mod (has : HasBits number negative bits) (isNumber : bits ≤ infinityBits) :
    number.toBits.toNat % 2 ^ 63 = bits := by
  rw [infinityBits_eq] at isNumber
  rw [has]
  split <;> omega

/-- A number is determined by its sign and its bits. -/
theorem HasBits.unique {other : Float} (has : HasBits number negative bits)
    (hasToo : HasBits other negative bits) : number = other :=
  Float.toBits_inj.mp (UInt64.toNat_inj.mp (has.trans hasToo.symm))

theorem HasBits.inj {sign : Bool} {others : Nat} (has : HasBits number negative bits)
    (hasToo : HasBits number sign others) (isNumber : bits ≤ infinityBits)
    (isNumberToo : others ≤ infinityBits) : negative = sign ∧ bits = others := by
  rw [infinityBits_eq] at isNumber isNumberToo
  rw [HasBits] at has hasToo
  cases negative <;> cases sign <;> simp_all <;> omega

theorem hasBits_ofBits (isNumber : bits ≤ infinityBits) :
    HasBits (Float.ofBits bits.toUInt64) false bits := by
  have size : bits < UInt64.size := lt_of_le_of_lt isNumber (by decide)
  have whole : bits.toUInt64.toBitVec.toNat = bits := Nat.mod_eq_of_lt size
  have noNaN : @isNaNBits Format.binary64 bits.toUInt64.toBitVec = false :=
    isNaNBits_eq_false (by rw [whole]; omega)
  have packed := @pack_unpack Format.binary64 bits.toUInt64.toBitVec
  rw [noNaN] at packed
  exact (congrArg BitVec.toNat packed).trans (whole.trans (Nat.zero_add bits).symm)

theorem HasBits.neg (has : HasBits number false bits) (isNumber : bits ≤ infinityBits) :
    HasBits (-number) true bits := by
  have unsigned : bits < 2 ^ 63 := lt_of_le_of_lt isNumber (by decide)
  have held : number.toBits.toBitVec.toNat = bits := has.trans (Nat.zero_add bits)
  let signed : BitVec Format.binary64.numBits := BitVec.ofNat 64 (2 ^ 63 + bits)
  have size : signed.toNat = 2 ^ 63 + bits :=
    Nat.mod_eq_of_lt (show 2 ^ 63 + bits < 2 ^ 64 by omega)
  have flipped : unpack Format.binary64 signed = number.toModel.unpack.neg :=
    unpack_signed (held.trans_lt unsigned) (size.trans (congrArg (2 ^ 63 + ·) held.symm))
  have noNaN : isNaNBits signed = false := isNaNBits_eq_false (by rw [size]; omega)
  have packed := pack_unpack signed
  rw [noNaN, flipped] at packed
  exact (congrArg BitVec.toNat packed).trans size

theorem HasBits.isNaN_eq_false (has : HasBits number negative bits)
    (isNumber : bits ≤ infinityBits) : number.isNaN = false := by
  rw [Float.isNaN_eq_decide_eq_nan, decide_eq_false_iff_not]
  rintro rfl
  have nan : Float.nan.toBits.toNat = infinityBits + 2 ^ 51 := by decide +kernel
  rw [HasBits, nan, infinityBits_eq] at has
  rw [infinityBits_eq] at isNumber
  split at has <;> omega

theorem HasBits.isInf_eq_false (has : HasBits number negative bits)
    (finite : bits < infinityBits) : number.isInf = false :=
  isInf_unpack ((has.toNat_mod finite.le).trans_lt finite)

theorem hasBits_zero : HasBits 0.0 false 0 := by
  rw [HasBits]
  decide +kernel

theorem hasBits_infinity : HasBits (1.0 / 0.0) false infinityBits := by
  rw [HasBits]
  decide +kernel

/-- Infinity is the only number with its bits. -/
theorem HasBits.isInf (has : HasBits number negative infinityBits) : number.isInf = true := by
  cases negative with
  | false =>
      rw [has.unique hasBits_infinity]
      decide +kernel
  | true =>
      rw [has.unique (hasBits_infinity.neg (le_refl _))]
      decide +kernel

/-- The sign is the highest bit. -/
theorem HasBits.sign_iff (has : HasBits number negative bits) (isNumber : bits ≤ infinityBits) :
    number.toBits >>> 63 = 1 ↔ negative = true := by
  rw [infinityBits_eq] at isNumber
  rw [← UInt64.toNat_inj, UInt64.toNat_shiftRight, has]
  change ((if negative = true then 2 ^ 63 else 0) + bits) >>> 63 = 1 ↔ _
  rw [Nat.shiftRight_eq_div_pow]
  cases negative with
  | false => exact ⟨fun one => by rw [if_neg Bool.false_ne_true] at one; omega, nofun⟩
  | true => exact ⟨fun _ => rfl, fun _ => by rw [if_pos rfl]; omega⟩

/-- Bits behind those of infinity are no number. -/
theorem eq_nan_of_lt (beyond : infinityBits < number.toBits.toNat % 2 ^ 63) :
    number = Float.nan := by
  have size : number.toBits.toBitVec.toNat < 2 ^ 64 := number.toBits.toBitVec.isLt
  change infinityBits < number.toBits.toBitVec.toNat % 2 ^ 63 at beyond
  rw [infinityBits_eq] at beyond
  have exponent : @unpackExponent Format.binary64 number.toBits.toBitVec =
      -BitVec.ofNat Format.binary64.exponentBits 1 := by
    apply BitVec.eq_of_toNat_eq
    rw [toNat_unpackExponent]
    change _ = 2 ^ 11 - 1
    omega
  have mantissa : @unpackMantissa Format.binary64 number.toBits.toBitVec ≠
      BitVec.ofNat Format.binary64.mantissaBitsWithoutImplicit 0 := by
    intro zero
    have zero := congrArg BitVec.toNat zero
    rw [toNat_unpackMantissa, BitVec.toNat_zero] at zero
    omega
  have packed := number.toModel.valid.eq_packedNaN exponent mantissa
  have nan : Float.nan.toBits.toBitVec =
      Float.Model.UnpackedFloat.packedNaN Format.binary64 := by
    decide +kernel
  exact Float.toBits_inj.mp (UInt64.toBitVec_inj.mp (packed.trans nan.symm))

theorem exists_hasBits (isNumber : number.isNaN = false) :
    exists negative bits, HasBits number negative bits ∧ bits ≤ infinityBits := by
  have within : number.toBits.toNat % 2 ^ 63 ≤ infinityBits := by
    by_contra beyond
    rw [eq_nan_of_lt (Nat.lt_of_not_le beyond)] at isNumber
    exact absurd isNumber (by decide +kernel)
  have size : number.toBits.toNat < 2 ^ 64 := number.toBits.toNat_lt
  refine ⟨decide (2 ^ 63 ≤ number.toBits.toNat), _, ?_, within⟩
  rw [HasBits]
  by_cases signed : 2 ^ 63 ≤ number.toBits.toNat
  · rw [if_pos (decide_eq_true signed)]
    omega
  · rw [if_neg (by rwa [decide_eq_true_iff])]
    omega

end Decimal
end TelemetryRelay
