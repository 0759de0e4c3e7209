import Mathlib
import SeriesGateway.Sample

/-! # Dividing by one

A sample that is a number stays the same, bit for bit, when it is divided by one. Its
bits are taken apart into sign, digits and exponent, and put together again. In between
the quotient by one has either the same digits, or the same digits and a zero behind
them, which rounding drops. The lemma that bits are read and written back comes with the
whole of the library only.
-/

namespace SeriesGateway.Sample

open Float.Model hiding unpack pack div
open Float.Model.UnpackedFloat

/-! ## Exact quotients -/

/-- The exponent is the one that the format calls for, so rounding has nothing to do. -/
def IsRounded (mantissa : Nat) (exponent : Int) : Prop :=
  Format.binary64.targetExponent (totalExponent mantissa exponent) = exponent

section Rounded

variable {sign : Sign} {mantissa quotient : Nat} {exponent shifted : Int}

theorem isRounded_iff : IsRounded mantissa exponent ↔
    max ((mantissa.log2 : Int) + 1 + exponent - 53) (-1074) = exponent := Iff.rfl

theorem shiftToTargetExponent_of_isRounded (hrounded : IsRounded mantissa exponent) :
    shiftToTargetExponent .binary64 mantissa exponent .exact =
      (⟨mantissa, false, false⟩, exponent) := by
  rw [shiftToTargetExponent, hrounded, shiftToExponent, Int.sub_self, Int.toNat_zero,
    Int.natCast_zero, Int.add_zero]
  rfl

/-- A zero behind the digits is shifted out. -/
theorem shiftToTargetExponent_two_mul (hpos : 0 < mantissa)
    (hrounded : IsRounded mantissa exponent) :
    shiftToTargetExponent .binary64 (2 * mantissa) (exponent - 1) .exact =
      (⟨mantissa, false, false⟩, exponent) := by
  have htotal : totalExponent (2 * mantissa) (exponent - 1) = totalExponent mantissa exponent := by
    rw [totalExponent, totalExponent, Nat.log2_two_mul (Nat.ne_of_gt hpos)]
    omega
  have hone : (exponent - (exponent - 1)).toNat = 1 := by omega
  rw [shiftToTargetExponent, htotal, hrounded, shiftToExponent, hone]
  simp [HShiftRight.hShiftRight, Nat.repeat, ExtendedMantissa.ofMantissaAndAccuracy,
    ExtendedMantissa.shiftRightOne]

theorem roundWithAccuracy_of_shift (hpos : 0 < mantissa) (hrounded : IsRounded mantissa exponent)
    (hshift : shiftToTargetExponent .binary64 quotient shifted .exact =
      (⟨mantissa, false, false⟩, exponent)) :
    roundWithAccuracy .binary64 sign quotient shifted .exact =
      .finite sign mantissa exponent hpos := by
  have hexact : (⟨mantissa, false, false⟩ : ExtendedMantissa).roundedMantissa = mantissa := rfl
  rw [roundWithAccuracy, hshift]
  dsimp only
  rw [hexact, shiftToTargetExponent_of_isRounded hrounded]
  exact dif_neg (Nat.ne_of_gt hpos)

/-- The quotient by one is exact: the digits, or the digits and a zero. -/
theorem divCore_one (hrounded : IsRounded mantissa exponent) :
    divCore .binary64 mantissa exponent (2 ^ 52) (-52) = (mantissa, exponent, .exact) ∨
      divCore .binary64 mantissa exponent (2 ^ 52) (-52) =
        (2 * mantissa, exponent - 1, .exact) := by
  rw [isRounded_iff] at hrounded
  have hone : totalExponent (2 ^ 52) (-52) = 1 := by decide
  have htarget : Format.binary64.targetExponent (totalExponent mantissa exponent - 1) =
      max ((mantissa.log2 : Int) + 1 + exponent - 1 - 53) (-1074) := rfl
  have hquotient : ∀ extra : Nat, mantissa <<< (52 + extra) / 2 ^ 52 = 2 ^ extra * mantissa ∧
      mantissa <<< (52 + extra) % 2 ^ 52 = 0 := by
    intro extra
    have hshift : mantissa <<< (52 + extra) = 2 ^ 52 * (2 ^ extra * mantissa) := by
      rw [Nat.shiftLeft_eq, Nat.pow_add]
      ac_rfl
    rw [hshift]
    exact ⟨Nat.mul_div_right _ (by decide), Nat.mul_mod_right _ _⟩
  -- the target is one below the exponent, unless it is the least exponent there is
  have hcases : min (exponent - -52)
        (Format.binary64.targetExponent (totalExponent mantissa exponent - 1)) = exponent ∨
      min (exponent - -52)
        (Format.binary64.targetExponent (totalExponent mantissa exponent - 1)) = exponent - 1 := by
    omega
  rw [divCore, hone]
  rcases hcases with hsame | hbelow
  · have hshift : (exponent - -52 - exponent).toNat = 52 + 0 := by omega
    simp only [hsame, hshift, hquotient, Nat.pow_zero, Nat.one_mul]
    exact .inl rfl
  · have hshift : (exponent - -52 - (exponent - 1)).toNat = 52 + 1 := by omega
    simp only [hbelow, hshift, hquotient, Nat.pow_one]
    exact .inr rfl

end Rounded

/-! ## Numbers as they are read off their bits -/

/-- An infinity, a zero, or digits with the exponent that the format calls for. -/
inductive IsNumber : UnpackedFloat → Prop
  | infinity (sign : Sign) : IsNumber (.infinity sign)
  | zero (sign : Sign) : IsNumber (.zero sign)
  | finite (sign : Sign) {mantissa : Nat} {exponent : Int} (hpos : 0 < mantissa)
      (hrounded : IsRounded mantissa exponent) : IsNumber (.finite sign mantissa exponent hpos)

/-- One, with all the digits that the format has room for. -/
def one : UnpackedFloat := .finite .positive (2 ^ 52) (-52) (by decide)

theorem div_one {number : UnpackedFloat} (hnumber : IsNumber number) :
    div .binary64 number one = number := by
  have hsign : ∀ sign : Sign, sign / Sign.positive = sign := by
    intro sign
    cases sign <;> rfl
  cases hnumber with
  | infinity sign => rw [one, div, hsign]
  | zero sign => rw [one, div, hsign]
  | finite sign hpos hrounded =>
      rw [one, div, hsign]
      rcases divCore_one hrounded with hsame | htwice
      · rw [hsame]
        exact roundWithAccuracy_of_shift hpos hrounded
          (shiftToTargetExponent_of_isRounded hrounded)
      · rw [htwice]
        exact roundWithAccuracy_of_shift hpos hrounded
          (shiftToTargetExponent_two_mul hpos hrounded)

theorem isRounded_subnormal {mantissa : Nat} (hpos : 0 < mantissa) (hlt : mantissa < 2 ^ 52) :
    IsRounded mantissa (-1074) := by
  have hlog := (Nat.log2_lt (Nat.ne_of_gt hpos)).mpr hlt
  rw [isRounded_iff]
  omega

theorem isRounded_normal {mantissa exponent : Nat} (hlt : mantissa < 2 ^ 52) (hpos : 0 < exponent) :
    IsRounded (2 ^ 52 + mantissa) (exponent - 1075) := by
  have hlog : (2 ^ 52 + mantissa).log2 = 52 :=
    (Nat.log2_eq_iff (by omega)).mpr ⟨by omega, by omega⟩
  rw [isRounded_iff, hlog]
  omega

/-- Bits that denote a number are read as one. -/
theorem isNumber_unpack {bits : BitVec Format.binary64.numBits} (hbits : isNaNBits bits = false) :
    IsNumber (unpack .binary64 bits) := by
  have hmantissa : (unpackMantissa bits).toNat < 2 ^ 52 := (unpackMantissa bits).isLt
  rw [isNaNBits, decide_eq_false_iff_not] at hbits
  unfold unpack
  dsimp only
  split
  next hones =>
    rw [if_pos (Decidable.not_not.mp fun hsome => hbits ⟨hones, hsome⟩)]
    exact .infinity _
  next hones =>
    split
    next hzero =>
      split
      next hnone => exact .zero _
      next hsome =>
        have hpos : 0 < (unpackMantissa bits).toNat :=
          Nat.pos_of_ne_zero fun hnone => hsome (BitVec.toNat_inj.mp hnone)
        have hleast : ((unpackExponent bits).toNat : Int) - (Format.binary64.exponentBias +
            Format.binary64.mantissaBitsWithoutImplicit) + 1 = -1074 := by
          rw [hzero]
          rfl
        simp only [hleast]
        exact .finite _ hpos (isRounded_subnormal hpos hmantissa)
    next hsome =>
      have hpos : 0 < (unpackExponent bits).toNat :=
        Nat.pos_of_ne_zero fun hnone => hsome (BitVec.toNat_inj.mp hnone)
      have hdigits : (1#1 ++ unpackMantissa bits).toNat = 2 ^ 52 + (unpackMantissa bits).toNat := by
        rw [BitVec.toNat_append, ← Nat.shiftLeft_add_eq_or_of_lt (unpackMantissa bits).isLt]
        rfl
      have hbias : ((unpackExponent bits).toNat : Int) - (Format.binary64.exponentBias +
          Format.binary64.mantissaBitsWithoutImplicit) = (unpackExponent bits).toNat - 1075 := rfl
      simp only [hdigits, hbias]
      exact .finite _ _ (isRounded_normal hmantissa hpos)

/-! ## Samples -/

variable {sample : Sample}

theorem isNaNBits_eq (hnumber : sample.isNaN = false) :
    @isNaNBits .binary64 sample.bits.toBitVec = false := by
  rw [isNaNBits, decide_eq_false_iff_not]
  rintro ⟨hexponent, hmantissa⟩
  have hones : sample.bits.toNat / 2 ^ 52 % 2 ^ 11 = 2 ^ 11 - 1 := by
    simpa [unpackExponent, Nat.shiftRight_eq_div_pow] using congrArg BitVec.toNat hexponent
  have hsome : sample.bits.toNat % 2 ^ 52 ≠ 0 := by
    intro hnone
    apply hmantissa
    apply BitVec.eq_of_toNat_eq
    simpa [unpackMantissa] using hnone
  have hle : ¬ infinite < sample.magnitude := of_decide_eq_false hnumber
  rw [magnitude, signUnit, infinite] at hle
  omega

theorem unpack_one : (Float.ofNat 1).toModel.unpack = one := by
  have hbits : Float.ofNat 1 = Float.ofBits 0x3ff0000000000000 := by decide
  rw [hbits]
  rfl

/-- A number divided by one is the same, bit for bit. -/
theorem divCount_one (hnumber : sample.isNaN = false) : sample.divCount 1 = sample := by
  have hnan := isNaNBits_eq hnumber
  have hwritten :
      pack .binary64 (unpack .binary64 sample.bits.toBitVec) = sample.bits.toBitVec := by
    rw [pack_unpack, hnan]
    rfl
  have hbits : (sample.divCount 1).bits = .ofBitVec (pack .binary64 (div .binary64
      (unpack .binary64 (pack .binary64 (unpack .binary64 sample.bits.toBitVec)))
      (Float.ofNat 1).toModel.unpack)) := rfl
  rw [hwritten, unpack_one, div_one (isNumber_unpack hnan), hwritten] at hbits
  cases sample
  exact congrArg Sample.mk hbits

end SeriesGateway.Sample
