import Mathlib

/-!
What weights need of doubles. A double is a sign, a biased exponent and a fraction in one word;
arithmetic takes it apart into a mantissa and an exponent, works on these, rounds, and puts the
result together again. A mantissa that was taken from a double has the exponent that rounding aims
at already, so a product with one, which only shifts the mantissa up, is rounded back to it.
-/

namespace Retrieval.Double

open Float.Model (Format UnpackedFloat totalExponent)
open Float.Model.UnpackedFloat

/-! ### Rounding what needs no rounding -/

/-- Whether an exponent is the one that rounding aims at for a mantissa. -/
def Canonical (mantissa : Nat) (exponent : Int) : Prop :=
  Format.binary64.targetExponent (totalExponent mantissa exponent) = exponent

theorem targetExponent_eq (total : Int) :
    Format.binary64.targetExponent total = max (total - 53) (-1074) := rfl

theorem canonical_of_normal {mantissa : Nat} {exponent : Int} (hlow : 2 ^ 52 ≤ mantissa)
    (hhigh : mantissa < 2 ^ 53) (he : -1074 ≤ exponent) : Canonical mantissa exponent := by
  have hne : mantissa ≠ 0 := by omega
  have hlog : mantissa.log2 = 52 := (Nat.log2_eq_iff hne).mpr ⟨hlow, hhigh⟩
  rw [Canonical, targetExponent_eq, totalExponent, hlog]
  omega

theorem canonical_of_subnormal {mantissa : Nat} (hpos : 0 < mantissa) (h : mantissa < 2 ^ 52) :
    Canonical mantissa (-1074) := by
  have hlog : mantissa.log2 < 52 := (Nat.log2_lt hpos.ne').mpr h
  rw [Canonical, targetExponent_eq, totalExponent]
  omega

theorem log2_two_pow_mul {mantissa : Nat} (hpos : 0 < mantissa) (steps : Nat) :
    (2 ^ steps * mantissa).log2 = steps + mantissa.log2 := by
  induction steps with
  | zero => simp
  | succ steps ih =>
      rw [Nat.pow_succ', Nat.mul_assoc, Nat.log2_two_mul (by positivity), ih]
      omega

/-- Shifting down as far as up loses no bit. -/
theorem shiftRight_exact (mantissa steps : Nat) :
    (⟨2 ^ steps * mantissa, false, false⟩ : ExtendedMantissa) >>> steps =
      ⟨mantissa, false, false⟩ := by
  change steps.repeat ExtendedMantissa.shiftRightOne _ = _
  induction steps generalizing mantissa with
  | zero => simp [Nat.repeat]
  | succ steps ih =>
      rw [Nat.repeat, Nat.pow_succ, Nat.mul_assoc, ih]
      simp [ExtendedMantissa.shiftRightOne]

theorem shiftToTargetExponent_exact {mantissa : Nat} {exponent : Int} (hpos : 0 < mantissa)
    (h : Canonical mantissa exponent) (steps : Nat) :
    shiftToTargetExponent Format.binary64 (2 ^ steps * mantissa) (exponent - steps) .exact =
      (⟨mantissa, false, false⟩, exponent) := by
  have htotal : totalExponent (2 ^ steps * mantissa) (exponent - steps) =
      totalExponent mantissa exponent := by
    rw [totalExponent, totalExponent, log2_two_pow_mul hpos]
    omega
  have hsteps : (exponent - (exponent - steps)).toNat = steps := by omega
  rw [Canonical] at h
  simp only [shiftToTargetExponent, htotal, h, shiftToExponent, hsteps,
    ExtendedMantissa.ofMantissaAndAccuracy, shiftRight_exact, Prod.mk.injEq, true_and]
  omega

theorem roundWithAccuracy_exact (sign : Sign) {mantissa : Nat} {exponent : Int}
    (hpos : 0 < mantissa) (h : Canonical mantissa exponent) (steps : Nat) :
    roundWithAccuracy Format.binary64 sign (2 ^ steps * mantissa) (exponent - steps) .exact =
      .finite sign mantissa exponent hpos := by
  -- Rounding shifts once more, in case the mantissa was carried over; here it was not.
  have hagain := shiftToTargetExponent_exact hpos h 0
  rw [Nat.pow_zero, Nat.one_mul, Int.natCast_zero, Int.sub_zero] at hagain
  simp [roundWithAccuracy, shiftToTargetExponent_exact hpos h, ExtendedMantissa.roundedMantissa,
    ExtendedMantissa.accuracy, Accuracy.roundToNearestEven, hagain, hpos.ne']

/-! ### Mantissas of doubles -/

/-- The mantissa of a normal double has one more bit than its fraction. -/
theorem toNat_implicit (fraction : BitVec 52) :
    (1#1 ++ fraction).toNat = 2 ^ 52 + fraction.toNat := by
  rw [BitVec.toNat_append, ← Nat.shiftLeft_add_eq_or_of_lt fraction.isLt]
  rfl

theorem canonical_of_unpack {bits : BitVec Format.binary64.numBits} {sign : Sign}
    {mantissa : Nat} {exponent : Int} {hpos : 0 < mantissa}
    (h : unpack Format.binary64 bits = .finite sign mantissa exponent hpos) :
    Canonical mantissa exponent := by
  have hlt := (unpackMantissa bits).isLt
  simp only [unpack] at h
  split at h
  · split at h <;> cases h
  · split at h
    · rename_i hzero
      split at h
      · cases h
      · cases h
        rw [hzero]
        exact canonical_of_subnormal hpos hlt
    · rename_i hzero
      have hbiased : (unpackExponent bits).toNat ≠ 0 := by
        intro heq
        exact hzero (BitVec.eq_of_toNat_eq heq)
      have hmantissa := toNat_implicit (unpackMantissa bits)
      cases h
      refine canonical_of_normal ?_ ?_ ?_
      · rw [hmantissa]
        omega
      · rw [hmantissa]
        omega
      · change -1074 ≤ ((unpackExponent bits).toNat : Int) - 1075
        omega

theorem mul_one_unpack (bits : BitVec Format.binary64.numBits) :
    mul Format.binary64 (1 : Float).toModel.unpack (unpack Format.binary64 bits) =
      unpack Format.binary64 bits := by
  have hsign (sign : Sign) : Sign.positive * sign = sign := by cases sign <;> rfl
  change mul Format.binary64 (.finite .positive (2 ^ 52) (-52) (by decide)) _ = _
  cases h : unpack Format.binary64 bits with
  | infinity sign => exact congrArg UnpackedFloat.infinity (hsign sign)
  | notANumber => rfl
  | zero sign => exact congrArg UnpackedFloat.zero (hsign sign)
  | finite sign mantissa exponent hpos =>
      rw [mul, hsign, Int.add_comm]
      exact roundWithAccuracy_exact sign hpos (canonical_of_unpack h) 52

/-! ### Doubles -/

/-- One is neutral. -/
theorem one_mul (w : Float) : 1 * w = w := by
  rw [← Float.toBits_inj, ← UInt64.toBitVec_inj]
  change pack Format.binary64 (mul Format.binary64 (1 : Float).toModel.unpack
    (unpack Format.binary64 w.toModel.toBits.toBitVec)) = w.toModel.toBits.toBitVec
  rw [mul_one_unpack]
  exact pack_unpack_of_valid w.toModel.valid

/-- Only one compares equal to one. -/
theorem eq_one_of_beq {w : Float} (h : w == 1) : w = 1 := by
  obtain ⟨-, -, h | ⟨-, h⟩ | ⟨-, h⟩⟩ := Float.beq_iff_ne_nan_and_eq.mp h
  · exact h
  · exact absurd h (by decide)
  · exact absurd h (by decide)

/-- The biased exponent of a finite double is not the greatest one. -/
theorem biased_ne_of_isFinite {w : Float} (h : w.isFinite) :
    w.toBits.toNat / 2 ^ 52 % 2 ^ 11 ≠ 2047 := by
  change (unpack Format.binary64 w.toBits.toBitVec).isFinite at h
  intro heq
  have hgreatest : @unpackExponent Format.binary64 w.toBits.toBitVec = -1#_ := by
    apply BitVec.eq_of_toNat_eq
    simpa [unpackExponent, Nat.shiftRight_eq_div_pow] using heq
  simp only [unpack, hgreatest, if_true] at h
  split at h <;> cases h

end Retrieval.Double
