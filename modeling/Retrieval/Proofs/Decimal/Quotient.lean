import Retrieval.Proofs.Decimal.Order

/-!
Quotients of doubles. A quotient is found by shifting the dividend up and dividing mantissas, with
bits enough that one rounding gives the double that is nearest. Where nothing remains, rounding only
has to undo the shift: so it is with a divisor of one, and with two equal numbers. Where the
dividend is the smaller one, the mantissa found lies below the power of two that stands for one, and
rounding cannot carry it beyond.
-/

namespace Retrieval.Double

open Float.Model (Format UnpackedFloat totalExponent)
open Float.Model.UnpackedFloat

/-! ### Quotients without remainder -/

def quotientExponent (m : ℕ) (e : ℤ) (n : ℕ) (f : ℤ) : ℤ :=
  min (e - f) (Format.binary64.targetExponent (totalExponent m e - totalExponent n f))

/-- The dividend is shifted up for the quotient to have its exponent. -/
theorem exists_shift (m : ℕ) (e : ℤ) (n : ℕ) (f : ℤ) :
    ∃ up : ℕ, e - f - up = quotientExponent m e n f := by
  refine ⟨(e - f - quotientExponent m e n f).toNat, ?_⟩
  rw [quotientExponent]
  omega

theorem divCore_eq {m n : ℕ} {e f : ℤ} {up : ℕ} (hup : e - f - up = quotientExponent m e n f) :
    divCore Format.binary64 m e n f =
      (m * 2 ^ up / n, e - f - up, accuracyOfFraction (m * 2 ^ up % n) n) := by
  have htoNat : (e - f - (e - f - up)).toNat = up := by omega
  rw [quotientExponent] at hup
  simp only [divCore, ← hup, htoNat, Nat.shiftLeft_eq]

/-- A quotient without remainder comes out as it is, if it has the exponent that rounding aims at
once the shift is undone. -/
theorem div_exact (s t : Sign) {m n q up : ℕ} (steps : ℕ) {e f g : ℤ} {hm : 0 < m} {hn : 0 < n}
    (hq : 0 < q) (hup : e - f - up = quotientExponent m e n f) (hcanonical : Canonical q g)
    (hmantissa : m * 2 ^ up = n * (2 ^ steps * q)) (hexponent : e - f - up = g - steps) :
    div Format.binary64 (finite s m e hm) (finite t n f hn) = finite (s / t) q g hq := by
  simp only [div, divCore_eq hup, hmantissa, Nat.mul_div_cancel_left _ hn, Nat.mul_mod_right,
    hexponent, accuracyOfFraction, if_true]
  exact roundWithAccuracy_exact _ hq hcanonical steps

theorem canonical_one : Canonical (2 ^ 52) (-52) :=
  canonical_of_normal (by norm_num) (by norm_num) (by norm_num)

theorem Canonical.eq {mantissa : ℕ} {exponent : ℤ} (h : Canonical mantissa exponent) :
    max ((mantissa.log2 : ℤ) + 1 + exponent - 53) (-1074) = exponent := by
  rwa [Canonical, targetExponent_eq, totalExponent] at h

theorem div_finite_self (s t : Sign) {m : ℕ} (e : ℤ) (hm : 0 < m) :
    div Format.binary64 (finite s m e hm) (finite t m e hm) =
      finite (s / t) (2 ^ 52) (-52) (by norm_num) := by
  have hup : e - e - (53 : ℕ) = quotientExponent m e m e := by
    rw [quotientExponent, targetExponent_eq]
    omega
  exact div_exact s t 1 _ hup canonical_one rfl (by omega)

theorem div_unpack_one (bits : BitVec Format.binary64.numBits) :
    div Format.binary64 (unpack Format.binary64 bits) (1 : Float).toModel.unpack =
      unpack Format.binary64 bits := by
  have hsign (sign : Sign) : sign / Sign.positive = sign := by cases sign <;> rfl
  change div Format.binary64 _ (.finite .positive (2 ^ 52) (-52) (by decide)) = _
  cases h : unpack Format.binary64 bits with
  | infinity sign => exact congrArg UnpackedFloat.infinity (hsign sign)
  | notANumber => rfl
  | zero sign => exact congrArg UnpackedFloat.zero (hsign sign)
  | finite sign mantissa exponent hpos =>
      have hcanonical := canonical_of_unpack h
      have hexponent := hcanonical.eq
      obtain ⟨up, hup⟩ := exists_shift mantissa exponent (2 ^ 52) (-52)
      -- The mantissa of one is a power of two, by which the dividend is shifted at least.
      obtain ⟨steps, rfl⟩ : ∃ steps, up = 52 + steps := by
        refine ⟨up - 52, ?_⟩
        rw [quotientExponent, targetExponent_eq, totalExponent, totalExponent,
          Nat.log2_two_pow] at hup
        omega
      have hdiv : div Format.binary64 (finite sign mantissa exponent hpos)
          (finite .positive (2 ^ 52) (-52) (by decide)) =
            finite (sign / .positive) mantissa exponent hpos := by
        refine div_exact sign .positive steps hpos hup hcanonical ?_ ?_
        · rw [Nat.pow_add]
          ring
        · push_cast
          ring
      rwa [hsign] at hdiv

/-! ### Quotients below one -/

/-- Zero, or a finite number whose exponent is limited, with a sign. -/
inductive Within (sign : Sign) (bound : ℤ) : UnpackedFloat → Prop
  | zero : Within sign bound (.zero sign)
  | finite {mantissa : ℕ} {exponent : ℤ} (hpos : 0 < mantissa) (h : exponent ≤ bound) :
      Within sign bound (.finite sign mantissa exponent hpos)

theorem log2_lt_of_lt {mantissa n : ℕ} (h : mantissa < 2 ^ n) (hn : 0 < n) :
    mantissa.log2 < n := by
  obtain rfl | hpos := Nat.eq_zero_or_pos mantissa
  · rwa [Nat.log2_zero]
  · exact (Nat.log2_lt hpos.ne').mpr h

theorem mantissa_shiftRight (extended : ExtendedMantissa) (steps : ℕ) :
    (extended >>> steps).mantissa = extended.mantissa / 2 ^ steps := by
  change (steps.repeat ExtendedMantissa.shiftRightOne extended).mantissa = _
  induction steps with
  | zero => simp [Nat.repeat]
  | succ steps ih =>
      rw [Nat.repeat, ExtendedMantissa.shiftRightOne, ih, Nat.div_div_eq_div_mul, Nat.pow_succ]

theorem mantissa_ofMantissaAndAccuracy (mantissa : ℕ) (accuracy : Accuracy) :
    (ExtendedMantissa.ofMantissaAndAccuracy mantissa accuracy).mantissa = mantissa := by
  rcases accuracy with _ | (_ | _ | _) <;> rfl

theorem roundedMantissa_le (extended : ExtendedMantissa) :
    extended.roundedMantissa ≤ extended.mantissa + 1 := by
  obtain ⟨mantissa, _ | _, _ | _⟩ := extended <;>
    simp only [ExtendedMantissa.roundedMantissa, ExtendedMantissa.accuracy,
      Accuracy.roundToNearestEven] <;>
    omega

/-- A mantissa is shifted down until its exponent is the one that rounding aims at. -/
theorem exists_shiftToTargetExponent (mantissa : ℕ) (exponent : ℤ) (accuracy : Accuracy) :
    let shifted := shiftToTargetExponent Format.binary64 mantissa exponent accuracy
    ∃ steps : ℕ, shifted.1.mantissa = mantissa / 2 ^ steps ∧ shifted.2 = exponent + steps ∧
      exponent + steps = max exponent (max (mantissa.log2 + 1 + exponent - 53) (-1074)) := by
  refine ⟨_, ?_, rfl, ?_⟩
  · simp only [shiftToTargetExponent, shiftToExponent, mantissa_shiftRight,
      mantissa_ofMantissaAndAccuracy]
  · rw [targetExponent_eq, totalExponent]
    omega

/-- After rounding a mantissa is shifted once more if it was carried over to one more bit. -/
theorem shiftToTargetExponent_rounded {rounded : ℕ} {exponent : ℤ} (hrounded : rounded ≤ 2 ^ 53)
    (hlow : -1074 ≤ exponent) (hhigh : exponent ≤ -53) :
    let shifted := shiftToTargetExponent Format.binary64 rounded exponent .exact
    shifted.2 ≤ -53 ∨ shifted.1.mantissa = 2 ^ 52 ∧ shifted.2 = -52 := by
  obtain ⟨steps, hmantissa, hexponent, hsteps⟩ :=
    exists_shiftToTargetExponent rounded exponent .exact
  dsimp only
  rw [hmantissa, hexponent]
  obtain hcarry | hlt := hrounded.eq_or_lt
  · have hlog : rounded.log2 = 53 := by rw [hcarry, Nat.log2_two_pow]
    obtain rfl : steps = 1 := by omega
    subst hcarry
    by_cases hlast : exponent = -53
    · exact .inr ⟨by norm_num, by omega⟩
    · exact .inl (by omega)
  · have hlog : rounded.log2 < 53 := log2_lt_of_lt hlt (by norm_num)
    exact .inl (by omega)

/-- What lies below one is rounded to something below one, or to one. -/
theorem roundWithAccuracy_of_lt (sign : Sign) {mantissa n : ℕ} (hlt : mantissa < 2 ^ n)
    (hn : 53 ≤ n) (accuracy : Accuracy) :
    let rounded := roundWithAccuracy Format.binary64 sign mantissa (-n) accuracy
    Within sign (-53) rounded ∨ rounded = .finite sign (2 ^ 52) (-52) (by norm_num) := by
  obtain ⟨steps, hmantissa, hexponent, hsteps⟩ :=
    exists_shiftToTargetExponent mantissa (-n) accuracy
  have hlog : mantissa.log2 < n := log2_lt_of_lt hlt (by omega)
  have hfits : mantissa / 2 ^ steps < 2 ^ 53 := by
    rw [Nat.div_lt_iff_lt_mul (Nat.two_pow_pos steps), ← Nat.pow_add]
    exact Nat.lt_log2_self.trans_le (Nat.pow_le_pow_right (by norm_num) (by omega))
  have hrounded := roundedMantissa_le
    (shiftToTargetExponent Format.binary64 mantissa (-n) accuracy).1
  rw [hmantissa] at hrounded
  have hshifted := shiftToTargetExponent_rounded (hrounded.trans hfits)
    (show -1074 ≤ -(n : ℤ) + steps by omega) (by omega)
  rw [← hexponent] at hshifted
  simp only [roundWithAccuracy]
  split
  · exact .inl .zero
  · obtain hbelow | ⟨hmantissa, hexponent⟩ := hshifted
    · exact .inl (.finite _ hbelow)
    · refine .inr ?_
      simp only [hmantissa, hexponent]

theorem log2_le_of_le_mul {m n d : ℕ} (hm : 0 < m) (h : m ≤ n * 2 ^ d) :
    m.log2 ≤ n.log2 + d := by
  have hlt : m < 2 ^ (n.log2 + 1 + d) := by
    calc m ≤ n * 2 ^ d := h
      _ < 2 ^ (n.log2 + 1) * 2 ^ d :=
        Nat.mul_lt_mul_of_pos_right Nat.lt_log2_self (Nat.two_pow_pos d)
      _ = 2 ^ (n.log2 + 1 + d) := (Nat.pow_add 2 _ d).symm
  have hlog := (Nat.log2_lt hm.ne').mpr hlt
  omega

/-- A finite number divided by one that is as great or greater. -/
theorem div_finite_of_le (s t : Sign) {m n d : ℕ} {e f : ℤ} (hm : 0 < m) (hn : 0 < n)
    (hd : f = e + d) (h : m ≤ n * 2 ^ d) :
    let quotient := div Format.binary64 (finite s m e hm) (finite t n f hn)
    Within (s / t) (-53) quotient ∨ quotient = .finite (s / t) (2 ^ 52) (-52) (by norm_num) := by
  have hlog := log2_le_of_le_mul hm h
  obtain ⟨up, hup⟩ := exists_shift m e n f
  have hexponent : e - f - up = -((up + d : ℕ) : ℤ) := by
    push_cast
    omega
  have hlow : 53 ≤ up + d := by
    rw [hexponent, quotientExponent, targetExponent_eq, totalExponent, totalExponent] at hup
    omega
  have hscaled : m * 2 ^ up ≤ 2 ^ (up + d) * n := by
    calc m * 2 ^ up ≤ n * 2 ^ d * 2 ^ up := Nat.mul_le_mul_right _ h
      _ = 2 ^ (up + d) * n := by ring
  obtain heq | hlt := hscaled.eq_or_lt
  · refine .inr (div_exact s t (up + d - 52) _ hup canonical_one ?_ (by omega))
    rw [heq, ← Nat.pow_add, Nat.mul_comm, Nat.sub_add_cancel (by omega)]
  · simp only [div, divCore_eq hup, hexponent]
    exact roundWithAccuracy_of_lt _ ((Nat.div_lt_iff_lt_mul hn).mpr hlt) hlow _

/-! ### Packing -/

/-- The biased exponent of a double gives its exponent, except that zero stands for the exponent
of one as well. -/
theorem within_unpack_packComponents (sign : Sign) {biased : BitVec 11} (fraction : BitVec 52)
    (h : biased ≠ -1#11) :
    Within sign (max biased.toNat 1 - 1075)
      (unpack Format.binary64 (packComponents Format.binary64 sign biased fraction)) := by
  simp only [unpack, unpackExponent_packComponents, unpackMantissa_packComponents,
    unpackSign_packComponents, Sign.ofBitVec_toBitVec, if_neg h]
  split
  · rename_i hzero
    split
    · exact .zero
    · subst hzero
      exact .finite _ (by decide)
  · rename_i hzero
    have hne : biased.toNat ≠ 0 := fun h => hzero (BitVec.eq_of_toNat_eq h)
    refine .finite _ ?_
    change (biased.toNat : ℤ) - (1023 + 52) ≤ _
    omega

theorem unpack_packedInfinity (sign : Sign) :
    unpack Format.binary64 (packedInfinity Format.binary64 sign) = .infinity sign := by
  cases sign <;> rfl

/-- Packing a finite number keeps its sign. A great one may become infinite, and the exponent of
any other one grows only to the least exponent of all. -/
theorem unpack_pack_finite (sign : Sign) {mantissa : ℕ} (exponent : ℤ) (hpos : 0 < mantissa) :
    let packed := unpack Format.binary64 (pack Format.binary64 (finite sign mantissa exponent hpos))
    (packed = .infinity sign ∧ 972 ≤ exponent) ∨ Within sign (max exponent (-1074)) packed := by
  have hbiased : exponent + (Format.binary64.exponentBias : ℤ) +
      (Format.binary64.mantissaBitsWithoutImplicit : ℤ) = exponent + 1075 := by
    change exponent + 1023 + 52 = _
    omega
  have hlimit : 2 ^ Format.binary64.exponentBits = 2048 := rfl
  have hmono {low high : ℤ} {x : UnpackedFloat} (h : Within sign low x) (hle : low ≤ high) :
      Within sign high x := by
    cases h with
    | zero => exact .zero
    | finite hpos h => exact .finite hpos (h.trans hle)
  simp only [pack, hbiased, hlimit]
  split
  · exact .inl ⟨unpack_packedInfinity sign, by omega⟩
  · refine .inr ?_
    split
    · have htoNat : (BitVec.ofNat 11 (exponent + 1075).toNat).toNat = (exponent + 1075).toNat := by
        rw [BitVec.toNat_ofNat, Nat.mod_eq_of_lt (by omega)]
      have hne : BitVec.ofNat 11 (exponent + 1075).toNat ≠ -1#11 := by
        intro heq
        rw [heq] at htoNat
        change 2047 = _ at htoNat
        omega
      exact hmono (within_unpack_packComponents sign _ hne) (by omega)
    · exact hmono (within_unpack_packComponents sign _ (by decide)) (le_max_right _ _)

/-! ### Quotients that are one at most -/

def AtMostOne (x : UnpackedFloat) : Prop :=
  x ≠ notANumber ∧ placeOf x ≤ Place.of 1 (-52) (2 ^ 52)

theorem atMostOne_infinity : AtMostOne (.infinity .negative) :=
  ⟨nofun, (Place.of_lt_of.mpr (.inl (by norm_num))).le⟩

theorem Within.atMostOne {sign : Sign} {bound : ℤ} {x : UnpackedFloat} (h : Within sign bound x)
    (hsmall : sign = .negative ∨ bound ≤ -53) : AtMostOne x := by
  cases h with
  | zero => exact ⟨nofun, (Place.of_lt_of.mpr (.inl one_pos)).le⟩
  | @finite mantissa exponent hpos h =>
      refine ⟨nofun, le_of_lt ?_⟩
      cases sign with
      | negative => exact Place.of_lt_of.mpr (.inl (by norm_num))
      | positive =>
          have hexponent : exponent < -52 := by
            obtain hsign | hbound := hsmall
            · cases hsign
            · omega
          exact Place.of_lt_of.mpr (.inr ⟨rfl, .inl hexponent⟩)

theorem Within.atMostOne_pack {sign : Sign} {bound : ℤ} {x : UnpackedFloat}
    (h : Within sign bound x) (hsmall : sign = .negative ∨ bound ≤ -53) :
    AtMostOne (unpack Format.binary64 (pack Format.binary64 x)) := by
  cases h with
  | zero =>
      rw [pack, unpack_packedZero]
      exact Within.zero.atMostOne hsmall
  | @finite mantissa exponent hpos h =>
      obtain ⟨hinfinite, hgreat⟩ | hwithin := unpack_pack_finite sign exponent hpos
      · obtain rfl | hbound := hsmall
        · rw [hinfinite]
          exact atMostOne_infinity
        · omega
      · refine hwithin.atMostOne (hsmall.imp_right fun hbound => ?_)
        omega

theorem exists_within_roundWithAccuracy (sign : Sign) (mantissa : ℕ) (exponent : ℤ)
    (accuracy : Accuracy) :
    ∃ bound, Within sign bound
      (roundWithAccuracy Format.binary64 sign mantissa exponent accuracy) := by
  simp only [roundWithAccuracy]
  split
  · exact ⟨0, .zero⟩
  · exact ⟨_, .finite _ le_rfl⟩

theorem atMostOne_one : AtMostOne (unpack Format.binary64
    (pack Format.binary64 (.finite .positive (2 ^ 52) (-52) (by norm_num)))) := by
  have hone : unpack Format.binary64 (pack Format.binary64
      (.finite .positive (2 ^ 52) (-52) (by norm_num))) =
        .finite .positive (2 ^ 52) (-52) (by norm_num) := rfl
  rw [hone]
  exact ⟨nofun, le_rfl⟩

theorem Canonical.exists_le_mul {m n : ℕ} {e f : ℤ} (hm : Canonical m e) (hn : Canonical n f)
    (hpos : 0 < n) (h : ¬(f < e ∨ f = e ∧ n < m)) : ∃ d : ℕ, f = e + d ∧ m ≤ n * 2 ^ d := by
  obtain ⟨d, rfl⟩ : ∃ d : ℕ, f = e + d := ⟨(f - e).toNat, by omega⟩
  refine ⟨d, rfl, ?_⟩
  obtain rfl | hd := Nat.eq_zero_or_pos d
  · have hle : m ≤ n := by omega
    simpa using hle
  -- The greater exponent is not the least one, so its mantissa has all its bits.
  · have hexponent := hm.eq
    have hexponent' := hn.eq
    have hlow : 2 ^ 52 ≤ n := (Nat.le_log2 hpos.ne').mp (by omega)
    have hhigh : m < 2 ^ 53 :=
      Nat.lt_log2_self.trans_le (Nat.pow_le_pow_right (by norm_num) (by omega))
    calc m ≤ 2 ^ 52 * 2 ^ 1 := by omega
      _ ≤ n * 2 ^ d := Nat.mul_le_mul hlow (Nat.pow_le_pow_right (by norm_num) hd)

/-- A number divided by a finite number above zero that is as great or greater. -/
theorem atMostOne_div {v w : BitVec Format.binary64.numBits} {n : ℕ} {f : ℤ} {hn : 0 < n}
    (hw : unpack Format.binary64 w = .finite .positive n f hn)
    (hv : unpack Format.binary64 v ≠ notANumber)
    (hle : placeOf (unpack Format.binary64 v) ≤ placeOf (unpack Format.binary64 w)) :
    AtMostOne (unpack Format.binary64 (pack Format.binary64
      (div Format.binary64 (unpack Format.binary64 v) (unpack Format.binary64 w)))) := by
  have hcanonical := canonical_of_unpack hw
  rw [hw] at hle ⊢
  cases hunpack : unpack Format.binary64 v with
  | notANumber => exact absurd hunpack hv
  | zero sign =>
      have hzero : div Format.binary64 (.zero sign) (.finite .positive n f hn) = .zero sign := by
        cases sign <;> rfl
      have hwithin : Within sign (-53) (.zero sign) := .zero
      rw [hzero]
      exact hwithin.atMostOne_pack (.inr le_rfl)
  | infinity sign =>
      rw [hunpack] at hle
      cases sign with
      | negative =>
          change AtMostOne (unpack Format.binary64 (pack Format.binary64 (.infinity .negative)))
          rw [pack, unpack_packedInfinity]
          exact atMostOne_infinity
      | positive => exact absurd (Place.of_lt_of.mpr (.inl one_lt_two)) hle.not_gt
  | finite sign m e hm =>
      cases sign with
      | negative =>
          obtain ⟨bound, hwithin⟩ := exists_within_roundWithAccuracy .negative _ _ _
          exact hwithin.atMostOne_pack (.inl rfl)
      | positive =>
          rw [hunpack] at hle
          have hplaces : ¬(f < e ∨ f = e ∧ n < m) := by
            intro h
            refine hle.not_gt (Place.of_lt_of.mpr (.inr ⟨rfl, ?_⟩))
            exact h.imp_right fun ⟨heq, hlt⟩ => ⟨heq, Int.ofNat_lt.mpr hlt⟩
          obtain ⟨d, hd, hmantissa⟩ :=
            (canonical_of_unpack hunpack).exists_le_mul hcanonical hn hplaces
          obtain hwithin | hone := div_finite_of_le .positive .positive hm hn hd hmantissa
          · exact hwithin.atMostOne_pack (.inr le_rfl)
          · rw [hone]
            exact atMostOne_one

/-! ### Doubles -/

/-- Dividing by one changes nothing. -/
theorem div_one (w : Float) : w / 1 = w := by
  rw [← Float.toBits_inj, ← UInt64.toBitVec_inj]
  change pack Format.binary64 (div Format.binary64
    (unpack Format.binary64 w.toModel.toBits.toBitVec) (1 : Float).toModel.unpack) =
      w.toModel.toBits.toBitVec
  rw [div_unpack_one]
  exact pack_unpack_of_valid w.toModel.valid

/-- What a finite number above zero is made of. -/
theorem exists_unpack_of_pos {w : Float} (hpos : 0 < w) (hfinite : w.isFinite) :
    ∃ n f hn, w.toModel.unpack = .finite .positive n f hn := by
  obtain ⟨-, -, hplace⟩ := lt_iff_place.mp hpos
  change w.toModel.unpack.isFinite at hfinite
  change Place.of 0 0 0 < placeOf w.toModel.unpack at hplace
  generalize w.toModel.unpack = x at hfinite hplace
  rcases x with _ | _ | (_ | _) | ⟨_ | _, n, f, hn⟩
  · cases hfinite
  · cases hfinite
  · exact absurd hplace (lt_irrefl _)
  · exact absurd hplace (lt_irrefl _)
  · exact absurd hplace (Place.of_lt_of.mpr (.inl (by norm_num))).not_gt
  · exact ⟨n, f, hn, rfl⟩

/-- A finite number above zero divided by itself is one. -/
theorem div_self {w : Float} (hpos : 0 < w) (hfinite : w.isFinite) : w / w = 1 := by
  obtain ⟨n, f, hn, hw⟩ := exists_unpack_of_pos hpos hfinite
  rw [← Float.toBits_inj, ← UInt64.toBitVec_inj]
  change pack Format.binary64 (div Format.binary64 w.toModel.unpack w.toModel.unpack) = _
  rw [hw, div_finite_self]
  rfl

theorem isNaN_div {v : Float} (h : v.isNaN) (w : Float) : (v / w).isNaN := by
  have hv : v.toModel.unpack = notANumber := isNaN_iff.mp h
  have hdiv : div Format.binary64 notANumber w.toModel.unpack = notANumber := by simp only [div]
  change (unpack Format.binary64 (pack Format.binary64
    (div Format.binary64 v.toModel.unpack w.toModel.unpack))).isNaN
  rw [hv, hdiv]
  rfl

/-- A number divided by a finite number above zero that is not less gives one at most. -/
theorem div_le_one {v w : Float} (hpos : 0 < w) (hfinite : w.isFinite) (h : v ≤ w) :
    v / w ≤ 1 := by
  obtain ⟨n, f, hn, hw⟩ := exists_unpack_of_pos hpos hfinite
  obtain ⟨hv, -, hplace⟩ := le_iff_place.mp h
  obtain ⟨hnumber, hle⟩ := atMostOne_div hw (not_isNaN_iff.mp hv) hplace
  exact le_iff_place.mpr ⟨not_isNaN_iff.mpr hnumber, by decide, hle⟩

end Retrieval.Double
