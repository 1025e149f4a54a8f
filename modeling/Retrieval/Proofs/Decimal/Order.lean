import Retrieval.Proofs.Decimal.Double

/-!
The order of doubles. Two numbers are compared by their sides of zero, then by their exponents and
then by their mantissas. So every number has a place in one linear order, the same for both zeros,
and the laws of comparison are those of that order. What is no number compares with nothing.
-/

namespace Retrieval.Double

open Float.Model (UnpackedFloat)
open Float.Model.UnpackedFloat

/-! ### Places -/

/-- A place among the numbers: on which side of zero and whether infinitely far out, then the
exponent, then the mantissa. -/
abbrev Place := ℤ ×ₗ ℤ ×ₗ ℤ

def Place.of (side exponent mantissa : ℤ) : Place :=
  toLex (side, toLex (exponent, mantissa))

theorem Place.of_lt_of {side side' exponent exponent' mantissa mantissa' : ℤ} :
    Place.of side exponent mantissa < Place.of side' exponent' mantissa' ↔
      side < side' ∨
        side = side' ∧ (exponent < exponent' ∨ exponent = exponent' ∧ mantissa < mantissa') := by
  simp [Place.of, Prod.Lex.toLex_lt_toLex]

theorem Place.compare_of (side side' exponent exponent' mantissa mantissa' : ℤ) :
    compare (Place.of side exponent mantissa) (Place.of side' exponent' mantissa') =
      (compare side side').then
        ((compare exponent exponent').then (compare mantissa mantissa')) := by
  simp [Place.of, Prod.Lex.compare_def, compareLex, compareOn]

/-- The place of an unpacked double. Below zero a greater exponent or mantissa comes first. -/
def placeOf : UnpackedFloat → Place
  | infinity .negative => .of (-2) 0 0
  | finite .negative mantissa exponent _ => .of (-1) (-exponent) (-mantissa)
  | finite .positive mantissa exponent _ => .of 1 exponent mantissa
  | infinity .positive => .of 2 0 0
  | _ => .of 0 0 0

def place (w : Float) : Place :=
  placeOf w.toModel.unpack

/-! ### Comparing unpacked doubles -/

theorem compare_neg (i j : ℤ) : compare (-i) (-j) = (compare i j).swap := by
  rw [Int.compare_swap]
  simp [compare, compareOfLessAndEq, eq_comm]

theorem compare_natCast (m n : ℕ) : compare (m : ℤ) (n : ℤ) = compare m n := by
  simp [compare, compareOfLessAndEq]

theorem compare_finite (sign : Sign) {m n : ℕ} (e f : ℤ) (hm : 0 < m) (hn : 0 < n) :
    UnpackedFloat.compare (finite sign m e hm) (finite sign n f hn) =
      some (compare (placeOf (finite sign m e hm)) (placeOf (finite sign n f hn))) := by
  cases sign with
  | negative =>
      simp [UnpackedFloat.compare, placeOf, Place.compare_of, compare_neg, compare_natCast,
        Ordering.swap_then]
  | positive => simp [UnpackedFloat.compare, placeOf, Place.compare_of, compare_natCast]

/-- Numbers compare as their places do. -/
theorem compare_eq_some {a b : UnpackedFloat} (ha : a ≠ notANumber) (hb : b ≠ notANumber) :
    UnpackedFloat.compare a b = some (compare (placeOf a) (placeOf b)) := by
  rcases a with (_ | _) | _ | (_ | _) | ⟨_ | _, m, e, hm⟩ <;>
    rcases b with (_ | _) | _ | (_ | _) | ⟨_ | _, n, f, hn⟩
  -- The sides decide, except between two finite numbers on one side of zero.
  all_goals first
    | contradiction
    | exact compare_finite _ e f hm hn
    | rfl

theorem compare_notANumber (a : UnpackedFloat) : UnpackedFloat.compare a notANumber = none := by
  cases a <;> rfl

theorem lt_iff_placeOf {a b : UnpackedFloat} :
    a.lt b ↔ a ≠ notANumber ∧ b ≠ notANumber ∧ placeOf a < placeOf b := by
  by_cases ha : a = notANumber
  · simp [ha, UnpackedFloat.lt, UnpackedFloat.compare]
  · by_cases hb : b = notANumber
    · simp [hb, UnpackedFloat.lt, compare_notANumber]
    · simp [ha, hb, UnpackedFloat.lt, compare_eq_some ha hb, compare_lt_iff_lt]

theorem le_iff_placeOf {a b : UnpackedFloat} :
    a.le b ↔ a ≠ notANumber ∧ b ≠ notANumber ∧ placeOf a ≤ placeOf b := by
  by_cases ha : a = notANumber
  · simp [ha, UnpackedFloat.le, UnpackedFloat.compare]
  · by_cases hb : b = notANumber
    · simp [hb, UnpackedFloat.le, compare_notANumber]
    · simp [ha, hb, UnpackedFloat.le, compare_eq_some ha hb, Ordering.isLE_iff_ne_gt,
        compare_le_iff_le]

/-- Above zero no two numbers share a place. -/
theorem eq_of_placeOf_eq {a b : UnpackedFloat} (h : placeOf a = placeOf b)
    (hpos : Place.of 0 0 0 < placeOf b) : a = b := by
  rcases a with (_ | _) | _ | (_ | _) | ⟨_ | _, m, e, hm⟩ <;>
    rcases b with (_ | _) | _ | (_ | _) | ⟨_ | _, n, f, hn⟩ <;>
    simp_all [placeOf, Place.of, Prod.Lex.toLex_lt_toLex]

/-! ### Comparing doubles -/

theorem not_isNaN_iff {w : Float} : ¬w.isNaN ↔ w.toModel.unpack ≠ notANumber :=
  isNaN_iff.not

theorem lt_iff_place {v w : Float} : v < w ↔ ¬v.isNaN ∧ ¬w.isNaN ∧ place v < place w := by
  rw [not_isNaN_iff, not_isNaN_iff]
  change decide (v.toModel < w.toModel) = true ↔ _
  rw [decide_eq_true_iff]
  exact lt_iff_placeOf

theorem le_iff_place {v w : Float} : v ≤ w ↔ ¬v.isNaN ∧ ¬w.isNaN ∧ place v ≤ place w := by
  rw [not_isNaN_iff, not_isNaN_iff]
  change decide (v.toModel ≤ w.toModel) = true ↔ _
  rw [decide_eq_true_iff]
  exact le_iff_placeOf

protected theorem le_refl {w : Float} (h : ¬w.isNaN) : w ≤ w :=
  le_iff_place.mpr ⟨h, h, le_rfl⟩

protected theorem le_trans {u v w : Float} (huv : u ≤ v) (hvw : v ≤ w) : u ≤ w := by
  obtain ⟨hu, -, hplace⟩ := le_iff_place.mp huv
  obtain ⟨-, hw, hplace'⟩ := le_iff_place.mp hvw
  exact le_iff_place.mpr ⟨hu, hw, hplace.trans hplace'⟩

protected theorem le_of_lt {v w : Float} (h : v < w) : v ≤ w := by
  obtain ⟨hv, hw, hplace⟩ := lt_iff_place.mp h
  exact le_iff_place.mpr ⟨hv, hw, hplace.le⟩

protected theorem lt_of_lt_of_le {u v w : Float} (huv : u < v) (hvw : v ≤ w) : u < w := by
  obtain ⟨hu, -, hplace⟩ := lt_iff_place.mp huv
  obtain ⟨-, hw, hplace'⟩ := le_iff_place.mp hvw
  exact lt_iff_place.mpr ⟨hu, hw, hplace.trans_le hplace'⟩

protected theorem not_lt {v w : Float} (hv : ¬v.isNaN) (hw : ¬w.isNaN) : ¬v < w ↔ w ≤ v := by
  rw [lt_iff_place, le_iff_place, and_iff_right hv, and_iff_right hw, and_iff_right hw,
    and_iff_right hv, not_lt]

protected theorem not_le {v w : Float} (hv : ¬v.isNaN) (hw : ¬w.isNaN) : ¬v ≤ w ↔ w < v := by
  rw [← Double.not_lt hw hv, not_not]

/-- Only zero has two forms that compare equal. -/
theorem eq_of_le_of_le {v w : Float} (hpos : 0 < w) (hle : v ≤ w) (hge : w ≤ v) : v = w := by
  have hplace : place v = place w :=
    (le_iff_place.mp hle).2.2.antisymm (le_iff_place.mp hge).2.2
  have hunpack := eq_of_placeOf_eq hplace (lt_iff_place.mp hpos).2.2
  rw [← Float.toBits_inj, ← UInt64.toBitVec_inj]
  exact (unpack_inj_of_valid v.toModel.valid w.toModel.valid).mp hunpack

end Retrieval.Double
