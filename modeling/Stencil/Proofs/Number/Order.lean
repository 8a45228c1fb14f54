import Mathlib
import Stencil.Value.Compare

/-!
# The order of numbers

A floating point number that is neither infinite nor undefined stands for a rational, and the
comparisons of two such numbers are those of their rationals (`float_lt_iff`, `float_beq_iff`).  By
the logical model of such numbers they are compared by exponents first and by mantissas then, which
orders what they stand for because a mantissa has 53 bits unless the exponent is the least one
(`IsMantissa.lt_of_exponent_lt`).
-/

set_option autoImplicit false

namespace Stencil

open Float.Model UnpackedFloat

section Mantissas

/-- The mantissas that a floating point number has with an exponent. -/
structure IsMantissa (m : Nat) (e : Int) : Prop where
  lt : m < 2 ^ 53
  least : -1074 ≤ e
  full : e = -1074 ∨ 2 ^ 52 ≤ m

/-- A greater exponent makes a greater number, whatever the mantissas are. -/
theorem IsMantissa.lt_of_exponent_lt {m m' : Nat} {e e' : Int} (h : IsMantissa m e)
    (h' : IsMantissa m' e') (hlt : e < e') : (m : ℚ) * 2 ^ e < m' * 2 ^ e' := by
  have hfull : 2 ^ 52 ≤ m' := h'.full.resolve_left fun heq => by have := h.least; omega
  calc (m : ℚ) * 2 ^ e < 2 ^ 53 * 2 ^ e := by
        gcongr
        exact_mod_cast h.lt
    _ = 2 ^ 52 * 2 ^ (e + 1) := by
        rw [zpow_add₀ two_ne_zero]
        ring
    _ ≤ m' * 2 ^ e' := by
        gcongr
        · exact_mod_cast hfull
        · exact one_le_two
        · omega

/-- Exponents are compared before mantissas. -/
theorem IsMantissa.compare_eq {m m' : Nat} {e e' : Int} (h : IsMantissa m e)
    (h' : IsMantissa m' e') :
    (compare e e').then (compare m m') = compare ((m : ℚ) * 2 ^ e) (m' * 2 ^ e') := by
  rcases lt_trichotomy e e' with hlt | rfl | hgt
  · rw [compare_lt_iff_lt.2 hlt, compare_lt_iff_lt.2 (h.lt_of_exponent_lt h' hlt)]
    rfl
  · have hpow : (0 : ℚ) < 2 ^ e := by positivity
    rw [compare_eq_iff_eq.2 rfl]
    show compare m m' = _
    rcases lt_trichotomy m m' with hm | rfl | hm
    · rw [compare_lt_iff_lt.2 hm, compare_lt_iff_lt.2]
      gcongr
    · rw [compare_eq_iff_eq.2 rfl, compare_eq_iff_eq.2 rfl]
    · rw [compare_gt_iff_gt.2 hm, compare_gt_iff_gt.2]
      gcongr
  · rw [compare_gt_iff_gt.2 hgt, compare_gt_iff_gt.2 (h'.lt_of_exponent_lt h hgt)]
    rfl

/-- Bits are unpacked to a mantissa and an exponent that belong together. -/
theorem isMantissa_of_unpack {b : BitVec Format.binary64.numBits} {sign : Sign} {m : Nat} {e : Int}
    {hm : 0 < m} (h : UnpackedFloat.unpack Format.binary64 b = .finite sign m e hm) :
    IsMantissa m e := by
  have hbias : ((Format.binary64.exponentBias : Nat) : Int) = 1023 := rfl
  have hbits : ((Format.binary64.mantissaBitsWithoutImplicit : Nat) : Int) = 52 := rfl
  have hmantissa : (unpackMantissa b).toNat < 2 ^ 52 := (unpackMantissa b).isLt
  unfold UnpackedFloat.unpack at h
  dsimp only at h
  rw [hbias, hbits] at h
  split at h
  · split at h <;> cases h
  · split at h
    · next hexponent =>
      split at h
      · cases h
      · have hzero : (unpackExponent b).toNat = 0 := by rw [hexponent]; rfl
        cases h
        rw [hzero]
        exact ⟨by omega, by omega, .inl (by omega)⟩
    · next hexponent =>
      have hpos : (unpackExponent b).toNat ≠ 0 := fun hzero =>
        hexponent (BitVec.eq_of_toNat_eq hzero)
      have hvalue : (1#1 ++ unpackMantissa b).toNat = 2 ^ 52 + (unpackMantissa b).toNat := by
        rw [BitVec.toNat_append, ← Nat.shiftLeft_add_eq_or_of_lt (BitVec.isLt _)]
        rfl
      cases h
      rw [hvalue]
      exact ⟨by omega, by omega, .inr (by omega)⟩

end Mantissas

/-- The rational that an unpacked number stands for, and zero where it stands for none. -/
def unpackedValue : UnpackedFloat → ℚ
  | .finite .positive m e _ => m * 2 ^ e
  | .finite .negative m e _ => -(m * 2 ^ e)
  | _ => 0

/-- The rational that a floating point number stands for, and zero where it stands for none. -/
def floatValue (x : Float) : ℚ :=
  unpackedValue x.toModel.unpack

section Comparing

/-- Negation turns an order around. -/
theorem compare_neg_neg (a b : ℚ) : compare (-a) (-b) = (compare a b).swap := by
  rcases lt_trichotomy a b with h | rfl | h
  · rw [compare_lt_iff_lt.2 h, compare_gt_iff_gt.2 (neg_lt_neg h)]
    rfl
  · rw [compare_eq_iff_eq.2 rfl, compare_eq_iff_eq.2 rfl]
    rfl
  · rw [compare_gt_iff_gt.2 h, compare_lt_iff_lt.2 (neg_lt_neg h)]
    rfl

/-- A positive mantissa has a positive value, whatever its exponent. -/
theorem mantissa_mul_pos {m : Nat} (hm : 0 < m) (e : Int) : (0 : ℚ) < m * 2 ^ e := by
  positivity

/-- Unpacked numbers that are finite are compared by what they stand for. -/
theorem compare_unpack {b b' : BitVec Format.binary64.numBits}
    (h : (UnpackedFloat.unpack Format.binary64 b).isFinite = true)
    (h' : (UnpackedFloat.unpack Format.binary64 b').isFinite = true) :
    (UnpackedFloat.unpack Format.binary64 b).compare (UnpackedFloat.unpack Format.binary64 b') =
      some (compare (unpackedValue (UnpackedFloat.unpack Format.binary64 b))
        (unpackedValue (UnpackedFloat.unpack Format.binary64 b'))) := by
  have hmantissa {s : Sign} {m : Nat} {e : Int} {hm : 0 < m} := @isMantissa_of_unpack b s m e hm
  have hmantissa' {s : Sign} {m : Nat} {e : Int} {hm : 0 < m} := @isMantissa_of_unpack b' s m e hm
  generalize UnpackedFloat.unpack Format.binary64 b = f at *
  generalize UnpackedFloat.unpack Format.binary64 b' = f' at *
  cases f with
  | infinity | notANumber => cases h
  | zero =>
    cases f' with
    | infinity | notANumber => cases h'
    | zero => exact congrArg some (compare_eq_iff_eq.2 rfl).symm
    | finite sign' m' e' hm' =>
      have hpos := mantissa_mul_pos hm' e'
      cases sign' with
      | positive => exact congrArg some (compare_lt_iff_lt.2 hpos).symm
      | negative => exact congrArg some (compare_gt_iff_gt.2 (neg_neg_of_pos hpos)).symm
  | finite sign m e hm =>
    have hpos := mantissa_mul_pos hm e
    cases f' with
    | infinity | notANumber => cases h'
    | zero =>
      cases sign with
      | positive => exact congrArg some (compare_gt_iff_gt.2 hpos).symm
      | negative => exact congrArg some (compare_lt_iff_lt.2 (neg_neg_of_pos hpos)).symm
    | finite sign' m' e' hm' =>
      have hpos' := mantissa_mul_pos hm' e'
      have hcompare := (hmantissa rfl).compare_eq (hmantissa' rfl)
      cases sign with
      | positive =>
        cases sign' with
        | positive => exact congrArg some hcompare
        | negative =>
          exact congrArg some (compare_gt_iff_gt.2 ((neg_neg_of_pos hpos').trans hpos)).symm
      | negative =>
        cases sign' with
        | positive =>
          exact congrArg some (compare_lt_iff_lt.2 ((neg_neg_of_pos hpos).trans hpos')).symm
        | negative =>
          show some ((compare e e').then (compare m m')).swap = some (compare (-_) (-_))
          rw [compare_neg_neg, hcompare]

variable {x y : Float}

/-- Finite floating point numbers are compared by their values. -/
theorem compare_toModel (hx : x.isFinite = true) (hy : y.isFinite = true) :
    x.toModel.unpack.compare y.toModel.unpack = some (compare (floatValue x) (floatValue y)) :=
  compare_unpack hx hy

/-- A finite floating point number is less than another just if its value is. -/
theorem float_lt_iff (hx : x.isFinite = true) (hy : y.isFinite = true) :
    x < y ↔ floatValue x < floatValue y := by
  show decide ((x.toModel.unpack.compare y.toModel.unpack == some .lt) = true) = true ↔ _
  rw [compare_toModel hx hy, decide_eq_true_iff, beq_iff_eq, Option.some_inj, compare_lt_iff_lt]

/-- Finite floating point numbers are equal just if their values are. -/
theorem float_beq_iff (hx : x.isFinite = true) (hy : y.isFinite = true) :
    (x == y) = true ↔ floatValue x = floatValue y := by
  show (x.toModel.unpack.compare y.toModel.unpack == some .eq) = true ↔ _
  rw [compare_toModel hx hy, beq_iff_eq, Option.some_inj, compare_eq_iff_eq]

/-- Finite floating point numbers have the order of what they stand for. -/
theorem Value.compareFloats?_eq (hx : x.isFinite = true) (hy : y.isFinite = true) :
    compareFloats? x y = some (compare (floatValue x) (floatValue y)) := by
  simp only [compareFloats?, float_lt_iff hx hy, float_lt_iff hy hx, float_beq_iff hx hy]
  rcases lt_trichotomy (floatValue x) (floatValue y) with h | h | h
  · rw [if_pos h, compare_lt_iff_lt.2 h]
  · rw [if_neg h.not_lt, if_pos h, compare_eq_iff_eq.2 h]
  · rw [if_neg h.not_gt, if_neg h.ne', if_pos h, compare_gt_iff_gt.2 h]

end Comparing

end Stencil
