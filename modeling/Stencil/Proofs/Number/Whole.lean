import Mathlib
import Stencil.Number

/-!
# Whole parts of numbers

The number that a loop counts is taken from a floating point number, towards zero and clamped to 64
bits.  By the logical model of such numbers that is the whole part of what a number stands for
(`Number.truncateUnsigned_eq`), and zero for a negative one.  An integer is turned into a
floating point number first, which keeps it as it is up to 53 bits and does not bring a greater one
below them (`unpack_ofNat`).  So counts are exact up to `2 ^ 53` (`Number.min_truncateUnsigned`).
-/

set_option autoImplicit false

namespace Stencil

open Float.Model UnpackedFloat

/-- The whole part of what a floating point number stands for, and zero for a negative one. -/
def wholeUnpacked : UnpackedFloat → Nat
  | .finite .positive m e _ => ⌊(m : ℚ) * 2 ^ e⌋₊
  | .infinity .positive => 2 ^ 64 - 1
  | _ => 0

/-- The whole part of a number, and zero for a negative one. -/
def Number.whole : Number → Nat
  | int n => n.toNat
  | float x => wholeUnpacked x.toModel.unpack

section Truncating

/-- Shifting a mantissa divides it. -/
theorem mantissa_shiftRight (em : ExtendedMantissa) (k : Nat) :
    (em >>> k).mantissa = em.mantissa / 2 ^ k := by
  induction k with
  | zero => exact (Nat.div_one _).symm
  | succ k ih =>
    show (em >>> k).mantissa / 2 = _
    rw [ih, Nat.div_div_eq_div_mul, Nat.pow_succ]

/-- Rounding towards zero takes the whole part. -/
theorem roundToInt_positive (m : Nat) (e : Int) :
    roundToInt .positive m e = ⌊(m : ℚ) * 2 ^ e⌋₊ := by
  unfold roundToInt decreaseExponent shiftToExponent
  dsimp only
  rw [mantissa_shiftRight]
  show ((m <<< (e - 0).toNat / 2 ^ (0 - (e - ((e - 0).toNat : Int))).toNat : Nat) : Int) = _
  rw [Nat.shiftLeft_eq, Nat.cast_inj]
  obtain ⟨k, rfl | rfl⟩ := e.eq_nat_or_neg
  · have hdown : (0 - ((k : Int) - (((k : Int) - 0).toNat : Int))).toNat = 0 := by omega
    rw [hdown, Nat.pow_zero, Nat.div_one, Int.sub_zero, Int.toNat_natCast, zpow_natCast]
    exact_mod_cast (Nat.floor_natCast (m * 2 ^ k)).symm
  · have hup : (-(k : Int) - 0).toNat = 0 := by omega
    have hdown : (0 - (-(k : Int) - ((0 : Nat) : Int))).toNat = k := by omega
    rw [hup, hdown, Nat.pow_zero, Nat.mul_one, zpow_neg, zpow_natCast, ← div_eq_mul_inv]
    exact_mod_cast (Nat.floor_div_eq_div (K := ℚ) m (2 ^ k)).symm

/-- A number that is too great for 64 bits is cut to the greatest one. -/
theorem toNat_ofNatClamp (n : Nat) : (UInt64.ofNatClamp n).toNat = min n (2 ^ 64 - 1) := by
  unfold UInt64.ofNatClamp
  split
  · next h =>
    rw [UInt64.toNat_ofNatLT]
    have hsize : UInt64.size = 2 ^ 64 := rfl
    omega
  · next h =>
    have hsize : UInt64.size = 2 ^ 64 := rfl
    rw [UInt64.toNat_ofNatLT]
    omega

/-- The whole part is taken, up to the greatest 64-bit integer. -/
theorem toNat_toUInt64 (f : UnpackedFloat) :
    f.toUInt64.toNat = min (wholeUnpacked f) (2 ^ 64 - 1) := by
  have hwhole : (f.toInt 0 (UInt64.size - 1)).toNat = wholeUnpacked f := by
    cases f with
    | infinity sign => cases sign <;> rfl
    | notANumber => rfl
    | zero sign => rfl
    | finite sign m e hm =>
      cases sign with
      | positive =>
        show (roundToInt .positive m e).toNat = _
        rw [roundToInt_positive]
        rfl
      | negative =>
        unfold toInt roundToInt
        dsimp only
        exact Int.toNat_of_nonpos (Int.neg_nonpos_of_nonneg (Int.natCast_nonneg _))
  unfold UnpackedFloat.toUInt64
  rw [toNat_ofNatClamp, hwhole]

/-- Truncating a number gives its whole part, cut to 64 bits. -/
theorem Number.truncateUnsigned_eq (x : Float) :
    truncateUnsigned x = min (whole (.float x)) (2 ^ 64 - 1) :=
  toNat_toUInt64 x.toModel.unpack

end Truncating

section Rounding

/-- The exponent that a number of 53 bits is stored with. -/
theorem targetExponent_eq (m : Nat) (e : Int) :
    Format.binary64.targetExponent (totalExponent m e) = max (m.log2 + 1 + e - 53) (-1074) :=
  rfl

/-- Rounding moves to the next mantissa at most. -/
theorem roundedMantissa_bounds (em : ExtendedMantissa) :
    em.mantissa ≤ em.roundedMantissa ∧ em.roundedMantissa ≤ em.mantissa + 1 := by
  unfold ExtendedMantissa.roundedMantissa ExtendedMantissa.accuracy
  split <;> unfold Accuracy.roundToNearestEven <;> dsimp only <;> omega

/-- No bits are lost where only zeros are shifted out. -/
theorem shiftRight_exact (q k : Nat) :
    (ExtendedMantissa.ofMantissaAndAccuracy (q * 2 ^ k) .exact >>> k) = ⟨q, false, false⟩ := by
  induction k generalizing q with
  | zero =>
    rw [Nat.pow_zero, Nat.mul_one]
    rfl
  | succ k ih =>
    show ExtendedMantissa.shiftRightOne
      (ExtendedMantissa.ofMantissaAndAccuracy (q * 2 ^ (k + 1)) .exact >>> k) = _
    rw [Nat.pow_succ, Nat.mul_comm (2 ^ k), ← Nat.mul_assoc, ih]
    simp [ExtendedMantissa.shiftRightOne]

/-- A mantissa of at least 53 bits is shifted to 53 bits. -/
theorem shiftToTargetExponent_eq {m : Nat} {e : Int} (hm : 52 ≤ m.log2)
    (he : -1074 ≤ e + (m.log2 - 52 : Nat)) :
    shiftToTargetExponent Format.binary64 m e .exact =
      (ExtendedMantissa.ofMantissaAndAccuracy m .exact >>> (m.log2 - 52),
        e + (m.log2 - 52 : Nat)) := by
  unfold shiftToTargetExponent shiftToExponent
  have hshift : (max (m.log2 + 1 + e - 53) (-1074) - e).toNat = m.log2 - 52 := by omega
  rw [targetExponent_eq]
  dsimp only
  rw [hshift]

/-- A number of at least 53 bits loses all but 53 of them. -/
theorem div_two_pow_bounds {m k : Nat} (hlog : m.log2 = 52 + k) :
    2 ^ 52 ≤ m / 2 ^ k ∧ m / 2 ^ k < 2 ^ 53 := by
  have hpos : m ≠ 0 := by
    rintro rfl
    have : (0 : Nat).log2 = 0 := rfl
    omega
  obtain ⟨hlow, hhigh⟩ := (Nat.log2_eq_iff hpos).1 hlog
  have hpow : 2 ^ (52 + k + 1) = 2 ^ 53 * 2 ^ k := by
    rw [← Nat.pow_add]
    congr 1
    omega
  rw [Nat.pow_add] at hlow
  rw [hpow] at hhigh
  exact ⟨(Nat.le_div_iff_mul_le (Nat.two_pow_pos k)).2 hlow,
    (Nat.div_lt_iff_lt_mul (Nat.two_pow_pos k)).2 hhigh⟩

/-- A mantissa that was rounded is shifted once more if rounding up carried into a further bit, and
is kept otherwise. -/
theorem exists_shift_of_rounded {r : Nat} {e : Int} (hlow : 2 ^ 52 ≤ r) (hhigh : r ≤ 2 ^ 53)
    (he : -1074 ≤ e) : ∃ em E, shiftToTargetExponent Format.binary64 r e .exact = (em, E) ∧
      em.mantissa.log2 = 52 ∧ 0 < em.mantissa ∧ e ≤ E ∧ E ≤ e + 1 ∧
        (em.mantissa : ℚ) * 2 ^ E = r * 2 ^ e ∧ (r < 2 ^ 53 → em.mantissa = r ∧ E = e) := by
  by_cases hcarry : r < 2 ^ 53
  · have hlog : r.log2 = 52 := (Nat.log2_eq_iff (by omega)).2 ⟨hlow, hcarry⟩
    have hshift := shiftToTargetExponent_eq (m := r) (e := e) (by omega) (by omega)
    rw [hlog] at hshift
    have hkept : (ExtendedMantissa.ofMantissaAndAccuracy r .exact >>> (52 - 52)).mantissa = r := rfl
    have hsame : e + ((52 - 52 : Nat) : Int) = e := by omega
    rw [hsame] at hshift
    exact ⟨_, _, hshift, by rw [hkept, hlog], by rw [hkept]; omega, le_rfl, by omega,
      by rw [hkept], fun _ => ⟨hkept, rfl⟩⟩
  · obtain rfl : r = 2 ^ 53 := by omega
    have hlog : (2 ^ 53 : Nat).log2 = 53 := Nat.log2_two_pow
    have hshift := shiftToTargetExponent_eq (m := 2 ^ 53) (e := e) (by omega) (by omega)
    rw [hlog] at hshift
    have hhalf : (ExtendedMantissa.ofMantissaAndAccuracy (2 ^ 53) .exact >>>
        (53 - 52)).mantissa = 2 ^ 52 := rfl
    have hvalue : ((2 ^ 52 : Nat) : ℚ) * 2 ^ (e + ((53 - 52 : Nat) : Int)) =
        ((2 ^ 53 : Nat) : ℚ) * 2 ^ e := by
      rw [zpow_add₀ two_ne_zero]
      norm_num
      ring
    exact ⟨_, _, hshift, by rw [hhalf, Nat.log2_two_pow], by rw [hhalf]; omega, by omega, by omega,
      by rw [hhalf]; exact hvalue, fun h => absurd h hcarry⟩

/-- A number of at least 53 bits is rounded to 53 bits, and is kept if it fits them. -/
theorem roundWithAccuracy_eq (sign : Sign) {m : Nat} {e : Int} (hm : 52 ≤ m.log2)
    (he : -1074 ≤ e + (m.log2 - 52 : Nat)) :
    ∃ M E, ∃ hM : 0 < M, roundWithAccuracy Format.binary64 sign m e .exact = .finite sign M E hM ∧
      M.log2 = 52 ∧ e + (m.log2 - 52 : Nat) ≤ E ∧ E ≤ e + (m.log2 - 52 : Nat) + 1 ∧
        (M : ℚ) * 2 ^ E =
          (ExtendedMantissa.ofMantissaAndAccuracy m .exact >>> (m.log2 - 52)).roundedMantissa *
            2 ^ (e + (m.log2 - 52 : Nat)) ∧
        ∀ q, m = q * 2 ^ (m.log2 - 52) → M = q ∧ E = e + (m.log2 - 52 : Nat) := by
  generalize hk : m.log2 - 52 = k at he ⊢
  obtain ⟨hleft, hright⟩ := div_two_pow_bounds (m := m) (k := k) (by omega)
  have hfirst := shiftToTargetExponent_eq hm (hk ▸ he)
  rw [hk] at hfirst
  unfold roundWithAccuracy
  rw [hfirst]
  generalize hem : ExtendedMantissa.ofMantissaAndAccuracy m .exact >>> k = em
  have hmantissa : em.mantissa = m / 2 ^ k := by
    rw [← hem, mantissa_shiftRight]
    rfl
  obtain ⟨hdown, hup⟩ := roundedMantissa_bounds em
  obtain ⟨em', E, hsecond, hbits, hpos, hE, hE', hvalue, hsame⟩ :=
    exists_shift_of_rounded (r := em.roundedMantissa) (e := e + k) (by omega) (by omega) (by omega)
  dsimp only
  rw [hsecond]
  dsimp only
  rw [dif_neg hpos.ne']
  refine ⟨_, _, hpos, rfl, hbits, hE, hE', hvalue, fun q hq => ?_⟩
  have hexact : em.roundedMantissa = q := by
    rw [← hem, hq, shiftRight_exact]
    rfl
  have hquotient : m / 2 ^ k = q := Nat.div_eq_of_eq_mul_left (Nat.two_pow_pos k) hq
  exact hexact ▸ hsame (by omega)

end Rounding

section Packing

/-- A sign is read back from its bit. -/
theorem ofBitVec_toBitVec (sign : Sign) : Sign.ofBitVec sign.toBitVec = sign := by
  cases sign <;> rfl

/-- The sign of a number is the first of its bits. -/
theorem unpackSign_packComponents (sign : Sign) (exponent : BitVec 11) (mantissa : BitVec 52) :
    unpackSign (packComponents Format.binary64 sign exponent mantissa) = sign.toBitVec := by
  show (sign.toBitVec ++ exponent ++ mantissa).extractLsb' 63 1 = sign.toBitVec
  rw [BitVec.extractLsb'_append_eq_of_le (by decide),
    BitVec.extractLsb'_append_eq_of_le (by decide)]
  cases sign <;> rfl

/-- Infinity is read back from its bits. -/
theorem unpack_packedInfinity (sign : Sign) :
    UnpackedFloat.unpack Format.binary64 (packedInfinity Format.binary64 sign) =
      .infinity sign := by
  cases sign <;> rfl

/-- The mantissa without its first bit. -/
theorem toNat_implicit_append {m : Nat} (hpos : 0 < m) (hm : m.log2 = 52) :
    (1#1 ++ BitVec.ofNat 52 m).toNat = m := by
  obtain ⟨hlow, hhigh⟩ := (Nat.log2_eq_iff hpos.ne').1 hm
  have hfirst : (1 : Nat) <<< 52 = 2 ^ 52 := rfl
  rw [BitVec.toNat_append, ← Nat.shiftLeft_add_eq_or_of_lt (BitVec.isLt _), BitVec.toNat_ofNat,
    BitVec.toNat_ofNat, Nat.one_mod, hfirst]
  omega

/-- A number of 53 bits is kept, unless its exponent is out of range. -/
theorem unpack_pack_of_log2 (sign : Sign) {m : Nat} {e : Int} (hpos : 0 < m) (hm : m.log2 = 52)
    (he : -1074 ≤ e) :
    UnpackedFloat.unpack Format.binary64
      (UnpackedFloat.pack Format.binary64 (.finite sign m e hpos)) =
        if e ≤ 971 then .finite sign m e hpos else .infinity sign := by
  have hbias : e + (Format.binary64.exponentBias : Int) +
      (Format.binary64.mantissaBitsWithoutImplicit : Int) = e + 1075 := by
    show e + 1023 + 52 = e + 1075
    omega
  unfold UnpackedFloat.pack
  dsimp only
  rw [hbias, hm]
  by_cases hrange : e ≤ 971
  · have hfits : ¬ 2 ^ 11 ≤ (e + 1075).toNat + 1 := by omega
    have hbits : 52 + 1 = Format.binary64.mantissaBits := rfl
    rw [if_neg hfits, if_pos hrange, if_pos hbits]
    have hbiased : (BitVec.ofNat 11 (e + 1075).toNat).toNat = (e + 1075).toNat := by
      rw [BitVec.toNat_ofNat]
      omega
    have hne (b : BitVec 11) (hb : b.toNat ≠ (e + 1075).toNat) :
        BitVec.ofNat 11 (e + 1075).toNat ≠ b := by
      rintro rfl
      exact hb hbiased
    have hfinite : BitVec.ofNat 11 (e + 1075).toNat ≠ -1#11 := by
      apply hne
      show 2047 ≠ _
      omega
    have hnormal : BitVec.ofNat 11 (e + 1075).toNat ≠ 0#11 := by
      apply hne
      show 0 ≠ _
      omega
    unfold UnpackedFloat.unpack
    dsimp only
    rw [if_neg (by rw [unpackExponent_packComponents]; exact hfinite),
      if_neg (by rw [unpackExponent_packComponents]; exact hnormal),
      unpackSign_packComponents, ofBitVec_toBitVec, unpackExponent_packComponents]
    have hexponent : ((BitVec.ofNat 11 (e + 1075).toNat).toNat : Int) -
        ((Format.binary64.exponentBias : Int) + ((52 : Nat) : Int)) = e := by
      rw [hbiased]
      show ((e + 1075).toNat : Int) - (1023 + 52) = e
      omega
    congr 1
    rw [unpackMantissa_packComponents]
    exact toNat_implicit_append hpos hm
  · have hover : 2 ^ 11 ≤ (e + 1075).toNat + 1 := by omega
    rw [if_pos hover, if_neg hrange, unpack_packedInfinity]

end Packing

section Integers

/-- A product is the rounded product of the numbers. -/
theorem unpack_mul (x y : Float) : (x * y).toModel.unpack =
    UnpackedFloat.unpack Format.binary64 (UnpackedFloat.pack Format.binary64
      (UnpackedFloat.mul Format.binary64 x.toModel.unpack y.toModel.unpack)) :=
  rfl

/-- A power of two adds to the length of a number. -/
theorem log2_mul_two_pow {m : Nat} (hpos : 0 < m) (k : Nat) : (m * 2 ^ k).log2 = m.log2 + k := by
  obtain ⟨hlow, hhigh⟩ := (Nat.log2_eq_iff hpos.ne').1 rfl
  have hne : m * 2 ^ k ≠ 0 := (Nat.mul_pos hpos (Nat.two_pow_pos k)).ne'
  apply (Nat.log2_eq_iff hne).2
  constructor
  · rw [Nat.pow_add]
    exact Nat.mul_le_mul_right _ hlow
  · rw [show m.log2 + k + 1 = (m.log2 + 1) + k by omega, Nat.pow_add]
    exact Nat.mul_lt_mul_of_pos_right hhigh (Nat.two_pow_pos k)

/-- An integer of at most 53 bits is kept by rounding. -/
theorem round_eq {n : Nat} (hpos : 0 < n) (hn : n < 2 ^ 53) :
    UnpackedFloat.round Format.binary64 .positive n 0 =
      .finite .positive (n * 2 ^ (52 - n.log2)) (n.log2 - 52)
        (Nat.mul_pos hpos (Nat.two_pow_pos _)) := by
  have hlog : n.log2 < 53 := (Nat.log2_lt hpos.ne').2 hn
  have htarget : max ((n.log2 : Int) + 1 + 0 - 53) (-1074) = n.log2 - 52 := by omega
  have hshift : (0 - ((n.log2 : Int) - 52)).toNat = 52 - n.log2 := by omega
  have hexponent : (0 : Int) - ((52 - n.log2 : Nat) : Int) = n.log2 - 52 := by omega
  unfold UnpackedFloat.round decreaseExponent
  rw [targetExponent_eq, htarget]
  dsimp only
  rw [hshift, hexponent, Nat.shiftLeft_eq]
  have hbits : (n * 2 ^ (52 - n.log2)).log2 = 52 := by
    rw [log2_mul_two_pow hpos]
    omega
  obtain ⟨m, e, hm, hround, -, -, -, -, hexact⟩ :=
    roundWithAccuracy_eq (m := n * 2 ^ (52 - n.log2)) (e := n.log2 - 52) .positive (by omega)
      (by omega)
  obtain ⟨rfl, he⟩ := hexact (n * 2 ^ (52 - n.log2)) (by rw [hbits]; simp)
  have hsame : (n.log2 : Int) - 52 + ((52 - 52 : Nat) : Int) = n.log2 - 52 := by omega
  rw [hbits, hsame] at he
  rw [hround, he]

/-- An integer of at most 53 bits is kept by its conversion. -/
theorem unpack_toFloat {n : Nat} (hpos : 0 < n) (hn : n < 2 ^ 53) :
    ∃ m, ∃ hm : 0 < m, n.toUInt64.toFloat.toModel.unpack =
        .finite .positive m (n.log2 - 52) hm ∧
      m.log2 = 52 ∧ (m : ℚ) * 2 ^ ((n.log2 : Int) - 52) = n := by
  have hlog : n.log2 < 53 := (Nat.log2_lt hpos.ne').2 hn
  have hbits : (n * 2 ^ (52 - n.log2)).log2 = 52 := by
    rw [log2_mul_two_pow hpos]
    omega
  have hnat : n.toUInt64.toNat = n := by
    show n % 2 ^ 64 = n
    omega
  have hround : UnpackedFloat.ofUInt64 Format.binary64 n.toUInt64 =
      UnpackedFloat.round Format.binary64 .positive n 0 := by
    unfold UnpackedFloat.ofUInt64 UnpackedFloat.ofNat UnpackedFloat.ofInt
      UnpackedFloat.normalize
    rw [hnat, Int.compare_eq_gt.2 (by omega)]
    rfl
  refine ⟨n * 2 ^ (52 - n.log2), Nat.mul_pos hpos (Nat.two_pow_pos _), ?_, hbits, ?_⟩
  · show UnpackedFloat.unpack Format.binary64
      (UnpackedFloat.pack Format.binary64 (UnpackedFloat.ofUInt64 Format.binary64 n.toUInt64)) = _
    rw [hround, round_eq hpos hn, unpack_pack_of_log2 _ _ hbits (by omega), if_pos (by omega)]
  · rw [Nat.cast_mul, Nat.cast_pow, Nat.cast_ofNat, ← zpow_natCast, mul_assoc,
      ← zpow_add₀ two_ne_zero, show ((52 - n.log2 : Nat) : Int) + (n.log2 - 52) = 0 by omega,
      zpow_zero, mul_one]

/-- What a positive integer is as a floating point number: infinite, or of 53 bits. -/
inductive IntegerForm (n : Nat) : UnpackedFloat → Prop
  | infinity (h : 2 ^ 53 ≤ n) : IntegerForm n (.infinity .positive)
  | finite {m : Nat} {e : Int} (hpos : 0 < m) (hm : m.log2 = 52) (he : -1074 ≤ e) (he' : e ≤ 971)
      (hlow : n < 2 ^ 53 → (m : ℚ) * 2 ^ e = n) (hhigh : 2 ^ 53 ≤ n → 1 ≤ e) :
      IntegerForm n (.finite .positive m e hpos)

/-- A small integer is converted and multiplied by one. -/
theorem unpack_ofScientific_of_lt {n : Nat} (hpos : 0 < n) (hn : n < 2 ^ 53) :
    IntegerForm n (Float.ofScientific n false 0).toModel.unpack := by
  have hone : (Float.ofBits 0x3FF0000000000000).toModel.unpack =
      .finite .positive (2 ^ 52) (-52) (by decide) := rfl
  have hlog : n.log2 < 53 := (Nat.log2_lt hpos.ne').2 hn
  unfold Float.ofScientific
  rw [dif_pos ⟨hn, by decide⟩]
  dsimp only
  rw [if_neg Bool.false_ne_true]
  show IntegerForm n (n.toUInt64.toFloat * Float.ofBits 0x3FF0000000000000).toModel.unpack
  obtain ⟨m, hm, hunpack, hbits, hvalue⟩ := unpack_toFloat hpos hn
  rw [unpack_mul, hunpack, hone]
  have hproduct : (m * 2 ^ 52).log2 = 104 := by
    rw [log2_mul_two_pow hm, hbits]
  obtain ⟨m', e, hm', hround, -, -, -, -, hexact⟩ := roundWithAccuracy_eq (m := m * 2 ^ 52)
    (e := (n.log2 : Int) - 52 + -52) .positive (by omega) (by omega)
  obtain ⟨rfl, he⟩ := hexact m (by rw [hproduct])
  rw [hproduct] at he
  have hexponent : e = (n.log2 : Int) - 52 := by omega
  subst hexponent
  show IntegerForm n (UnpackedFloat.unpack Format.binary64 (UnpackedFloat.pack Format.binary64
    (roundWithAccuracy Format.binary64 .positive (m' * 2 ^ 52) ((n.log2 : Int) - 52 + -52)
      .exact)))
  rw [hround, unpack_pack_of_log2 _ _ hbits (by omega), if_pos (by omega)]
  exact .finite hm hbits (by omega) (by omega) (fun _ => hvalue) fun hge => by omega

/-- A great integer is rounded. -/
theorem unpack_ofScientific_eq {n : Nat} (hn : 2 ^ 53 ≤ n) :
    (Float.ofScientific n false 0).toModel.unpack =
      UnpackedFloat.unpack Format.binary64 (UnpackedFloat.pack Format.binary64
        (roundWithAccuracy Format.binary64 .positive (n * 2 ^ 53) (-53) .exact)) := by
  have hpos : 0 < n := by omega
  unfold Float.ofScientific
  rw [dif_neg fun h => Nat.not_lt.2 hn h.1]
  have hscientific : UnpackedFloat.ofScientific Format.binary64 n 0 =
      roundWithAccuracy Format.binary64 .positive (n <<< 53 * 10 ^ 0) (-53 + 0) .exact := by
    unfold UnpackedFloat.ofScientific
    have hsmall : ¬ (0 : Int) < -(2 ^ Format.binary64.exponentBits + n.log2) := by
      show ¬ (0 : Int) < -(2048 + n.log2)
      omega
    rw [dif_neg hpos.ne', if_neg (by decide), if_neg hsmall, if_pos (by decide)]
    rfl
  show UnpackedFloat.unpack Format.binary64 (UnpackedFloat.pack Format.binary64
    (UnpackedFloat.ofScientific Format.binary64 n 0)) = _
  rw [hscientific, Nat.pow_zero, Nat.mul_one, Nat.shiftLeft_eq, Int.add_zero]

/-- A great integer may be out of range. -/
theorem unpack_ofScientific_of_le {n : Nat} (hn : 2 ^ 53 ≤ n) :
    IntegerForm n (Float.ofScientific n false 0).toModel.unpack := by
  have hpos : 0 < n := by omega
  have hlog : 53 ≤ n.log2 := (Nat.le_log2 hpos.ne').2 hn
  have hproduct : (n * 2 ^ 53).log2 = n.log2 + 53 := log2_mul_two_pow hpos 53
  obtain ⟨m, e, hm, hround, hbits, he, -⟩ := roundWithAccuracy_eq (m := n * 2 ^ 53)
    (e := -53) .positive (by omega) (by omega)
  rw [hproduct] at he
  rw [unpack_ofScientific_eq hn, hround, unpack_pack_of_log2 _ hm hbits (by omega)]
  split
  · next hrange =>
    exact .finite hm hbits (by omega) hrange (fun hlt => absurd hn (Nat.not_le.2 hlt))
      fun _ => by omega
  · exact .infinity hn

/-- A positive integer as a floating point number is infinite, or of 53 bits. -/
theorem unpack_ofNat {n : Nat} (hpos : 0 < n) : IntegerForm n (Float.ofNat n).toModel.unpack := by
  show IntegerForm n (Float.ofScientific n false 0).toModel.unpack
  rcases Nat.lt_or_ge n (2 ^ 53) with hn | hn
  · exact unpack_ofScientific_of_lt hpos hn
  · exact unpack_ofScientific_of_le hn

/-- An integer is kept by its conversion up to `2 ^ 53`, and stays above that. -/
theorem IntegerForm.min_wholeUnpacked {n : Nat} {f : UnpackedFloat} (h : IntegerForm n f) :
    min (wholeUnpacked f) (2 ^ 53) = min n (2 ^ 53) := by
  cases h with
  | infinity hge =>
    show min (2 ^ 64 - 1) (2 ^ 53) = min n (2 ^ 53)
    omega
  | @finite m e hpos hm he he' hlow hhigh =>
    show min ⌊(m : ℚ) * 2 ^ e⌋₊ (2 ^ 53) = min n (2 ^ 53)
    by_cases hn : n < 2 ^ 53
    · rw [hlow hn, Nat.floor_natCast]
    · have hge : 2 ^ 53 ≤ n := by omega
      have hlarge : 2 ^ 53 ≤ ⌊(m : ℚ) * 2 ^ e⌋₊ := by
        apply Nat.le_floor
        have hmantissa : ((2 ^ 52 : Nat) : ℚ) ≤ m := by
          exact_mod_cast ((Nat.log2_eq_iff hpos.ne').1 hm).1
        have hexponent : (2 : ℚ) ^ (1 : Int) ≤ 2 ^ e :=
          zpow_le_zpow_right₀ one_le_two (hhigh hge)
        calc ((2 ^ 53 : Nat) : ℚ) = ((2 ^ 52 : Nat) : ℚ) * 2 ^ (1 : Int) := by norm_num
          _ ≤ m * 2 ^ e := mul_le_mul hmantissa hexponent (by positivity) (Nat.cast_nonneg m)
      omega

/-- A negative integer has no whole part. -/
theorem IntegerForm.wholeUnpacked_neg {n : Nat} {f : UnpackedFloat} (h : IntegerForm n f) :
    wholeUnpacked (UnpackedFloat.unpack Format.binary64
      (UnpackedFloat.pack Format.binary64 f.neg)) = 0 := by
  cases h with
  | infinity =>
    show wholeUnpacked (UnpackedFloat.unpack Format.binary64
      (packedInfinity Format.binary64 .negative)) = 0
    rw [unpack_packedInfinity]
    rfl
  | @finite m e hpos hm he he' =>
    show wholeUnpacked (UnpackedFloat.unpack Format.binary64
      (UnpackedFloat.pack Format.binary64 (.finite .negative m e hpos))) = 0
    rw [unpack_pack_of_log2 _ hpos hm he, if_pos he']
    rfl

end Integers

/-- The whole part that is taken of a number is exact up to `2 ^ 53`, and not less than that for a
greater one. -/
theorem Number.min_truncateUnsigned (n : Number) :
    min (truncateUnsigned n.toFloat) (2 ^ 53) = min n.whole (2 ^ 53) := by
  cases n with
  | float x =>
    show min (truncateUnsigned x) (2 ^ 53) = _
    rw [truncateUnsigned_eq]
    omega
  | int n =>
    show min (truncateUnsigned (Float.ofInt n)) (2 ^ 53) = min n.toNat (2 ^ 53)
    rw [truncateUnsigned_eq]
    cases n with
    | ofNat n =>
      show min (min (wholeUnpacked (Float.ofNat n).toModel.unpack) (2 ^ 64 - 1)) (2 ^ 53) =
        min n (2 ^ 53)
      cases n with
      | zero => rfl
      | succ n =>
        have hform : min (wholeUnpacked (Float.ofNat (n + 1)).toModel.unpack) (2 ^ 53) =
            min (n + 1) (2 ^ 53) := (unpack_ofNat (Nat.succ_pos n)).min_wholeUnpacked
        omega
    | negSucc n =>
      have hneg : (Number.float (Float.ofInt (.negSucc n))).whole = 0 :=
        (unpack_ofNat (Nat.succ_pos n)).wholeUnpacked_neg
      rw [hneg]
      rfl

end Stencil
