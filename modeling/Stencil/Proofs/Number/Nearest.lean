import Stencil.Proofs.Number.Order
import Stencil.Proofs.Number.Whole

/-!
# Integers of 53 bits

An integer that is compared with another number is rounded to 53 bits first, and halfway to the
even one of the two (`nearestInt`).  By the logical model of floating point numbers that is what an
integer of 64 bits stands for once it is converted (`floatValue_ofInt`).  Rounding keeps integers up
to `2 ^ 53` (`nearestInt_of_le`) and the order of all others, though not that they differ
(`nearestInt_mono`), so only two greater integers are ever taken for one (`eq_of_nearestInt_eq`).
-/

set_option autoImplicit false

namespace Stencil

open Float.Model UnpackedFloat

section Halves

/-- The integer nearest to a quotient, and the even one of two that are equally near. -/
def halfEven (m d : Nat) : Nat :=
  if 2 * (m % d) < d then m / d
  else if d < 2 * (m % d) then m / d + 1
  else m / d + m / d % 2

/-- Rounding a quotient gives the whole part or one more. -/
theorem halfEven_bounds (m d : Nat) : m / d ≤ halfEven m d ∧ halfEven m d ≤ m / d + 1 := by
  unfold halfEven
  split
  · omega
  · split <;> omega

/-- A whole number is not rounded. -/
theorem halfEven_one (m : Nat) : halfEven m 1 = m := by
  unfold halfEven
  rw [Nat.mod_one, if_pos (by decide), Nat.div_one]

/-- Rounding a quotient does not depend on common factors. -/
theorem halfEven_mul_right (m d : Nat) {c : Nat} (hc : 0 < c) :
    halfEven (m * c) (d * c) = halfEven m d := by
  have hlt (a b : Nat) : 2 * (a * c) < b * c ↔ 2 * a < b := by
    rw [← Nat.mul_assoc, Nat.mul_lt_mul_right hc]
  have hgt (a b : Nat) : b * c < 2 * (a * c) ↔ b < 2 * a := by
    rw [← Nat.mul_assoc, Nat.mul_lt_mul_right hc]
  unfold halfEven
  rw [Nat.mul_mod_mul_right, Nat.mul_div_mul_right _ _ hc]
  simp only [hlt, hgt]

/-- Rounding keeps the order. -/
theorem halfEven_mono {m m' : Nat} (h : m ≤ m') (d : Nat) : halfEven m d ≤ halfEven m' d := by
  have hm := Nat.div_add_mod m d
  have hm' := Nat.div_add_mod m' d
  rcases (Nat.div_le_div_right (c := d) h).eq_or_lt with hq | hq
  · have hr : m % d ≤ m' % d := by
      rw [hq] at hm
      omega
    unfold halfEven
    rw [hq]
    split_ifs <;> omega
  · calc halfEven m d ≤ m / d + 1 := (halfEven_bounds m d).2
      _ ≤ m' / d := hq
      _ ≤ halfEven m' d := (halfEven_bounds m' d).1

/-- A mantissa that is shifted keeps of the bits that it loses whether they are half of the last
one that it has, and whether they are anything besides that half. -/
theorem shiftRight_eq (m k : Nat) :
    (ExtendedMantissa.ofMantissaAndAccuracy m .exact >>> k) =
      ⟨m / 2 ^ k, decide (2 ^ k ≤ 2 * (m % 2 ^ k)), decide (2 * (m % 2 ^ k) % 2 ^ k ≠ 0)⟩ := by
  induction k with
  | zero =>
    rw [Nat.pow_zero, Nat.div_one, Nat.mod_one]
    rfl
  | succ k ih =>
    show ExtendedMantissa.shiftRightOne
      (ExtendedMantissa.ofMantissaAndAccuracy m .exact >>> k) = _
    have hlast : m % 2 ^ (k + 1) = 2 ^ k * (m / 2 ^ k % 2) + m % 2 ^ k := by
      rw [Nat.pow_succ, Nat.mod_mul]
      omega
    have hpow : 2 ^ (k + 1) = 2 * 2 ^ k := Nat.pow_succ'
    have hrest : m % 2 ^ k < 2 ^ k := Nat.mod_lt _ (Nat.two_pow_pos k)
    rw [ih, hlast, hpow]
    generalize m % 2 ^ k = r at hrest ⊢
    unfold ExtendedMantissa.shiftRightOne
    dsimp only
    rw [Nat.div_div_eq_div_mul, Nat.mul_comm (2 ^ k) 2]
    generalize m / 2 ^ k = q
    generalize 2 ^ k = d at hrest ⊢
    have hquotient : q % 2 = 0 ∨ q % 2 = 1 := by omega
    congr 1
    · rcases hquotient with hq | hq <;> simp [hq]
      omega
    · have hsticky : 2 * (d * (q % 2) + r) % (2 * d) = 2 * r := by
        rw [Nat.mul_add, ← Nat.mul_assoc, Nat.add_comm, Nat.add_mul_mod_self_left,
          Nat.mod_eq_of_lt (by omega)]
      rw [hsticky]
      by_cases hhalf : d ≤ 2 * r
      · rw [decide_eq_true hhalf, Bool.true_or, decide_eq_true (by omega)]
      · rw [decide_eq_false hhalf, Bool.false_or, Nat.mod_eq_of_lt (by omega)]

/-- The bits that are shifted out of a mantissa round it to the nearest, and to the even one between
two. -/
theorem roundedMantissa_shiftRight (m k : Nat) :
    (ExtendedMantissa.ofMantissaAndAccuracy m .exact >>> k).roundedMantissa =
      halfEven m (2 ^ k) := by
  have hrest : m % 2 ^ k < 2 ^ k := Nat.mod_lt _ (Nat.two_pow_pos k)
  rw [shiftRight_eq]
  unfold halfEven
  generalize m % 2 ^ k = r at hrest ⊢
  generalize 2 ^ k = d at hrest ⊢
  by_cases hhalf : d ≤ 2 * r
  · have hmod : 2 * r % d = 2 * r - d := by
      rw [Nat.mod_eq_sub_mod hhalf, Nat.mod_eq_of_lt (by omega)]
    rw [decide_eq_true hhalf, hmod, if_neg (by omega)]
    by_cases hexact : 2 * r = d
    · rw [decide_eq_false (by omega), if_neg (by omega)]
      rfl
    · rw [decide_eq_true (by omega), if_pos (by omega)]
      rfl
  · rw [decide_eq_false hhalf, Nat.mod_eq_of_lt (by omega), if_pos (by omega)]
    by_cases hexact : r = 0
    · rw [decide_eq_false (by omega)]
      rfl
    · rw [decide_eq_true (by omega)]
      rfl

end Halves

/-- A natural number rounded to 53 bits, halfway to the even one. -/
def nearestNat (n : Nat) : Nat :=
  halfEven n (2 ^ (n.log2 - 52)) * 2 ^ (n.log2 - 52)

/-- An integer rounded to 53 bits, halfway to the even one. -/
def nearestInt (n : Int) : Int :=
  n.sign * nearestNat n.natAbs

section Rounded

/-- A number that needs no more than 53 bits is its own nearest. -/
theorem nearestNat_of_dvd {n : Nat} (h : 2 ^ (n.log2 - 52) ∣ n) : nearestNat n = n := by
  obtain ⟨q, hq⟩ := h
  unfold nearestNat
  generalize n.log2 - 52 = k at hq ⊢
  have hpow := halfEven_mul_right q 1 (Nat.two_pow_pos k)
  rw [Nat.one_mul, halfEven_one, Nat.mul_comm, ← hq] at hpow
  rw [hpow, Nat.mul_comm, hq]

/-- Integers of 53 bits are kept, and so is the least one of 54. -/
theorem nearestNat_of_le {n : Nat} (h : n ≤ 2 ^ 53) : nearestNat n = n := by
  apply nearestNat_of_dvd
  rcases h.eq_or_lt with rfl | hlt
  · rw [Nat.log2_two_pow]
    decide
  · have hlog : n.log2 - 52 = 0 := by
      rcases Nat.eq_zero_or_pos n with rfl | hpos
      · rfl
      · have := (Nat.log2_lt hpos.ne').2 hlt
        omega
    rw [hlog]
    exact Nat.one_dvd n

/-- The nearest number is not below the power of two below a number. -/
theorem two_pow_log2_le_nearestNat {n : Nat} (hpos : 0 < n) : 2 ^ n.log2 ≤ nearestNat n := by
  obtain ⟨k, hk⟩ : ∃ k, n.log2 - 52 = k := ⟨_, rfl⟩
  have hsplit : 2 ^ n.log2 = 2 ^ (n.log2 - k) * 2 ^ k := by
    rw [← Nat.pow_add]
    congr 1
    omega
  have hlow : 2 ^ (n.log2 - k) ≤ n / 2 ^ k :=
    (Nat.le_div_iff_mul_le (Nat.two_pow_pos k)).2 (hsplit ▸ Nat.log2_self_le hpos.ne')
  unfold nearestNat
  rw [hk, hsplit]
  exact Nat.mul_le_mul_right _ (hlow.trans (halfEven_bounds _ _).1)

/-- The nearest number is not above the power of two above a number. -/
theorem nearestNat_le_two_pow_log2 (n : Nat) : nearestNat n ≤ 2 ^ (n.log2 + 1) := by
  obtain ⟨k, hk⟩ : ∃ k, n.log2 - 52 = k := ⟨_, rfl⟩
  have hsplit : 2 ^ (n.log2 + 1) = 2 ^ (n.log2 + 1 - k) * 2 ^ k := by
    rw [← Nat.pow_add]
    congr 1
    omega
  have hhigh : n / 2 ^ k < 2 ^ (n.log2 + 1 - k) :=
    (Nat.div_lt_iff_lt_mul (Nat.two_pow_pos k)).2 (hsplit ▸ Nat.lt_log2_self)
  unfold nearestNat
  rw [hk, hsplit]
  exact Nat.mul_le_mul_right _ ((halfEven_bounds _ _).2.trans hhigh)

/-- Two numbers with the same number of bits are rounded to multiples of the same power of two, and
a power of two lies between the results if they have different numbers of bits. -/
theorem nearestNat_mono {m n : Nat} (h : m ≤ n) : nearestNat m ≤ nearestNat n := by
  rcases Nat.eq_zero_or_pos m with rfl | hpos
  · rw [nearestNat_of_le (Nat.zero_le _)]
    exact Nat.zero_le _
  · have hlog : m.log2 ≤ n.log2 :=
      (Nat.le_log2 (by omega)).2 ((Nat.log2_self_le hpos.ne').trans h)
    rcases hlog.eq_or_lt with heq | hlt
    · unfold nearestNat
      rw [heq]
      exact Nat.mul_le_mul_right _ (halfEven_mono h _)
    · calc nearestNat m ≤ 2 ^ (m.log2 + 1) := nearestNat_le_two_pow_log2 m
        _ ≤ 2 ^ n.log2 := Nat.pow_le_pow_right (by decide) hlt
        _ ≤ nearestNat n := two_pow_log2_le_nearestNat (by omega)

/-- Natural numbers have the same nearest ones as integers. -/
theorem nearestInt_natCast (n : Nat) : nearestInt n = nearestNat n := by
  rcases Nat.eq_zero_or_pos n with rfl | hpos
  · rfl
  · rw [nearestInt, Int.sign_natCast_of_ne_zero hpos.ne', Int.one_mul, Int.natAbs_natCast]

/-- The nearest of a negative is the negative of the nearest. -/
theorem nearestInt_neg (n : Int) : nearestInt (-n) = -nearestInt n := by
  rw [nearestInt, nearestInt, Int.sign_neg, Int.natAbs_neg, Int.neg_mul]

/-- An integer up to 2⁵³ is its own nearest. -/
theorem nearestInt_of_le {n : Int} (h : n.natAbs ≤ 2 ^ 53) : nearestInt n = n := by
  rw [nearestInt, nearestNat_of_le h, Int.sign_mul_natAbs]

/-- Rounding does not change the order of two integers, though it may make them equal. -/
theorem nearestInt_mono {a b : Int} (h : a ≤ b) : nearestInt a ≤ nearestInt b := by
  obtain ⟨m, rfl | rfl⟩ := a.eq_nat_or_neg <;> obtain ⟨n, rfl | rfl⟩ := b.eq_nat_or_neg
  · rw [nearestInt_natCast, nearestInt_natCast]
    exact_mod_cast nearestNat_mono (by omega)
  · have hm : m = 0 := by omega
    have hn : n = 0 := by omega
    rw [hm, hn]
    exact le_rfl
  · rw [nearestInt_neg, nearestInt_natCast, nearestInt_natCast]
    omega
  · rw [nearestInt_neg, nearestInt_neg, nearestInt_natCast, nearestInt_natCast]
    have := nearestNat_mono (m := n) (n := m) (by omega)
    omega

/-- An integer of 53 bits is the only one that is rounded to it. -/
theorem eq_of_nearestInt_eq {a b : Int} (ha : a.natAbs < 2 ^ 53) (h : nearestInt a = nearestInt b) :
    a = b := by
  rw [nearestInt_of_le ha.le] at h
  by_contra hne
  have hout : ¬ b.natAbs ≤ 2 ^ 53 := fun hb => hne (h.trans (nearestInt_of_le hb))
  have hbound : nearestInt (2 ^ 53) = 2 ^ 53 := nearestInt_of_le (by decide)
  rcases lt_or_ge b 0 with hneg | hpos
  · have hlow : nearestInt b ≤ nearestInt (-(2 ^ 53)) := nearestInt_mono (by omega)
    rw [nearestInt_neg, hbound] at hlow
    omega
  · have hhigh : nearestInt (2 ^ 53) ≤ nearestInt b := nearestInt_mono (by omega)
    rw [hbound] at hhigh
    omega

end Rounded

section Converting

/-- A positive integer of 64 bits is converted to the nearest one of 53 bits. -/
theorem unpack_ofNat_nearest {n : Nat} (hpos : 0 < n) (hn : n < 2 ^ 64) :
    ∃ m e, ∃ hm : 0 < m, (Float.ofNat n).toModel.unpack = .finite .positive m e hm ∧
      m.log2 = 52 ∧ -1074 ≤ e ∧ e ≤ 971 ∧ (m : ℚ) * 2 ^ e = nearestNat n := by
  by_cases hsmall : n < 2 ^ 53
  · generalize hf : (Float.ofNat n).toModel.unpack = f
    have hform : IntegerForm n f := hf ▸ unpack_ofNat hpos
    cases hform with
    | infinity hge => omega
    | @finite m e hm hbits he he' hlow hhigh =>
      rw [nearestNat_of_le hsmall.le]
      exact ⟨m, e, hm, rfl, hbits, he, he', hlow hsmall⟩
  · have hlog : 53 ≤ n.log2 := (Nat.le_log2 hpos.ne').2 (by omega)
    have hlog' : n.log2 < 64 := (Nat.log2_lt hpos.ne').2 hn
    have hproduct : (n * 2 ^ 53).log2 = n.log2 + 53 := log2_mul_two_pow hpos 53
    obtain ⟨m, e, hm, hround, hbits, he, he', hvalue, -⟩ :=
      roundWithAccuracy_eq (m := n * 2 ^ 53) (e := -53) .positive (by omega) (by omega)
    rw [hproduct] at he he' hvalue
    have hunpack : (Float.ofNat n).toModel.unpack = .finite .positive m e hm := by
      show (Float.ofScientific n false 0).toModel.unpack = _
      rw [unpack_ofScientific_eq (by omega), hround, unpack_pack_of_log2 _ hm hbits (by omega),
        if_pos (by omega)]
    refine ⟨m, e, hm, hunpack, hbits, by omega, by omega, ?_⟩
    obtain ⟨k, hk⟩ : ∃ k, n.log2 - 52 = k := ⟨_, rfl⟩
    have hshift : n.log2 + 53 - 52 = k + 53 := by omega
    have hexponent : (-53 : Int) + ((k + 53 : Nat) : Int) = k := by omega
    rw [hshift, hexponent, roundedMantissa_shiftRight, Nat.pow_add,
      halfEven_mul_right _ _ (Nat.two_pow_pos 53)] at hvalue
    rw [hvalue, nearestNat, hk, zpow_natCast]
    push_cast
    rfl

/-- A negative integer as a floating point number is the negative of the positive one. -/
theorem unpack_ofInt_negSucc (k : Nat) : (Float.ofInt (.negSucc k)).toModel.unpack =
    UnpackedFloat.unpack Format.binary64 (UnpackedFloat.pack Format.binary64
      (Float.ofNat (k + 1)).toModel.unpack.neg) :=
  rfl

/-- An integer of 64 bits is converted to the nearest one of 53 bits. -/
theorem floatValue_ofInt {n : Int} (h : n.natAbs < 2 ^ 64) :
    (Float.ofInt n).isFinite = true ∧ floatValue (Float.ofInt n) = nearestInt n := by
  show (Float.ofInt n).toModel.unpack.isFinite = true ∧
    unpackedValue (Float.ofInt n).toModel.unpack = nearestInt n
  match n with
  | .ofNat 0 => exact ⟨rfl, Int.cast_zero.symm⟩
  | .ofNat (k + 1) =>
    obtain ⟨m, e, hm, hunpack, -, -, -, hvalue⟩ := unpack_ofNat_nearest (Nat.succ_pos k) h
    have hnearest : nearestInt (.ofNat (k + 1)) = nearestNat (k + 1) := nearestInt_natCast (k + 1)
    have hconvert : (Float.ofInt (.ofNat (k + 1))).toModel.unpack = .finite .positive m e hm :=
      hunpack
    rw [hconvert, hnearest, Int.cast_natCast]
    exact ⟨rfl, hvalue⟩
  | .negSucc k =>
    obtain ⟨m, e, hm, hunpack, hbits, he, he', hvalue⟩ := unpack_ofNat_nearest (Nat.succ_pos k) h
    have hnearest : nearestInt (.negSucc k) = -(nearestNat (k + 1) : Int) :=
      (nearestInt_neg (k + 1 : Nat)).trans (congrArg Neg.neg (nearestInt_natCast (k + 1)))
    have hconvert : (Float.ofInt (.negSucc k)).toModel.unpack = .finite .negative m e hm := by
      rw [unpack_ofInt_negSucc, hunpack]
      show UnpackedFloat.unpack Format.binary64
        (UnpackedFloat.pack Format.binary64 (.finite .negative m e hm)) = _
      rw [unpack_pack_of_log2 _ hm hbits he, if_pos he']
    rw [hconvert, hnearest, Int.cast_neg, Int.cast_natCast]
    exact ⟨rfl, congrArg Neg.neg hvalue⟩

end Converting

namespace Number

/-- The number is a finite one, or an integer of 64 bits with a sign or without. -/
def IsJson : Number → Prop
  | int n => isSigned64 n = true ∨ isUnsigned64 n = true
  | float x => x.isFinite = true

/-- The rational that comparisons take for a number. -/
def weight (n : Number) : ℚ :=
  floatValue n.toFloat

/-- Two numbers are the same integer, or stand for the same rational as floating point numbers. -/
inductive Identical : Number → Number → Prop
  | int (k : Int) : Identical (int k) (int k)
  | float {x y : Float} (h : floatValue x = floatValue y) : Identical (float x) (float y)

variable {m n : Number}

/-- An integer of a value from outside has at most 64 bits. -/
theorem natAbs_lt_of_isJson {k : Int} (h : (int k).IsJson) : k.natAbs < 2 ^ 64 := by
  rcases h with h | h
  · have := of_decide_eq_true h
    omega
  · have := of_decide_eq_true h
    omega

/-- Integers are compared by their first 53 bits. -/
theorem weight_int {k : Int} (h : (int k).IsJson) : (int k).weight = nearestInt k :=
  (floatValue_ofInt (natAbs_lt_of_isJson h)).2

/-- A number of a value from outside is finite as a floating point number. -/
theorem IsJson.isFinite_toFloat (h : n.IsJson) : n.toFloat.isFinite = true := by
  cases n with
  | int k => exact (floatValue_ofInt (natAbs_lt_of_isJson h)).1
  | float x => exact h

/-- Numbers are equal as floating point numbers just if they weigh the same. -/
theorem beq_toFloat_iff (hm : m.IsJson) (hn : n.IsJson) :
    (m.toFloat == n.toFloat) = true ↔ m.weight = n.weight :=
  float_beq_iff hm.isFinite_toFloat hn.isFinite_toFloat

/-- Numbers are ordered as floating point numbers by what they weigh. -/
theorem compareFloats?_toFloat (hm : m.IsJson) (hn : n.IsJson) :
    Value.compareFloats? m.toFloat n.toFloat = some (compare m.weight n.weight) :=
  Value.compareFloats?_eq hm.isFinite_toFloat hn.isFinite_toFloat

/-- Numbers of one kind are compared as identical ones. -/
theorem sameKind_iff (hm : m.IsJson) (hn : n.IsJson) :
    m.sameKind n = true ↔ m.Identical n := by
  cases m <;> cases n
  · refine ⟨fun h => ?_, fun | .int k => beq_self_eq_true k⟩
    rw [beq_iff_eq.1 h]
    exact .int _
  · exact ⟨nofun, nofun⟩
  · exact ⟨nofun, nofun⟩
  · exact ⟨fun h => .float ((float_beq_iff hm hn).1 h), fun | .float h => (float_beq_iff hm hn).2 h⟩

/-- Identical numbers weigh the same. -/
theorem Identical.weight_eq : m.Identical n → m.weight = n.weight
  | .int _ => rfl
  | .float h => h

/-- A number is identical to itself. -/
theorem Identical.refl : (n : Number) → n.Identical n
  | .int k => .int k
  | .float _ => .float rfl

/-- Numbers are identical in either order. -/
theorem Identical.symm : m.Identical n → n.Identical m
  | .int k => .int k
  | .float h => .float h.symm

/-- Numbers that are identical to one number are identical. -/
theorem Identical.trans {l : Number} : l.Identical m → m.Identical n → l.Identical n
  | .int k, .int _ => .int k
  | .float h, .float h' => .float (h.trans h')

end Number

end Stencil
