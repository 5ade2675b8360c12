import Mathlib
import QueryTemplate.Proofs.Binary.Rounding
import QueryTemplate.Proofs.Binary.Value

/-!
# The float of a whole number

The float of a whole number is computed in two ways: a number of up to 53 digits is shifted until
it fills a mantissa and multiplied by 1, a larger one is multiplied by a power of two and rounded.
Both end in one rounding step, and the float stands for `Binary.rounded` of the number.

* `Binary.roundedMantissa_shiftRight`: shifting a mantissa digit by digit rounds it at once.
* `Binary.stands_roundWithAccuracy`: the rounding step, with the carry that it may need.
* `Binary.unpack_pack`: the bits keep a mantissa that is full.
* `Binary.value_toFloat`: the float of a whole number stands for the rounded number.
* `Binary.floatOrder?_toFloat`: floats of whole numbers are ordered like the rounded numbers.
-/

namespace QueryTemplate.Binary

open Float.Model Float.Model.UnpackedFloat

/-! ### Shifting -/

/-- What is known after some shifts: the digits that are left, whether the rest is at least a half,
and whether it is neither nothing nor a half. -/
theorem repeat_shiftRightOne (m k : Nat) :
    Nat.repeat ExtendedMantissa.shiftRightOne k ⟨m, false, false⟩ =
      ⟨m / 2 ^ k, decide (2 ^ k ≤ 2 * (m % 2 ^ k)),
        decide (m % 2 ^ k ≠ 0 ∧ 2 * (m % 2 ^ k) ≠ 2 ^ k)⟩ := by
  induction k with
  | zero => simp [Nat.repeat, Nat.mod_one]
  | succ k ih =>
    have hpos := Nat.two_pow_pos k
    have hlt : m % 2 ^ k < 2 ^ k := Nat.mod_lt _ hpos
    have hrest : m % 2 ^ (k + 1) = m % 2 ^ k + 2 ^ k * (m / 2 ^ k % 2) := by
      rw [pow_succ, Nat.mod_mul]
    rw [Nat.repeat, ih, ExtendedMantissa.shiftRightOne, hrest, pow_succ, ← Nat.div_div_eq_div_mul]
    rcases Nat.mod_two_eq_zero_or_one (m / 2 ^ k) with hbit | hbit
    · simp only [hbit, ExtendedMantissa.mk.injEq, true_and]
      constructor
      · rw [eq_comm, decide_eq_false_iff_not.mpr (by omega)]
        rfl
      · rw [← Bool.decide_or, decide_eq_decide]
        omega
    · simp only [hbit, ExtendedMantissa.mk.injEq, true_and]
      constructor
      · rw [eq_comm, decide_eq_true (by omega)]
        rfl
      · rw [← Bool.decide_or, decide_eq_decide]
        omega

/-- **Shifting digit by digit rounds to the nearest number.** -/
theorem roundedMantissa_shiftRight (m k : Nat) :
    ((⟨m, false, false⟩ : ExtendedMantissa) >>> k).roundedMantissa = roundShift m k := by
  change (Nat.repeat ExtendedMantissa.shiftRightOne k ⟨m, false, false⟩).roundedMantissa = _
  rw [repeat_shiftRightOne, ExtendedMantissa.roundedMantissa, roundShift]
  rcases lt_trichotomy (2 * (m % 2 ^ k)) (2 ^ k) with h | h | h
  · rw [if_pos h, decide_eq_false_iff_not.mpr h.not_ge]
    cases decide (m % 2 ^ k ≠ 0 ∧ 2 * (m % 2 ^ k) ≠ 2 ^ k) <;> rfl
  · rw [if_neg h.not_lt, if_neg h.not_gt, decide_eq_true h.ge,
      decide_eq_false_iff_not.mpr fun hne => hne.2 h]
    rfl
  · rw [if_neg h.not_gt, if_pos h, decide_eq_true h.le, decide_eq_true ⟨by omega, h.ne'⟩]
    rfl

theorem mantissa_shiftRight (m k : Nat) :
    ((⟨m, false, false⟩ : ExtendedMantissa) >>> k).mantissa = m / 2 ^ k := by
  change (Nat.repeat ExtendedMantissa.shiftRightOne k ⟨m, false, false⟩).mantissa = _
  rw [repeat_shiftRightOne]

/-! ### Rounded parts -/

/-- A float stands for a positive number, and its mantissa has all of the 53 digits. -/
def Stands (u : UnpackedFloat) (v : Rat) : Prop :=
  ∃ m e hm, u = .finite .positive m e hm ∧ m.log2 = 52 ∧ -1074 ≤ e ∧ (m : Rat) * 2 ^ e = v

theorem shiftToTargetExponent_eq {m : Nat} {e : Int} (hm : 52 ≤ m.log2)
    (he : -1074 ≤ e + excess m) : shiftToTargetExponent Format.binary64 m e .exact =
      ((⟨m, false, false⟩ : ExtendedMantissa) >>> excess m, e + excess m) := by
  have htarget : Format.binary64.targetExponent (totalExponent m e) = e + excess m := by
    change max ((m.log2 : Int) + 1 + e - 53) (-1074) = e + excess m
    rw [excess] at he ⊢
    omega
  rw [shiftToTargetExponent, htarget, shiftToExponent, add_sub_cancel_left, Int.toNat_natCast]
  rfl

/-- A mantissa that was rounded up to a power of two loses a zero. -/
theorem shiftToTargetExponent_carry {n : Nat} {e : Int} (hlow : 2 ^ 52 ≤ n) (hhigh : n ≤ 2 ^ 53)
    (he : -1074 ≤ e) : ∃ em e', shiftToTargetExponent Format.binary64 n e .exact = (em, e') ∧
      em.mantissa.log2 = 52 ∧ -1074 ≤ e' ∧ (em.mantissa : Rat) * 2 ^ e' = n * 2 ^ e := by
  have hn : n ≠ 0 := by omega
  have hlog : 52 ≤ n.log2 := (Nat.le_log2 hn).mpr hlow
  refine ⟨_, _, shiftToTargetExponent_eq hlog (by omega), ?_, by omega, ?_⟩ <;>
    rw [mantissa_shiftRight] <;> rcases hhigh.lt_or_eq with hlt | rfl
  · have hlog' := (Nat.log2_lt hn).mpr hlt
    rw [show excess n = 0 by rw [excess]; omega, pow_zero, Nat.div_one]
    omega
  · decide
  · have hlog' := (Nat.log2_lt hn).mpr hlt
    rw [show excess n = 0 by rw [excess]; omega, pow_zero, Nat.div_one, Nat.cast_zero, add_zero]
  · rw [show excess (2 ^ 53) = 1 by decide, Nat.cast_one, zpow_add_one₀ (by norm_num)]
    norm_num
    ring

/-- **A number of more than 52 digits is rounded to 53.** -/
theorem stands_roundWithAccuracy {m : Nat} {e : Int} (hm : 52 ≤ m.log2)
    (he : -1074 ≤ e + excess m) :
    Stands (roundWithAccuracy Format.binary64 .positive m e .exact) (roundedNat m * 2 ^ e) := by
  obtain ⟨hlow, hhigh⟩ := roundShift_excess_bounds hm
  obtain ⟨em, e', hcarry, hlog, hexponent, hvalue⟩ := shiftToTargetExponent_carry hlow hhigh he
  have hpos : em.mantissa ≠ 0 := by
    intro h
    rw [h] at hlog
    exact absurd hlog (by decide)
  rw [roundWithAccuracy, shiftToTargetExponent_eq hm he]
  simp only [roundedMantissa_shiftRight, hcarry, dif_neg hpos]
  refine ⟨_, _, _, rfl, hlog, hexponent, ?_⟩
  rw [hvalue, roundedNat, zpow_add₀ (by norm_num), zpow_natCast]
  push_cast
  ring

theorem stands_shifted {n : Nat} {e : Int} (k : Nat) (hn : 0 < n) (hlog : 52 ≤ n.log2 + k)
    (he : -1022 ≤ e + n.log2) :
    Stands (roundWithAccuracy Format.binary64 .positive (n * 2 ^ k) (e - k) .exact)
      (roundedNat n * 2 ^ e) := by
  have hlog' : (n * 2 ^ k).log2 = n.log2 + k := log2_mul_two_pow hn.ne' k
  have hstands : Stands (roundWithAccuracy _ _ (n * 2 ^ k) (e - k) .exact) _ :=
    stands_roundWithAccuracy (by omega) (by rw [excess]; omega)
  have hvalue : ((roundedNat (n * 2 ^ k) : Nat) : Rat) * 2 ^ (e - k) = roundedNat n * 2 ^ e := by
    rw [roundedNat_mul_two_pow, Nat.cast_mul, Nat.cast_pow, ← zpow_natCast, mul_assoc,
      Nat.cast_ofNat, ← zpow_add₀ (by norm_num), add_sub_cancel]
  rwa [hvalue] at hstands

/-! ### The bits -/

theorem unpackSign_packComponents {spec : Format} (s : Sign) (e : BitVec spec.exponentBits)
    (m : BitVec spec.mantissaBitsWithoutImplicit) :
    unpackSign (packComponents spec s e m) = s.toBitVec := by
  ext i hi
  obtain rfl : i = 0 := by omega
  simp [unpackSign, packComponents, BitVec.getLsbD_append, BitVec.getElem_append]

theorem ofBitVec_toBitVec (s : Sign) : Sign.ofBitVec s.toBitVec = s := by
  cases s <;> rfl

/-- The bits of a float whose mantissa has 53 digits. -/
theorem pack_eq {s : Sign} {m b : Nat} {e : Int} (hm : 0 < m) (hlog : m.log2 = 52)
    (hb : e + 1075 = b) (hmax : b ≤ 2046) :
    UnpackedFloat.pack Format.binary64 (.finite s m e hm) =
      packComponents Format.binary64 s (BitVec.ofNat 11 b) (BitVec.ofNat 52 m) := by
  have hbiased : (e + (Format.binary64.exponentBias : Int) +
      (Format.binary64.mantissaBitsWithoutImplicit : Int)).toNat = b := by
    change (e + 1023 + 52).toNat = b
    omega
  rw [UnpackedFloat.pack]
  simp only [hbiased, hlog]
  rw [if_neg (by change ¬ 2048 ≤ b + 1; omega), if_pos (by rfl)]

theorem unpack_pack {s : Sign} {m : Nat} {e : Int} (hm : 0 < m) (hlog : m.log2 = 52)
    (hlow : -1074 ≤ e) (hhigh : e ≤ 971) :
    (Float.Model.pack (.finite s m e hm)).unpack = .finite s m e hm := by
  obtain ⟨b, hb⟩ := Int.eq_ofNat_of_zero_le (show 0 ≤ e + 1075 by omega)
  have hbits : (BitVec.ofNat 11 b).toNat = b := by
    rw [BitVec.toNat_ofNat]
    omega
  have hzero : BitVec.ofNat 11 b ≠ 0#11 := by
    intro h
    rw [h] at hbits
    simp only [BitVec.toNat_zero] at hbits
    omega
  have hmax : BitVec.ofNat 11 b ≠ -1#11 := by
    intro h
    rw [h] at hbits
    change 2047 = b at hbits
    omega
  have hone : (1#1 ++ BitVec.ofNat 52 m).toNat = m := by
    have hmlow : 2 ^ 52 ≤ m := (Nat.le_log2 hm.ne').mp hlog.ge
    have hmhigh : m < 2 ^ 53 := (Nat.log2_lt hm.ne').mp (by omega)
    rw [toNat_one_append, BitVec.toNat_ofNat]
    omega
  change UnpackedFloat.unpack Format.binary64 (UnpackedFloat.pack Format.binary64 _) = _
  rw [pack_eq hm hlog hb (by omega), UnpackedFloat.unpack]
  simp only [unpackMantissa_packComponents, unpackExponent_packComponents,
    unpackSign_packComponents, ofBitVec_toBitVec, hzero, hmax, if_false, hbits, hone]
  congr 1
  change (b : Int) - (1023 + 52) = e
  omega

theorem Stands.unpack_pack {u : UnpackedFloat} {v : Rat} (h : Stands u v) (hv : v ≤ 2 ^ 64) :
    (Float.Model.pack u).unpack = u ∧ (Float.Model.pack u.neg).unpack = u.neg := by
  obtain ⟨m, e, hm, rfl, hlog, he, rfl⟩ := h
  have hmax : e ≤ 971 := by
    have hlow : 2 ^ 52 ≤ m := (Nat.le_log2 hm.ne').mp hlog.ge
    by_contra hlt
    have hless : (2 ^ 52 : Rat) * 2 ^ (13 : Int) ≤ m * 2 ^ e :=
      mul_le_mul (by exact_mod_cast hlow) (zpow_le_zpow_right₀ (by norm_num) (by omega))
        (by positivity) (by positivity)
    norm_num at hless hv
    linarith
  exact ⟨Binary.unpack_pack hm hlog he hmax, Binary.unpack_pack hm hlog he hmax⟩

theorem Stands.value {x : Float} {v : Rat} (h : Stands x.toModel.unpack v) :
    x.isFinite = true ∧ value x = v := by
  obtain ⟨m, e, hm, hx, -, -, rfl⟩ := h
  exact ⟨isFinite_of_unpack hx, (value_of_unpack hx).trans (by rw [Sign.apply, Int.cast_natCast])⟩

theorem Stands.value_neg {x : Float} {v : Rat} (h : Stands x.toModel.unpack v) (hv : v ≤ 2 ^ 64) :
    x.neg.isFinite = true ∧ Binary.value x.neg = -v := by
  have hneg : x.neg.toModel.unpack = x.toModel.unpack.neg := (h.unpack_pack hv).2
  obtain ⟨m, e, hm, hx, -, -, rfl⟩ := h
  rw [hx] at hneg
  refine ⟨isFinite_of_unpack hneg, (value_of_unpack hneg).trans ?_⟩
  change ((-(m : Int) : Int) : Rat) * 2 ^ e = -(m * 2 ^ e)
  rw [Int.cast_neg, Int.cast_natCast, neg_mul]

/-! ### Whole numbers -/

theorem stands_ofNat {n : Nat} (hn : 0 < n) (hlog : n.log2 ≤ 52) :
    Stands (UnpackedFloat.ofNat Format.binary64 n) n := by
  obtain ⟨k, hk⟩ : ∃ k, n.log2 + k = 52 := ⟨52 - n.log2, by omega⟩
  have htarget : Format.binary64.targetExponent (totalExponent n 0) = -(k : Int) := by
    change max ((n.log2 : Int) + 1 + 0 - 53) (-1074) = -(k : Int)
    omega
  have hround : UnpackedFloat.round Format.binary64 .positive n 0 =
      roundWithAccuracy Format.binary64 .positive (n * 2 ^ k) (0 - k) .exact := by
    rw [UnpackedFloat.round, htarget, decreaseExponent,
      show (0 - -(k : Int)).toNat = k by omega, Nat.shiftLeft_eq]
  have hnormal : UnpackedFloat.ofNat Format.binary64 n =
      UnpackedFloat.round Format.binary64 .positive n 0 := by
    rw [UnpackedFloat.ofNat, UnpackedFloat.ofInt, UnpackedFloat.normalize, Int.toNat_natCast,
      compare_gt_iff_gt.mpr (by exact_mod_cast hn)]
  have hstands := stands_shifted (e := 0) k hn hk.ge (by omega)
  rwa [roundedNat_of_log2_le hlog, zpow_zero, mul_one, ← hround, ← hnormal] at hstands

theorem Stands.mul_unit {u : UnpackedFloat} {v : Rat} (h : Stands u v) :
    Stands (UnpackedFloat.mul Format.binary64 u (.finite .positive (2 ^ 52) (-52) (by decide)))
      v := by
  obtain ⟨m, e, hm, rfl, hlog, he, rfl⟩ := h
  have hstands := stands_shifted (e := e) 52 hm (by omega) (by omega)
  rw [roundedNat_of_log2_le hlog.le] at hstands
  exact hstands

theorem stands_ofScientific {n : Nat} (hn : 0 < n) :
    Stands (UnpackedFloat.ofScientific Format.binary64 n 0) (roundedNat n) := by
  have hproduct : UnpackedFloat.ofScientific Format.binary64 n 0 =
      roundWithAccuracy Format.binary64 .positive (n * 2 ^ 53) (0 - (53 : Nat)) .exact := by
    have hlarge : ¬ (0 : Int) > 2 ^ Format.binary64.exponentBits := by decide
    have hsmall : ¬ (0 : Int) < -(2 ^ Format.binary64.exponentBits + n.log2) := by
      change ¬ (0 : Int) < -(2 ^ 11 + n.log2)
      omega
    rw [UnpackedFloat.ofScientific, dif_neg hn.ne', if_neg hlarge, if_neg hsmall,
      if_pos (le_refl _), UnpackedFloat.mul, Nat.shiftLeft_eq, Int.toNat_zero, pow_zero,
      Nat.mul_one]
    rfl
  have hstands := stands_shifted (e := 0) 53 hn (by omega) (by omega)
  rwa [zpow_zero, mul_one, ← hproduct] at hstands

theorem ofNat_eq_mul {n : Nat} (h : n < 2 ^ 53) : (Float.ofNat n).toModel =
    Float.Model.pack (UnpackedFloat.mul Format.binary64
      (Float.Model.pack (UnpackedFloat.ofNat Format.binary64 n)).unpack
        (.finite .positive (2 ^ 52) (-52) (by decide))) := by
  have hword : n.toUInt64.toNat = n := by
    rw [Nat.toUInt64_eq, UInt64.toNat_ofNat']
    omega
  have hone : (Float.ofBits 0x3FF0000000000000).toModel.unpack =
      .finite .positive (2 ^ 52) (-52) (by decide) := rfl
  rw [Float.ofNat]
  change (Float.ofScientific n false 0).toModel = _
  rw [Float.ofScientific, dif_pos ⟨h, by decide⟩]
  change Float.Model.pack (UnpackedFloat.mul Format.binary64
    (Float.Model.pack (UnpackedFloat.ofNat Format.binary64 n.toUInt64.toNat)).unpack
      (Float.ofBits 0x3FF0000000000000).toModel.unpack) = _
  rw [hword, hone]

theorem ofNat_eq_ofScientific {n : Nat} (h : 2 ^ 53 ≤ n) : (Float.ofNat n).toModel =
    Float.Model.pack (UnpackedFloat.ofScientific Format.binary64 n 0) := by
  rw [Float.ofNat]
  change (Float.ofScientific n false 0).toModel = _
  rw [Float.ofScientific, dif_neg fun hlt => hlt.1.not_ge h]
  rfl

theorem roundedNat_le {n : Nat} (h : n ≤ 2 ^ 64) : roundedNat n ≤ 2 ^ 64 :=
  (roundedNat_mono h).trans (roundedNat_eq_self_iff.mpr ⟨1, 64, by decide, rfl⟩).le

theorem stands_unpack_ofNat {n : Nat} (hpos : 0 < n) (hmax : n ≤ 2 ^ 64) :
    Stands (Float.ofNat n).toModel.unpack (roundedNat n) := by
  have hrounded : (roundedNat n : Rat) ≤ 2 ^ 64 := by exact_mod_cast roundedNat_le hmax
  rcases Nat.lt_or_ge n (2 ^ 53) with hn | hn
  · have hlog : n.log2 ≤ 52 := Nat.le_of_lt_succ ((Nat.log2_lt hpos.ne').mpr hn)
    rw [roundedNat_of_log2_le hlog] at hrounded ⊢
    have hstands := stands_ofNat hpos hlog
    rw [ofNat_eq_mul hn, (hstands.unpack_pack hrounded).1,
      (hstands.mul_unit.unpack_pack hrounded).1]
    exact hstands.mul_unit
  · have hstands := stands_ofScientific hpos
    rw [ofNat_eq_ofScientific hn, (hstands.unpack_pack hrounded).1]
    exact hstands

/-- **The float of an integer stands for the rounded integer.** -/
theorem value_ofInt {n : Int} (h : n.natAbs ≤ 2 ^ 64) :
    (Float.ofInt n).isFinite = true ∧ value (Float.ofInt n) = rounded n := by
  rcases n with n | n
  · change (Float.ofNat n).isFinite = true ∧ value (Float.ofNat n) = rounded (n : Nat)
    rw [rounded_natCast, Int.cast_natCast]
    rcases Nat.eq_zero_or_pos n with rfl | hn
    · exact ⟨by decide +kernel, value_of_mantissa_eq_zero (by decide +kernel)⟩
    · exact (stands_unpack_ofNat hn h).value
  · have hmax : (roundedNat (n + 1) : Rat) ≤ 2 ^ 64 := by exact_mod_cast roundedNat_le h
    have hvalue := (stands_unpack_ofNat n.succ_pos h).value_neg hmax
    rwa [Int.negSucc_eq, ← Nat.cast_succ, rounded_neg, rounded_natCast, Int.cast_neg,
      Int.cast_natCast]

theorem value_toFloat (n : Whole) : (Number.whole n).toFloat.isFinite = true ∧
    value (Number.whole n).toFloat = rounded n.val := by
  have hlow : -(2 ^ 63) ≤ n.val := n.low
  have hhigh : n.val ≤ 2 ^ 64 - 1 := n.high
  exact value_ofInt (by omega)

/-- The floats of whole numbers are ordered like the rounded numbers. -/
theorem floatOrder?_toFloat (a b : Whole) :
    Number.floatOrder? (Number.whole a).toFloat (Number.whole b).toFloat =
      some (compare (rounded a.val) (rounded b.val)) := by
  obtain ⟨hfa, hva⟩ := value_toFloat a
  obtain ⟨hfb, hvb⟩ := value_toFloat b
  rw [floatOrder?_eq hfa hfb, hva, hvb, ← cmp_eq_compare, ← cmp_eq_compare,
    Int.cast_strictMono.cmp_map_eq]

end QueryTemplate.Binary
