import Mathlib
import QueryTemplate.Expr.Comparison
import QueryTemplate.Binary.Parts

/-!
# The number that a float stands for

The bits of a float hold its sign, an exponent and a mantissa, and `Float` computes with these
parts.  `Binary.value` is the number that they stand for.

* `Binary.unpack_eq`: the parts that `Float` computes with are those of `Parts.ofFloat`.
* `Binary.compare_unpack`, `Binary.floatOrder?_eq`: finite floats are ordered like their numbers.
* `Binary.compare_swap`, `Binary.floatOrder?_eq_compare`: all floats are ordered by their parts.
* `Binary.value_of_unpack`: the number, read off the parts.
-/

namespace QueryTemplate.Binary

open Float.Model Float.Model.UnpackedFloat

/-! ### The parts of a float -/

def signOf (x : Float) : Sign :=
  if isNegative x then .negative else .positive

theorem toNat_unpackMantissa (b : BitVec 64) :
    (@unpackMantissa Format.binary64 b).toNat = b.toNat % 2 ^ 52 := by
  simp [unpackMantissa, BitVec.extractLsb_toNat]

theorem toNat_unpackExponent (b : BitVec 64) :
    (@unpackExponent Format.binary64 b).toNat = b.toNat / 2 ^ 52 % 2 ^ 11 := by
  simp [unpackExponent, BitVec.extractLsb_toNat, Nat.shiftRight_eq_div_pow]

theorem toNat_unpackSign (b : BitVec 64) :
    (@unpackSign Format.binary64 b).toNat = b.toNat / 2 ^ 63 := by
  have hb : b.toNat < 2 ^ 64 := b.isLt
  simp [unpackSign, BitVec.extractLsb_toNat, Nat.shiftRight_eq_div_pow]
  omega

theorem signOf_eq (x : Float) :
    Sign.ofBitVec (@unpackSign Format.binary64 x.toBits.toBitVec) = signOf x := by
  have hsign := toNat_unpackSign x.toBits.toBitVec
  have hb : x.toBits.toNat < 2 ^ 64 := x.toBits.toNat_lt
  rw [UInt64.toNat_toBitVec] at hsign
  have hzero : @unpackSign Format.binary64 x.toBits.toBitVec = 0#1 ↔
      x.toBits.toNat / 2 ^ 63 = 0 := by
    rw [← hsign, ← BitVec.toNat_inj]
    rfl
  have hneg : isNegative x = true ↔ x.toBits.toNat / 2 ^ 63 = 1 := by
    rw [isNegative, beq_iff_eq]
    rfl
  rw [signOf, Sign.ofBitVec]
  split_ifs with h h' h'
  · rw [hzero] at h; rw [hneg] at h'; omega
  · rfl
  · rfl
  · rw [hzero] at h; rw [hneg] at h'; omega

def exponentField (x : Float) : Nat := x.toBits.toNat / 2 ^ 52 % 2 ^ 11

theorem ofFloat_eq (x : Float) : Parts.ofFloat x =
    if exponentField x = 0 then ⟨x.toBits.toNat % 2 ^ 52, -1074⟩
    else ⟨x.toBits.toNat % 2 ^ 52 + 2 ^ 52, (exponentField x : Int) - 1075⟩ := rfl

/-- The first digit of a mantissa stands in front of the digits that the bits hold. -/
theorem toNat_one_append (digits : BitVec 52) : (1#1 ++ digits).toNat = digits.toNat + 2 ^ 52 := by
  rw [BitVec.toNat_append, ← Nat.shiftLeft_add_eq_or_of_lt digits.isLt, Nat.shiftLeft_eq,
    Nat.add_comm]
  rfl

/-- **A finite float computes with its sign, its mantissa and its exponent.** -/
theorem unpack_eq {x : Float} (h : x.isFinite = true) : x.toModel.unpack =
    if hm : (Parts.ofFloat x).mantissa = 0 then .zero (signOf x)
    else .finite (signOf x) (Parts.ofFloat x).mantissa (Parts.ofFloat x).exponent
      (Nat.pos_of_ne_zero hm) := by
  have hexp := toNat_unpackExponent x.toBits.toBitVec
  have hman := toNat_unpackMantissa x.toBits.toBitVec
  rw [UInt64.toNat_toBitVec] at hexp hman
  change _ = exponentField x at hexp
  have hfield : @unpackExponent Format.binary64 x.toBits.toBitVec = 0#11 ↔
      exponentField x = 0 := by
    rw [← hexp, ← BitVec.toNat_inj]
    rfl
  have hfrac : @unpackMantissa Format.binary64 x.toBits.toBitVec = 0#52 ↔
      x.toBits.toNat % 2 ^ 52 = 0 := by
    rw [← hman, ← BitVec.toNat_inj]
    rfl
  have hone : (1#1 ++ @unpackMantissa Format.binary64 x.toBits.toBitVec).toNat =
      x.toBits.toNat % 2 ^ 52 + 2 ^ 52 := by
    rw [toNat_one_append, hman]
  have hmax : @unpackExponent Format.binary64 x.toBits.toBitVec ≠ -1#11 := by
    intro hmax
    change (UnpackedFloat.unpack Format.binary64 x.toBits.toBitVec).isFinite = true at h
    rw [UnpackedFloat.unpack] at h
    simp only [hmax, if_true] at h
    split_ifs at h <;> cases h
  change UnpackedFloat.unpack Format.binary64 x.toBits.toBitVec = _
  rw [UnpackedFloat.unpack]
  simp only [hmax, if_false, signOf_eq, hfield, hfrac, hexp, hman, hone, ofFloat_eq]
  by_cases hz : exponentField x = 0
  · simp only [hz, if_true]
    split_ifs with hm
    · rfl
    · rfl
  · simp only [hz, if_false]
    rw [dif_neg (by omega)]
    rfl

/-! ### The number that a float stands for -/

def Parts.toRat (p : Parts) : Rat := p.mantissa * 2 ^ p.exponent

def value (x : Float) : Rat :=
  if isNegative x then -(Parts.ofFloat x).toRat else (Parts.ofFloat x).toRat

/-- How the digits of a magnitude are placed: there are at most 53, and 53 where the exponent is
not the smallest one. -/
structure Parts.IsCanonical (p : Parts) : Prop where
  mantissa_lt : p.mantissa < 2 ^ 53
  le_exponent : -1074 ≤ p.exponent
  full : -1074 < p.exponent → 2 ^ 52 ≤ p.mantissa

theorem isCanonical_ofFloat (x : Float) : (Parts.ofFloat x).IsCanonical := by
  have hfield : exponentField x < 2 ^ 11 := Nat.mod_lt _ (by decide)
  have hfraction : x.toBits.toNat % 2 ^ 52 < 2 ^ 52 := Nat.mod_lt _ (by decide)
  rw [ofFloat_eq]
  split_ifs with h
  · exact ⟨hfraction.trans (by decide), le_refl (-1074 : Int), fun hlt => absurd hlt (lt_irrefl _)⟩
  · exact ⟨Nat.add_lt_add_right hfraction _, show (-1074 : Int) ≤ exponentField x - 1075 by omega,
      fun _ => Nat.le_add_left _ _⟩

section Magnitudes

variable {p q : Parts}

theorem Parts.toRat_eq_zero_iff : p.toRat = 0 ↔ p.mantissa = 0 := by
  have hpos : (2 : Rat) ^ p.exponent ≠ 0 := zpow_ne_zero _ (by norm_num)
  rw [Parts.toRat, mul_eq_zero, or_iff_left hpos, Nat.cast_eq_zero]

theorem Parts.toRat_pos (h : p.mantissa ≠ 0) : 0 < p.toRat :=
  lt_of_le_of_ne (mul_nonneg (Nat.cast_nonneg _) (zpow_nonneg (by norm_num) _))
    (Ne.symm (mt Parts.toRat_eq_zero_iff.mp h))

theorem Parts.IsCanonical.toRat_lt (hp : p.IsCanonical) (hq : q.IsCanonical)
    (h : p.exponent < q.exponent) : p.toRat < q.toRat := by
  have hmantissa : (p.mantissa : Rat) < 2 ^ 53 := by exact_mod_cast hp.mantissa_lt
  have hfull : (2 ^ 52 : Rat) ≤ q.mantissa := by
    exact_mod_cast hq.full (lt_of_le_of_lt hp.le_exponent h)
  have hpos : (0 : Rat) < 2 ^ p.exponent := zpow_pos (by norm_num) _
  calc p.toRat < 2 ^ 53 * 2 ^ p.exponent := mul_lt_mul_of_pos_right hmantissa hpos
    _ = 2 ^ 52 * 2 ^ (p.exponent + 1) := by
      rw [zpow_add_one₀ (by norm_num)]
      ring
    _ ≤ 2 ^ 52 * 2 ^ q.exponent :=
      mul_le_mul_of_nonneg_left (zpow_le_zpow_right₀ (by norm_num) h) (by norm_num)
    _ ≤ q.toRat := mul_le_mul_of_nonneg_right hfull (zpow_nonneg (by norm_num) _)

/-- Magnitudes are ordered by their exponents and then by their mantissas. -/
theorem Parts.IsCanonical.compare_toRat (hp : p.IsCanonical) (hq : q.IsCanonical) :
    (compare p.exponent q.exponent).then (compare p.mantissa q.mantissa) =
      compare p.toRat q.toRat := by
  rcases lt_trichotomy p.exponent q.exponent with h | h | h
  · rw [compare_lt_iff_lt.mpr h, compare_lt_iff_lt.mpr (hp.toRat_lt hq h)]
    rfl
  · have hpos : (0 : Rat) < 2 ^ q.exponent := zpow_pos (by norm_num) _
    rw [compare_eq_iff_eq.mpr h, Parts.toRat, Parts.toRat, h, ← cmp_eq_compare p.mantissa,
      ← cmp_eq_compare (_ * _), cmp_mul_pos_right hpos, Nat.strictMono_cast.cmp_map_eq]
    rfl
  · rw [compare_gt_iff_gt.mpr h, compare_gt_iff_gt.mpr (hq.toRat_lt hp h)]
    rfl

end Magnitudes

theorem compare_neg_neg (a b : Rat) : (compare a b).swap = compare (-a) (-b) := by
  have hanti : StrictAnti (Neg.neg : Rat → Rat) := fun _ _ => neg_lt_neg
  rw [← cmp_eq_compare, ← cmp_eq_compare, hanti.cmp_map_eq, cmp_swap]

theorem signOf_cases (x : Float) :
    (signOf x = .negative ∧ value x = -(Parts.ofFloat x).toRat) ∨
      (signOf x = .positive ∧ value x = (Parts.ofFloat x).toRat) := by
  rw [signOf, value]
  split_ifs
  · exact .inl ⟨rfl, rfl⟩
  · exact .inr ⟨rfl, rfl⟩

theorem value_of_mantissa_eq_zero {x : Float} (h : (Parts.ofFloat x).mantissa = 0) :
    value x = 0 := by
  rcases signOf_cases x with ⟨-, hx⟩ | ⟨-, hx⟩ <;> rw [hx, Parts.toRat_eq_zero_iff.mpr h]
  exact neg_zero

/-- **Finite floats are ordered like the numbers that they stand for.** -/
theorem compare_unpack {x y : Float} (hx : x.isFinite = true) (hy : y.isFinite = true) :
    UnpackedFloat.compare x.toModel.unpack y.toModel.unpack =
      some (compare (value x) (value y)) := by
  rw [unpack_eq hx, unpack_eq hy]
  split_ifs with hmx hmy hmy
  · rw [value_of_mantissa_eq_zero hmx, value_of_mantissa_eq_zero hmy, compare_eq_iff_eq.mpr rfl]
    rfl
  · have hpos := Parts.toRat_pos hmy
    rw [value_of_mantissa_eq_zero hmx]
    rcases signOf_cases y with ⟨hs, hv⟩ | ⟨hs, hv⟩ <;> rw [hs, hv]
    · rw [compare_gt_iff_gt.mpr (neg_lt_zero.mpr hpos)]
      rfl
    · rw [compare_lt_iff_lt.mpr hpos]
      rfl
  · have hpos := Parts.toRat_pos hmx
    rw [value_of_mantissa_eq_zero hmy]
    rcases signOf_cases x with ⟨hs, hv⟩ | ⟨hs, hv⟩ <;> rw [hs, hv]
    · rw [compare_lt_iff_lt.mpr (neg_lt_zero.mpr hpos)]
      rfl
    · rw [compare_gt_iff_gt.mpr hpos]
      rfl
  · have hposx := Parts.toRat_pos hmx
    have hposy := Parts.toRat_pos hmy
    have hmagnitudes := (isCanonical_ofFloat x).compare_toRat (isCanonical_ofFloat y)
    rcases signOf_cases x with ⟨hs, hv⟩ | ⟨hs, hv⟩ <;>
      rcases signOf_cases y with ⟨hs', hv'⟩ | ⟨hs', hv'⟩ <;> rw [hs, hs', hv, hv']
    · rw [← compare_neg_neg, ← hmagnitudes]
      rfl
    · rw [compare_lt_iff_lt.mpr ((neg_lt_zero.mpr hposx).trans hposy)]
      rfl
    · rw [compare_gt_iff_gt.mpr ((neg_lt_zero.mpr hposy).trans hposx)]
      rfl
    · rw [← hmagnitudes]
      rfl

/-! ### The order of two floats -/

theorem compare_swap (u v : UnpackedFloat) :
    UnpackedFloat.compare v u = (UnpackedFloat.compare u v).map Ordering.swap := by
  rcases u with (_ | _) | _ | (_ | _) | ⟨_ | _, m, e, hm⟩ <;>
    rcases v with (_ | _) | _ | (_ | _) | ⟨_ | _, m', e', hm'⟩ <;> try rfl
  · -- both are negative
    show some ((compare e' e).then (compare m' m)).swap =
      some ((compare e e').then (compare m m')).swap.swap
    rw [Ordering.swap_swap, Ordering.swap_then, ← Std.OrientedCmp.eq_swap,
      ← Std.OrientedCmp.eq_swap]
  · -- both are positive
    show some ((compare e' e).then (compare m' m)) =
      some ((compare e e').then (compare m m')).swap
    rw [Ordering.swap_then, ← Std.OrientedCmp.eq_swap, ← Std.OrientedCmp.eq_swap]

theorem lt_iff_compare_unpack (x y : Float) :
    x < y ↔ UnpackedFloat.compare x.toModel.unpack y.toModel.unpack = some .lt := by
  change decide (x.toModel < y.toModel) = true ↔ _
  rw [decide_eq_true_iff]
  exact beq_iff_eq

theorem beq_iff_compare_unpack (x y : Float) :
    (x == y) = true ↔ UnpackedFloat.compare x.toModel.unpack y.toModel.unpack = some .eq := by
  change (UnpackedFloat.compare x.toModel.unpack y.toModel.unpack == some .eq) = true ↔ _
  exact beq_iff_eq

theorem floatOrder?_eq_compare (x y : Float) : Number.floatOrder? x y =
    UnpackedFloat.compare x.toModel.unpack y.toModel.unpack := by
  simp only [Number.floatOrder?, lt_iff_compare_unpack, beq_iff_compare_unpack]
  rw [compare_swap x.toModel.unpack y.toModel.unpack]
  rcases UnpackedFloat.compare x.toModel.unpack y.toModel.unpack with _ | _ | _ | _ <;> rfl

theorem floatOrder?_eq {x y : Float} (hx : x.isFinite = true) (hy : y.isFinite = true) :
    Number.floatOrder? x y = some (compare (value x) (value y)) := by
  rw [floatOrder?_eq_compare, compare_unpack hx hy]

/-! ### Read off the parts -/

section Unpacked

variable {x : Float} {s : Sign} {m : Nat} {e : Int} {hm : 0 < m}

theorem isFinite_of_unpack (h : x.toModel.unpack = .finite s m e hm) : x.isFinite = true := by
  change x.toModel.unpack.isFinite = true
  rw [h]
  rfl

theorem value_of_unpack (h : x.toModel.unpack = .finite s m e hm) :
    value x = s.apply m * 2 ^ e := by
  have hx := unpack_eq (isFinite_of_unpack h)
  rw [h] at hx
  split_ifs at hx with hz
  obtain ⟨hs, hm, he⟩ := UnpackedFloat.finite.inj hx
  rcases signOf_cases x with ⟨hs', hv⟩ | ⟨hs', hv⟩ <;> rw [hv, Parts.toRat, ← hm, ← he, hs, hs']
  · simp [Sign.apply]
  · simp [Sign.apply]

end Unpacked

end QueryTemplate.Binary
