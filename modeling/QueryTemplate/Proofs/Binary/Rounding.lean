import Mathlib

/-!
# Rounding to 53 binary digits

A float holds 53 binary digits.  A whole number with more of them is rounded to the nearest one
that has no more, zeros at its end apart, and of two equally near to the one whose last digit is
even (`Binary.rounded`).

* `Binary.roundShift_mono`, `Binary.rounded_mono`: rounding keeps the order.
* `Binary.roundedNat_mul_two_pow`: zeros at the end do not matter.
* `Binary.rounded_eq_self_iff`: exactly the numbers of at most 53 digits stay as they are.
-/

namespace QueryTemplate.Binary

/-! ### Quotients -/

/-- `m / 2 ^ k`, rounded to the nearest whole number and a half to the even one. -/
def roundShift (m k : Nat) : Nat :=
  if 2 * (m % 2 ^ k) < 2 ^ k then m / 2 ^ k
  else if 2 ^ k < 2 * (m % 2 ^ k) then m / 2 ^ k + 1
  else m / 2 ^ k + m / 2 ^ k % 2

theorem div_le_roundShift (m k : Nat) : m / 2 ^ k ≤ roundShift m k := by
  rw [roundShift]
  split_ifs <;> omega

theorem roundShift_le_div_add_one (m k : Nat) : roundShift m k ≤ m / 2 ^ k + 1 := by
  rw [roundShift]
  split_ifs <;> omega

theorem roundShift_mul_two_pow (m k : Nat) : roundShift (m * 2 ^ k) k = m := by
  have hpos := Nat.two_pow_pos k
  rw [roundShift, Nat.mul_mod_left, Nat.mul_div_cancel _ hpos, if_pos (by omega)]

theorem roundShift_zero_right (m : Nat) : roundShift m 0 = m := by
  simpa using roundShift_mul_two_pow m 0

theorem roundShift_mul_add (m k j : Nat) : roundShift (m * 2 ^ j) (k + j) = roundShift m k := by
  have hpos := Nat.two_pow_pos j
  have hrest : m * 2 ^ j % 2 ^ (k + j) = m % 2 ^ k * 2 ^ j := by
    rw [pow_add, Nat.mul_mod_mul_right]
  have hless : 2 * (m % 2 ^ k * 2 ^ j) < 2 ^ k * 2 ^ j ↔ 2 * (m % 2 ^ k) < 2 ^ k := by
    rw [← Nat.mul_assoc, Nat.mul_lt_mul_right hpos]
  have hmore : 2 ^ k * 2 ^ j < 2 * (m % 2 ^ k * 2 ^ j) ↔ 2 ^ k < 2 * (m % 2 ^ k) := by
    rw [← Nat.mul_assoc, Nat.mul_lt_mul_right hpos]
  rw [roundShift, roundShift, hrest, pow_add, Nat.mul_div_mul_right _ _ hpos]
  simp only [hless, hmore]

/-- **Rounding keeps the order.** -/
theorem roundShift_mono {m n : Nat} (h : m ≤ n) (k : Nat) : roundShift m k ≤ roundShift n k := by
  have hdiv : m / 2 ^ k ≤ n / 2 ^ k := Nat.div_le_div_right h
  rcases hdiv.lt_or_eq with hlt | heq
  · calc roundShift m k ≤ m / 2 ^ k + 1 := roundShift_le_div_add_one m k
      _ ≤ n / 2 ^ k := hlt
      _ ≤ roundShift n k := div_le_roundShift n k
  · have hm := Nat.div_add_mod m (2 ^ k)
    have hn := Nat.div_add_mod n (2 ^ k)
    rw [heq] at hm
    rw [roundShift, roundShift, heq]
    split_ifs <;> omega

/-! ### Whole numbers -/

def excess (n : Nat) : Nat := n.log2 - 52

def roundedNat (n : Nat) : Nat := roundShift n (excess n) * 2 ^ excess n

/-- A whole number rounded to 53 binary digits. -/
def rounded (n : Int) : Int := n.sign * roundedNat n.natAbs

/-- Whether a number has at most 53 binary digits, zeros at its end apart. -/
def IsShort (n : Nat) : Prop := ∃ m k, m < 2 ^ 53 ∧ n = m * 2 ^ k

/-- The digits that are left fill the mantissa of a float, or one digit more when they are
rounded up to a power of two. -/
theorem roundShift_excess_bounds {n : Nat} (h : 52 ≤ n.log2) :
    2 ^ 52 ≤ roundShift n (excess n) ∧ roundShift n (excess n) ≤ 2 ^ 53 := by
  have hn : n ≠ 0 := by
    rintro rfl
    exact absurd h (by decide)
  have hexcess : 52 + excess n = n.log2 := by
    rw [excess]
    omega
  have hlow : 2 ^ 52 * 2 ^ excess n ≤ n := by
    rw [← pow_add, hexcess]
    exact Nat.log2_self_le hn
  have hhigh : n ≤ 2 ^ 53 * 2 ^ excess n := by
    rw [← pow_add, show 53 + excess n = n.log2 + 1 by omega]
    exact Nat.lt_log2_self.le
  have hlow := roundShift_mono hlow (excess n)
  have hhigh := roundShift_mono hhigh (excess n)
  rw [roundShift_mul_two_pow] at hlow hhigh
  exact ⟨hlow, hhigh⟩

theorem roundedNat_of_log2_le {n : Nat} (h : n.log2 ≤ 52) : roundedNat n = n := by
  rw [roundedNat, show excess n = 0 by rw [excess]; omega, roundShift_zero_right, pow_zero,
    Nat.mul_one]

theorem two_pow_log2_le_roundedNat {n : Nat} (hn : n ≠ 0) : 2 ^ n.log2 ≤ roundedNat n := by
  rcases Nat.le_total 52 n.log2 with h | h
  · have hexcess : n.log2 = 52 + excess n := by
      rw [excess]
      omega
    calc 2 ^ n.log2 = 2 ^ 52 * 2 ^ excess n := by rw [← pow_add, ← hexcess]
      _ ≤ roundedNat n := Nat.mul_le_mul_right _ (roundShift_excess_bounds h).1
  · rw [roundedNat_of_log2_le h]
    exact Nat.log2_self_le hn

theorem roundedNat_le_two_pow (n : Nat) : roundedNat n ≤ 2 ^ (n.log2 + 1) := by
  rcases Nat.le_total 52 n.log2 with h | h
  · have hexcess : n.log2 + 1 = 53 + excess n := by
      rw [excess]
      omega
    calc roundedNat n ≤ 2 ^ 53 * 2 ^ excess n :=
          Nat.mul_le_mul_right _ (roundShift_excess_bounds h).2
      _ = 2 ^ (n.log2 + 1) := by rw [← pow_add, ← hexcess]
  · rw [roundedNat_of_log2_le h]
    exact Nat.lt_log2_self.le

theorem roundedNat_mono {m n : Nat} (h : m ≤ n) : roundedNat m ≤ roundedNat n := by
  rcases Nat.eq_zero_or_pos m with rfl | hm
  · rw [roundedNat_of_log2_le (by decide)]
    exact Nat.zero_le _
  · have hn : n ≠ 0 := by omega
    have hlog : m.log2 ≤ n.log2 :=
      (Nat.le_log2 hn).mpr ((Nat.log2_self_le hm.ne').trans h)
    rcases hlog.lt_or_eq with hlt | heq
    · calc roundedNat m ≤ 2 ^ (m.log2 + 1) := roundedNat_le_two_pow m
        _ ≤ 2 ^ n.log2 := Nat.pow_le_pow_right (by decide) hlt
        _ ≤ roundedNat n := two_pow_log2_le_roundedNat hn
    · rw [roundedNat, roundedNat, excess, excess, heq]
      exact Nat.mul_le_mul_right _ (roundShift_mono h _)

/-- **Exactly the numbers of at most 53 digits stay as they are.** -/
theorem roundedNat_eq_self_iff {n : Nat} : roundedNat n = n ↔ IsShort n := by
  constructor
  · intro h
    rcases Nat.le_total 52 n.log2 with hlog | hlog
    · rcases (roundShift_excess_bounds hlog).2.lt_or_eq with hlt | heq
      · exact ⟨_, _, hlt, h.symm⟩
      · refine ⟨2 ^ 52, excess n + 1, by decide, ?_⟩
        rw [roundedNat, heq] at h
        calc n = 2 ^ 53 * 2 ^ excess n := h.symm
          _ = 2 ^ 52 * 2 ^ (excess n + 1) := by rw [← pow_add, ← pow_add]; congr 1; omega
    · exact ⟨n, 0, Nat.lt_log2_self.trans_le (Nat.pow_le_pow_right (by decide) (by omega)),
        by rw [pow_zero, Nat.mul_one]⟩
  · rintro ⟨m, k, hm, rfl⟩
    rcases Nat.eq_zero_or_pos m with rfl | hpos
    · rw [Nat.zero_mul]
      exact roundedNat_of_log2_le (by decide)
    · have hne : m * 2 ^ k ≠ 0 := (Nat.mul_pos hpos (Nat.two_pow_pos k)).ne'
      have hexcess : excess (m * 2 ^ k) ≤ k := by
        have hlog : (m * 2 ^ k).log2 < 53 + k := by
          rw [Nat.log2_lt hne, pow_add]
          exact Nat.mul_lt_mul_of_pos_right hm (Nat.two_pow_pos k)
        rw [excess]
        omega
      have hsplit : m * 2 ^ k = m * 2 ^ (k - excess (m * 2 ^ k)) * 2 ^ excess (m * 2 ^ k) := by
        rw [Nat.mul_assoc, ← pow_add, Nat.sub_add_cancel hexcess]
      have hshift : roundShift (m * 2 ^ k) (excess (m * 2 ^ k)) =
          m * 2 ^ (k - excess (m * 2 ^ k)) := by
        conv_lhs => enter [1]; rw [hsplit]
        exact roundShift_mul_two_pow _ _
      rw [roundedNat, hshift, ← hsplit]

theorem log2_mul_two_pow {n : Nat} (hn : n ≠ 0) (j : Nat) : (n * 2 ^ j).log2 = n.log2 + j := by
  have hpos := Nat.two_pow_pos j
  rw [Nat.log2_eq_iff (Nat.mul_ne_zero hn hpos.ne'), Nat.add_right_comm, pow_add, pow_add]
  exact ⟨Nat.mul_le_mul_right _ (Nat.log2_self_le hn),
    Nat.mul_lt_mul_of_pos_right Nat.lt_log2_self hpos⟩

theorem IsShort.mul_two_pow {n : Nat} (h : IsShort n) (j : Nat) : IsShort (n * 2 ^ j) := by
  obtain ⟨m, k, hm, rfl⟩ := h
  exact ⟨m, k + j, hm, by rw [Nat.mul_assoc, ← pow_add]⟩

/-- **Zeros at the end do not matter.** -/
theorem roundedNat_mul_two_pow (n j : Nat) : roundedNat (n * 2 ^ j) = roundedNat n * 2 ^ j := by
  rcases Nat.le_total 52 n.log2 with h | h
  · have hn : n ≠ 0 := by
      rintro rfl
      exact absurd h (by decide)
    have hexcess : excess (n * 2 ^ j) = excess n + j := by
      rw [excess, excess, log2_mul_two_pow hn]
      omega
    rw [roundedNat, roundedNat, hexcess, roundShift_mul_add, pow_add, Nat.mul_assoc]
  · have hself := roundedNat_of_log2_le h
    rw [hself, roundedNat_eq_self_iff]
    exact (roundedNat_eq_self_iff.mp hself).mul_two_pow j

/-! ### Signs -/

theorem rounded_natCast (n : Nat) : rounded n = roundedNat n := by
  rcases Nat.eq_zero_or_pos n with rfl | hn
  · rfl
  · rw [rounded, Int.sign_natCast_of_ne_zero hn.ne', Int.one_mul, Int.natAbs_natCast]

theorem rounded_neg (n : Int) : rounded (-n) = -rounded n := by
  rw [rounded, rounded, Int.sign_neg, Int.natAbs_neg, Int.neg_mul]

theorem rounded_mono {a b : Int} (h : a ≤ b) : rounded a ≤ rounded b := by
  obtain ⟨m, rfl | rfl⟩ := a.eq_nat_or_neg <;> obtain ⟨n, rfl | rfl⟩ := b.eq_nat_or_neg <;>
    simp only [rounded_neg, rounded_natCast]
  · exact_mod_cast roundedNat_mono (by omega)
  · obtain ⟨rfl, rfl⟩ : m = 0 ∧ n = 0 := by omega
    exact le_rfl
  · omega
  · have := roundedNat_mono (show n ≤ m by omega)
    omega

theorem rounded_eq_self_iff {n : Int} : rounded n = n ↔ IsShort n.natAbs := by
  rw [← roundedNat_eq_self_iff]
  obtain ⟨m, rfl | rfl⟩ := n.eq_nat_or_neg
  · rw [rounded_natCast, Int.natAbs_natCast]
    exact Int.natCast_inj
  · rw [rounded_neg, rounded_natCast, Int.natAbs_neg, Int.natAbs_natCast, Int.neg_inj]
    exact Int.natCast_inj

end QueryTemplate.Binary
