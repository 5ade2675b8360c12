import Mathlib
import QueryTemplate.Evaluator
import QueryTemplate.Scope
import QueryTemplate.Proofs.Binary.Whole
import QueryTemplate.Proofs.Grammar.RoundTrip

/-!
# Comparing whole numbers

Two signed words are compared as they are.  Where one of two whole numbers is larger than every
signed word, both are compared as floats, and two numbers that are rounded to one float are taken
for equal (`Whole.Blurred`).

* `Number.order?_whole`: the order of two whole numbers.
* `Whole.Blurred.eq_of_isShort`: numbers of at most 53 binary digits are never blurred.
* `Evaluator.value_comparison`: what a comparison of two variables answers.
* `Evaluator.exists_equal_of_ne`: two numbers that differ and are taken for equal.
-/

namespace QueryTemplate

/-! ### The order of two numbers -/

namespace Whole

variable {a b : Whole}

/-- Whether two numbers are compared as floats and have the same one. -/
def Blurred (a b : Whole) : Prop :=
  (maxSigned < a.val ∨ maxSigned < b.val) ∧ Binary.rounded a.val = Binary.rounded b.val

instance (a b : Whole) : Decidable (Blurred a b) :=
  inferInstanceAs (Decidable (_ ∧ _))

/-- Numbers that a float holds are blurred only with themselves. -/
theorem Blurred.eq_of_isShort (h : Blurred a b) (ha : Binary.IsShort a.val.natAbs)
    (hb : Binary.IsShort b.val.natAbs) : a = b := by
  have hval : a.val = b.val := by
    rw [← Binary.rounded_eq_self_iff.mpr ha, h.2, Binary.rounded_eq_self_iff.mpr hb]
  cases a
  cases b
  cases hval
  rfl

end Whole

/-- Rounding does not change the order of numbers that it keeps apart. -/
theorem Binary.compare_rounded {m n : Int} (h : rounded m ≠ rounded n) :
    compare (rounded m) (rounded n) = compare m n := by
  rcases lt_trichotomy m n with hlt | rfl | hgt
  · rw [compare_lt_iff_lt.mpr hlt, compare_lt_iff_lt.mpr ((rounded_mono hlt.le).lt_of_ne h)]
  · exact absurd rfl h
  · rw [compare_gt_iff_gt.mpr hgt, compare_gt_iff_gt.mpr ((rounded_mono hgt.le).lt_of_ne h.symm)]

/-- **The order of two whole numbers** is the one of the integers, unless they are blurred. -/
theorem Number.order?_whole (a b : Whole) : Number.order? (.whole a) (.whole b) =
    some (if a.Blurred b then .eq else compare a.val b.val) := by
  by_cases hwords : a.val ≤ maxSigned ∧ b.val ≤ maxSigned
  · have hsharp : ¬ a.Blurred b := fun h => by
      rcases h.1 with h | h <;> omega
    rw [if_neg hsharp, order?, signed?, signed?, if_pos hwords.1, if_pos hwords.2]
  · have hfloats : Number.order? (.whole a) (.whole b) =
        floatOrder? (Number.whole a).toFloat (Number.whole b).toFloat := by
      rw [order?, signed?, signed?]
      by_cases ha : a.val ≤ maxSigned
      · rw [if_pos ha, if_neg fun hb => hwords ⟨ha, hb⟩]
      · rw [if_neg ha]
    have hlarge : maxSigned < a.val ∨ maxSigned < b.val := by omega
    rw [hfloats, Binary.floatOrder?_toFloat]
    by_cases hsame : Binary.rounded a.val = Binary.rounded b.val
    · rw [if_pos ⟨hlarge, hsame⟩, compare_eq_iff_eq.mpr hsame]
    · rw [if_neg fun h => hsame h.2, Binary.compare_rounded hsame]

/-! ### Comparisons -/

/-- What a comparison should answer about two whole numbers. -/
def BinaryOp.comparison? : BinaryOp → Option (Int → Int → Bool)
  | .eq => some fun m n => decide (m = n)
  | .ne => some fun m n => decide (m ≠ n)
  | .lt => some fun m n => decide (m < n)
  | .le => some fun m n => decide (m ≤ n)
  | .gt => some fun m n => decide (n < m)
  | .ge => some fun m n => decide (n ≤ m)
  | _ => none

/-- A comparison depends on nothing but the order of the numbers. -/
theorem Expr.apply_comparison {op : BinaryOp} {holds : Int → Int → Bool}
    (hop : op.comparison? = some holds) {a b : Whole} {m n : Int}
    (horder : Number.order? (.whole a) (.whole b) = some (compare m n)) :
    apply op (.number (.whole a)) (.number (.whole b)) = .ok (.bool (holds m n)) := by
  rcases lt_trichotomy m n with h | h | h
  · rw [compare_lt_iff_lt.mpr h] at horder
    cases op <;> cases hop <;>
      simp [apply, ordered, Value.looseEq, Value.order?, Number.same, horder, h, h.le, h.ne,
        h.not_gt]
  · rw [compare_eq_iff_eq.mpr h] at horder
    cases op <;> cases hop <;>
      simp [apply, ordered, Value.looseEq, Value.order?, Number.same, horder, h]
  · rw [compare_gt_iff_gt.mpr h] at horder
    cases op <;> cases hop <;>
      simp [apply, ordered, Value.looseEq, Value.order?, Number.same, horder, h, h.le, h.ne',
        h.not_gt]

/-! ### Through the evaluator -/

namespace Evaluator

/-- **A comparison of two variables that stand for whole numbers** answers what the numbers say,
unless they are blurred: then it answers what it does for equal numbers. -/
theorem value_comparison {text x y : String} {scope : String → Option Value} {op : BinaryOp}
    {holds : Int → Int → Bool} {a b : Whole} (hop : op.comparison? = some holds)
    (htext : Expr.parse text = .ok (.binary op (.variable x) (.variable y)))
    (hx : scope x = some (.number (.whole a))) (hy : scope y = some (.number (.whole b))) :
    (¬ a.Blurred b → standard.value text scope = .ok (.bool (holds a.val b.val))) ∧
      (a.Blurred b → standard.value text scope = .ok (.bool (holds a.val a.val))) := by
  have hne : op ≠ .or ∧ op ≠ .and := by
    constructor <;> rintro rfl <;> cases hop
  have heval : (Expr.binary op (.variable x) (.variable y)).eval scope =
      Expr.apply op (.number (.whole a)) (.number (.whole b)) := by
    rw [Expr.eval_binary hne.1 hne.2, Expr.eval, Expr.eval, hx, hy]
    rfl
  rw [standard_value_of_parse htext, heval]
  constructor
  · intro hsharp
    have horder := Number.order?_whole a b
    rw [if_neg hsharp] at horder
    rw [Expr.apply_comparison hop horder]
    rfl
  · intro hblurred
    have horder := Number.order?_whole a b
    rw [if_pos hblurred, ← compare_eq_iff_eq.mpr (rfl : a.val = a.val)] at horder
    rw [Expr.apply_comparison hop horder]
    rfl

def pair (a b : Whole) : String → Option Value :=
  Scope.lookup { parameter := .object [("x", .number (.whole a)), ("y", .number (.whole b))] }

def lastWord : Whole := ⟨maxSigned, by decide, by decide⟩

def firstBeyond : Whole := ⟨maxSigned + 1, by decide, by decide⟩

theorem value_comparison_beyond_words :
    standard.value "x < y" (pair firstBeyond ⟨maxWhole, by decide, by decide⟩) =
        .ok (.bool true) ∧
      standard.value "x < y" (pair lastWord firstBeyond) = .ok (.bool false) := by
  have htext : Expr.parse "x < y" = .ok (.binary .lt (.variable "x") (.variable "y")) :=
    Expr.parse_of_renders (Expr.renders_text (by decide))
  have hsharp : ¬ firstBeyond.Blurred ⟨maxWhole, by decide, by decide⟩ := by decide
  have hblurred : lastWord.Blurred firstBeyond := by decide
  exact ⟨(value_comparison rfl htext rfl rfl).1 hsharp,
    (value_comparison rfl htext rfl rfl).2 hblurred⟩

/-- **Two numbers that differ and are taken for equal.** -/
theorem exists_equal_of_ne : ∃ a b : Whole, a ≠ b ∧
    standard.value "x == y" (pair a b) = .ok (.bool true) := by
  have htext : Expr.parse "x == y" = .ok (.binary .eq (.variable "x") (.variable "y")) :=
    Expr.parse_of_renders (Expr.renders_text (by decide))
  have hsame : Number.same (.whole firstBeyond) (.whole lastWord) = true := by decide +kernel
  refine ⟨firstBeyond, lastWord, by decide, ?_⟩
  rw [standard_value_of_parse htext]
  change Except.mapError _ (.ok (Value.bool (Number.same _ _))) = _
  rw [hsame]
  rfl

end Evaluator

end QueryTemplate
