import Mathlib
import QueryTemplate.Evaluator
import QueryTemplate.Scope
import QueryTemplate.Proofs.Outcome
import QueryTemplate.Proofs.Grammar.RoundTrip

/-!
# Arithmetic on signed words

`Expr.Exact` says which number an expression stands for when each of its operations has a result
and all results are signed words.  The evaluator computes this number, and where there is none it
fails.

* `Divided`: quotient and remainder, by what they have to satisfy.
* `BinaryOp.Yields`: the result of one operation.
* `Expr.wholeArithmetic_eq_ok_iff`: one operation succeeds with exactly this result.
* `Expr.Exact.eval`, `Expr.IsArithmetic.exact_or_fails`: the whole expression.
* `Evaluator.value_arithmetic`: the same for every text of the expression.
-/

namespace QueryTemplate

def IsWord (n : Int) : Prop := minWhole ≤ n ∧ n ≤ maxSigned

instance (n : Int) : Decidable (IsWord n) :=
  inferInstanceAs (Decidable (_ ∧ _))

theorem isWord_iff {n : Int} : IsWord n ↔ -(2 ^ 63) ≤ n ∧ n ≤ 2 ^ 63 - 1 := Iff.rfl

theorem IsWord.le_maxWhole {n : Int} (h : IsWord n) : n ≤ maxWhole :=
  h.2.trans (by decide)

theorem Number.ofInt_of_isWord {n : Int} (h : IsWord n) :
    Number.ofInt n = .whole ⟨n, h.1, h.le_maxWhole⟩ :=
  ofInt_of_inRange h.1 h.le_maxWhole

theorem Number.signed?_ofInt {n : Int} (h : IsWord n) : (Number.ofInt n).signed? = some n := by
  rw [Number.ofInt_of_isWord h, Number.signed?, if_pos h.2]

/-! ### Division -/

/-- `q` is the quotient of `m` and `n`, and `r` what is left: less than the divisor, and with the
sign of `m`, so that the quotient is cut off toward zero. -/
structure Divided (m n q r : Int) : Prop where
  eq : m = n * q + r
  lt : r.natAbs < n.natAbs
  nonneg : 0 ≤ m → 0 ≤ r
  nonpos : m ≤ 0 → r ≤ 0

theorem divided_iff {m n q r : Int} :
    Divided m n q r ↔ n ≠ 0 ∧ m.tdiv n = q ∧ m.tmod n = r := by
  constructor
  · rintro ⟨heq, hlt, hnonneg, hnonpos⟩
    have hn : n ≠ 0 := by
      rintro rfl
      exact absurd hlt (Nat.not_lt_zero _)
    refine ⟨hn, ?_⟩
    rcases Int.le_total 0 m with hm | hm
    · exact (Int.tdiv_tmod_unique hm hn).mpr ⟨by omega, hnonneg hm, by omega⟩
    · exact (Int.tdiv_tmod_unique' hm hn).mpr ⟨by omega, by omega, hnonpos hm⟩
  · rintro ⟨hn, rfl, rfl⟩
    refine ⟨(Int.mul_tdiv_add_tmod m n).symm, ?_, Int.tmod_nonneg n, fun hm => ?_⟩
    · rw [Int.natAbs_tmod]
      exact Nat.mod_lt _ (Int.natAbs_pos.mpr hn)
    · have hneg := Int.tmod_nonneg n (Int.neg_nonneg_of_nonpos hm)
      rw [Int.neg_tmod] at hneg
      omega

theorem isQuotient_iff {m n q : Int} : (∃ r, Divided m n q r) ↔ n ≠ 0 ∧ m.tdiv n = q := by
  simp only [divided_iff, exists_and_left, exists_eq', and_true]

theorem isRemainder_iff {m n r : Int} : (∃ q, Divided m n q r) ↔ n ≠ 0 ∧ m.tmod n = r := by
  simp only [divided_iff, exists_and_left, exists_eq_left']

theorem divided_tdiv_tmod (m : Int) {n : Int} (hn : n ≠ 0) :
    Divided m n (m.tdiv n) (m.tmod n) :=
  divided_iff.mpr ⟨hn, rfl, rfl⟩

/-- The only quotient of words that is no word is the one of the smallest word and -1. -/
theorem isWord_tdiv_iff {m n : Int} (hm : IsWord m) (hn : n ≠ 0) :
    IsWord (m.tdiv n) ↔ ¬ (m = minWhole ∧ n = -1) := by
  constructor
  · rintro h ⟨rfl, rfl⟩
    exact absurd h (by decide)
  · intro h
    obtain ⟨heq, hlt, hnonneg, hnonpos⟩ := divided_tdiv_tmod m hn
    have hle := Int.natAbs_tdiv_le_natAbs m n
    rw [isWord_iff] at hm ⊢
    change ¬ (m = -(2 ^ 63) ∧ n = -1) at h
    -- A quotient of this size leaves the divisor 1 or -1, which fixes the dividend.
    by_cases hlarge : m.tdiv n = 2 ^ 63
    · rw [hlarge] at heq
      omega
    · omega

theorem isWord_tmod {m n : Int} (hm : IsWord m) (hn : n ≠ 0) : IsWord (m.tmod n) := by
  obtain ⟨-, -, hnonneg, hnonpos⟩ := divided_tdiv_tmod m hn
  have hle : (m.tmod n).natAbs ≤ m.natAbs := by
    rw [Int.natAbs_tmod]
    exact Nat.mod_le _ _
  rw [isWord_iff] at hm ⊢
  omega

/-! ### One operation -/

inductive BinaryOp.IsArithmetic : BinaryOp → Prop
  | add : IsArithmetic .add
  | sub : IsArithmetic .sub
  | mul : IsArithmetic .mul
  | div : IsArithmetic .div
  | rem : IsArithmetic .rem

theorem BinaryOp.IsArithmetic.ne_or {op : BinaryOp} (h : op.IsArithmetic) : op ≠ .or := by
  rintro rfl
  cases h

theorem BinaryOp.IsArithmetic.ne_and {op : BinaryOp} (h : op.IsArithmetic) : op ≠ .and := by
  rintro rfl
  cases h

/-- The result `k` of an operation on words, which has to be a word; the quotient of the smallest
word and -1 is none, and neither is there a remainder for it. -/
def BinaryOp.Yields (op : BinaryOp) (m n k : Int) : Prop :=
  match op with
  | .add => k = m + n ∧ IsWord k
  | .sub => k = m - n ∧ IsWord k
  | .mul => k = m * n ∧ IsWord k
  | .div => (∃ r, Divided m n k r) ∧ IsWord k
  | .rem => (∃ q, Divided m n q k) ∧ ¬ (m = minWhole ∧ n = -1)
  | _ => False

theorem BinaryOp.Yields.isWord {op : BinaryOp} {m n k : Int} (hm : IsWord m)
    (h : op.Yields m n k) : IsWord k := by
  cases op
  case add | sub | mul | div => exact h.2
  case rem =>
    obtain ⟨hn, rfl⟩ := isRemainder_iff.mp h.1
    exact isWord_tmod hm hn
  all_goals exact h.elim

namespace Expr

theorem signed_eq_ok_iff {fault : Fault} {n : Int} {v : Value} :
    signed fault n = .ok v ↔ IsWord n ∧ v = .ofInt n := by
  rw [signed]
  split_ifs with h
  · rw [Except.ok.injEq, eq_comm]
    exact (and_iff_right h).symm
  · exact ⟨nofun, fun hn => absurd hn.1 h⟩

/-- **One operation on words succeeds with its result, and only with it.** -/
theorem wholeArithmetic_eq_ok_iff {op : BinaryOp} (hop : op.IsArithmetic) {m n : Int}
    (hm : IsWord m) {v : Value} :
    wholeArithmetic op m n = .ok v ↔ ∃ k, op.Yields m n k ∧ v = .ofInt k := by
  cases hop with
  | add | sub | mul =>
    simp only [wholeArithmetic, signed_eq_ok_iff, BinaryOp.Yields, and_assoc, exists_eq_left]
  | div =>
    simp only [wholeArithmetic, BinaryOp.Yields, isQuotient_iff]
    split_ifs with hn
    · simp [hn]
    · simp only [signed_eq_ok_iff, hn, ne_eq, not_false_eq_true, true_and, and_assoc,
        exists_eq_left']
  | rem =>
    simp only [wholeArithmetic, BinaryOp.Yields, isRemainder_iff]
    split_ifs with hn
    · simp [hn]
    · simp only [Outcome.bind_eq_ok_iff, signed_eq_ok_iff, hn, ne_eq, not_false_eq_true, true_and,
        and_assoc, exists_and_left, exists_eq_left, exists_eq_left', isWord_tdiv_iff hm hn,
        isWord_tmod hm hn]

theorem apply_ofInt {op : BinaryOp} (hop : op.IsArithmetic) {m n : Int} (hm : IsWord m)
    (hn : IsWord n) : apply op (.ofInt m) (.ofInt n) = wholeArithmetic op m n := by
  have harithmetic : arithmetic op (.ofInt m) (.ofInt n) = wholeArithmetic op m n := by
    rw [Value.ofInt, Value.ofInt, arithmetic, Number.signed?_ofInt hm, Number.signed?_ofInt hn]
  cases hop <;> exact harithmetic

theorem opposite_ofInt {n : Int} (hn : IsWord n) :
    opposite (.ofInt n) = signed (.noNegation (.ofInt n)) (-n) := by
  rw [Value.ofInt, opposite, Number.signed?_ofInt hn]

/-! ### Whole expressions -/

section Exact

variable (scope : String → Option Value)

/-- The expressions that are built from signed words by negation and arithmetic. -/
inductive IsArithmetic : Expr → Prop
  | literal {n : Int} (h : IsWord n) : IsArithmetic (.literal (.ofInt n))
  | bound {name : String} {n : Int} (h : IsWord n) (hname : scope name = some (.ofInt n)) :
    IsArithmetic (.variable name)
  | negate {e : Expr} (he : IsArithmetic e) : IsArithmetic (.negate e)
  | binary {op : BinaryOp} {left right : Expr} (hop : op.IsArithmetic)
    (hleft : IsArithmetic left) (hright : IsArithmetic right) :
    IsArithmetic (.binary op left right)

/-- The number that an expression stands for: each operation has a result, and it is a word. -/
inductive Exact : Expr → Int → Prop
  | literal {n : Int} (h : IsWord n) : Exact (.literal (.ofInt n)) n
  | bound {name : String} {n : Int} (h : IsWord n) (hname : scope name = some (.ofInt n)) :
    Exact (.variable name) n
  | negate {e : Expr} {n : Int} (he : Exact e n) (h : IsWord (-n)) : Exact (.negate e) (-n)
  | binary {op : BinaryOp} {left right : Expr} {m n k : Int} (hop : op.IsArithmetic)
    (hleft : Exact left m) (hright : Exact right n) (h : op.Yields m n k) :
    Exact (.binary op left right) k

end Exact

variable {scope : String → Option Value} {e : Expr}

theorem Exact.isWord {n : Int} (h : Exact scope e n) : IsWord n := by
  induction h with
  | literal h | bound h | negate _ h => exact h
  | binary _ _ _ h ihleft _ => exact h.isWord ihleft

theorem Exact.isArithmetic {n : Int} (h : Exact scope e n) : IsArithmetic scope e := by
  induction h with
  | literal h => exact .literal h
  | bound h hname => exact .bound h hname
  | negate _ _ ih => exact .negate ih
  | binary hop _ _ _ ihleft ihright => exact .binary hop ihleft ihright

/-- **Where an expression stands for a number, it is computed.** -/
theorem Exact.eval {n : Int} (h : Exact scope e n) : e.eval scope = .ok (.ofInt n) := by
  induction h with
  | literal => rfl
  | bound _ hname => rw [Expr.eval, hname]; rfl
  | @negate e n he hword ih =>
    rw [Expr.eval, ih]
    exact (opposite_ofInt he.isWord).trans (signed_eq_ok_iff.mpr ⟨hword, rfl⟩)
  | @binary op left right m n k hop hleft hright h ihleft ihright =>
    have hresult := (wholeArithmetic_eq_ok_iff hop hleft.isWord).mpr ⟨k, h, rfl⟩
    rw [eval_binary hop.ne_or hop.ne_and, ihleft, ihright]
    exact (apply_ofInt hop hleft.isWord hright.isWord).trans hresult

theorem Exact.unique {m n : Int} (hm : Exact scope e m) (hn : Exact scope e n) : m = n := by
  have hvalue : Value.ofInt m = Value.ofInt n := Except.ok.inj (hm.eval.symm.trans hn.eval)
  have hword := congrArg Number.signed? (Value.number.inj hvalue)
  rw [Number.signed?_ofInt hm.isWord, Number.signed?_ofInt hn.isWord] at hword
  exact Option.some.inj hword

/-- **An arithmetic expression stands for a number, or it fails.** -/
theorem IsArithmetic.exact_or_fails (h : IsArithmetic scope e) :
    (∃ n, Exact scope e n) ∨ ∃ fault, e.eval scope = .error fault := by
  induction h with
  | @literal n h => exact .inl ⟨n, .literal h⟩
  | @bound _ n h hname => exact .inl ⟨n, .bound h hname⟩
  | @negate e he ih =>
    rcases ih with ⟨n, hn⟩ | ⟨fault, hfault⟩
    · by_cases hword : IsWord (-n)
      · exact .inl ⟨-n, .negate hn hword⟩
      · refine .inr ⟨.noNegation (.ofInt n), ?_⟩
        rw [Expr.eval, hn.eval]
        exact (opposite_ofInt hn.isWord).trans (if_neg hword)
    · exact .inr ⟨fault, by rw [Expr.eval, hfault]; rfl⟩
  | @binary op left right hop hleft hright ihleft ihright =>
    rw [eval_binary hop.ne_or hop.ne_and]
    -- An operand that fails takes the expression with it, the left one first.
    rcases ihleft with ⟨m, hm⟩ | ⟨fault, hfault⟩
    · rcases ihright with ⟨n, hn⟩ | ⟨fault, hfault⟩
      · have happly := apply_ofInt hop hm.isWord hn.isWord
        rw [hm.eval, hn.eval]
        cases hresult : wholeArithmetic op m n with
        | ok v =>
          obtain ⟨k, hk, -⟩ := (wholeArithmetic_eq_ok_iff hop hm.isWord).mp hresult
          exact .inl ⟨k, .binary hop hm hn hk⟩
        | error fault => exact .inr ⟨fault, happly.trans hresult⟩
      · exact .inr ⟨fault, by rw [hm.eval, hfault]; rfl⟩
    · exact .inr ⟨fault, by rw [hfault]; rfl⟩

end Expr

namespace Evaluator

/-- **Arithmetic on signed words is exact or fails.** -/
theorem value_arithmetic {scope : String → Option Value} {e : Expr}
    (he : e.IsArithmetic scope) :
    (∀ n, e.Exact scope n → e.eval scope = .ok (.ofInt n) ∧
        ∀ text, Expr.parse text = .ok e → standard.value text scope = .ok (.ofInt n)) ∧
      ((∀ n, ¬ e.Exact scope n) → ∃ fault : Fault, e.eval scope = .error fault ∧
        ∀ text, Expr.parse text = .ok e →
          standard.value text scope = .error (.failed text fault.message)) := by
  constructor
  · intro n hn
    refine ⟨hn.eval, fun text htext => ?_⟩
    rw [standard_value_of_parse htext, hn.eval]
    rfl
  · intro hnone
    obtain ⟨n, hn⟩ | ⟨fault, hfault⟩ := he.exact_or_fails
    · exact absurd hn (hnone n)
    · refine ⟨fault, hfault, fun text htext => ?_⟩
      rw [standard_value_of_parse htext, hfault]
      rfl

def single (n : Int) : String → Option Value :=
  Scope.lookup { parameter := .object [("x", .ofInt n)] }

/-- A quotient that is cut off, and a remainder of the smallest word. -/
theorem value_arithmetic_remainders :
    standard.value "-(7 / x) % 2" (single (-2)) = .ok (.ofInt 1) ∧
      ∃ fault : Fault, standard.value "x % -1" (single minWhole) =
        .error (.failed "x % -1" fault.message) := by
  constructor
  · have hx : single (-2) "x" = some (.ofInt (-2)) := rfl
    have htext : Expr.parse "-(7 / x) % 2" = .ok (.binary .rem
        (.negate (.binary .div (.literal (.ofInt 7)) (.variable "x"))) (.literal (.ofInt 2))) :=
      Expr.parse_of_renders (Expr.renders_text (by decide))
    have hdiv : BinaryOp.div.Yields 7 (-2) (-3) :=
      ⟨⟨1, by decide, by decide, by decide, by decide⟩, by decide⟩
    have hrem : BinaryOp.rem.Yields 3 2 1 :=
      ⟨⟨1, by decide, by decide, by decide, by decide⟩, by decide⟩
    have hquotient : Expr.Exact (single (-2)) (.binary .div (.literal (.ofInt 7)) (.variable "x"))
        (-3) := .binary .div (.literal (by decide)) (.bound (by decide) hx) hdiv
    have hexact := Expr.Exact.binary .rem (hquotient.negate (by decide))
      (.literal (by decide)) hrem
    exact ((value_arithmetic hexact.isArithmetic).1 1 hexact).2 _ htext
  · have hx : single minWhole "x" = some (.ofInt minWhole) := rfl
    have htext : Expr.parse "x % -1" = .ok (.binary .rem (.variable "x")
        (.negate (.literal (.ofInt 1)))) :=
      Expr.parse_of_renders (Expr.renders_text (by decide))
    have hleft : Expr.Exact (single minWhole) (.variable "x") minWhole := .bound (by decide) hx
    have hright : Expr.Exact (single minWhole) (.negate (.literal (.ofInt 1))) (-1) :=
      .negate (.literal (by decide)) (by decide)
    have hnone : ∀ n, ¬ Expr.Exact (single minWhole)
        (.binary .rem (.variable "x") (.negate (.literal (.ofInt 1)))) n := by
      intro n hn
      cases hn with
      | binary _ hm hn h => exact h.2 ⟨hm.unique hleft, hn.unique hright⟩
    obtain ⟨fault, -, hfault⟩ :=
      (value_arithmetic (.binary .rem hleft.isArithmetic hright.isArithmetic)).2 hnone
    exact ⟨fault, hfault _ htext⟩

end Evaluator

end QueryTemplate
