import QueryTemplate.Proofs.Grammar.Token

/-!
# The steps of the expression parser

One equation for each way that a function of the parser goes, on what was read and the rest
(`Outcome.result?`), without the bounds that the parser carries along.  The tokens in front
of the text are the hypotheses.

* `operand_result`: the operands of a level are read at the place `Level.operands`.
* `chain_result`, `links_of_operator`, `links_of_none`: operators grouped to the left.
* `unary_of_negation`, `unary_of_minus`, `unary_of_postfixed`: signs of negation.
* `suffixes_of_member`, `suffixes_of_call`, `suffixes_of_index`, `suffixes_of_none`: what
  stands behind an expression.
-/

namespace QueryTemplate.Expr

open Text (Shorter skipGaps strip?)

def readAt : Place → List Char → Option (Expr × List Char)
  | .level l, s => (chain l s).result?
  | .unary, s => (unary s).result?
  | .postfixed, s => (postfixed s).result?

theorem Outcome.exists_of_result? {α : Type} {n : Nat} {o : Outcome α n} {a : α}
    {rest : List Char} (h : o.result? = some (a, rest)) : ∃ h, o = .ok a rest h := by
  cases o with
  | ok value r shorter =>
    obtain ⟨rfl, rfl⟩ := Prod.mk.inj (Option.some.inj h)
    exact ⟨shorter, rfl⟩
  | miss place => cases h
  | halt place => cases h

/-! ### Operators -/

theorem operand_result (l : Level) (s : List Char) :
    (operand l s).result? = readAt l.operands s := by
  cases l <;> rw [operand] <;> rfl

theorem chain_result (l : Level) (s : List Char) :
    (chain l s).result? =
      (operand l s).result?.bind fun (left, rest) => (links l left rest).result? := by
  rw [chain]
  split
  · next left rest hrest heq =>
    rw [heq, Outcome.result?_widen]
    rfl
  · next place heq =>
    rw [heq]
    rfl
  · next place heq =>
    rw [heq]
    rfl

theorem links_of_none {l : Level} {s : List Char} (left : Expr)
    (h : operator? l (skipGaps s) = none) : (links l left s).result? = some (left, s) := by
  rw [links]
  split
  · rfl
  · next heq =>
    rw [h] at heq
    cases heq

theorem links_of_operator {l : Level} {op : BinaryOp} {s rest after : List Char} {right : Expr}
    (left : Expr)
    (hop : (operator? l (skipGaps s)).map (Prod.map id Subtype.val) = some (op, rest))
    (hright : (operand l rest).result? = some (right, after)) :
    (links l left s).result? = (links l (.binary op left right) after).result? := by
  obtain ⟨⟨op', found⟩, hfound, heq⟩ := Option.map_eq_some_iff.mp hop
  obtain ⟨rfl, rfl⟩ := Prod.mk.inj heq
  obtain ⟨hshort, hoperand⟩ := Outcome.exists_of_result? hright
  rw [links]
  split
  · next hnone =>
    rw [hfound] at hnone
    cases hnone
  · next op'' rest' hsome =>
    obtain ⟨rfl, rfl⟩ := Prod.mk.inj (Option.some.inj (hfound.symm.trans hsome))
    rw [hoperand]
    exact Outcome.result?_widen _ _

/-! ### Signs of negation -/

theorem unary_of_negation {s rest after : List Char} {e : Expr}
    (h : (negation? (skipGaps s)).map Subtype.val = some rest)
    (he : (unary rest).result? = some (e, after)) :
    (unary s).result? = some (.not e, after) := by
  obtain ⟨found, hfound, rfl⟩ := Option.map_eq_some_iff.mp h
  obtain ⟨hshort, hunary⟩ := Outcome.exists_of_result? he
  rw [unary]
  split
  · next rest' hsome =>
    obtain rfl := Option.some.inj (hfound.symm.trans hsome)
    rw [hunary]
    rfl
  · next hnone =>
    rw [hfound] at hnone
    cases hnone

theorem unary_of_minus {s rest after : List Char} {e : Expr}
    (hnegation : negation? (skipGaps s) = none)
    (h : (strip? ['-'] (skipGaps s)).map Subtype.val = some rest)
    (he : (unary rest).result? = some (e, after)) :
    (unary s).result? = some (.negate e, after) := by
  obtain ⟨found, hfound, rfl⟩ := Option.map_eq_some_iff.mp h
  obtain ⟨hshort, hunary⟩ := Outcome.exists_of_result? he
  rw [unary]
  split
  · next hsome =>
    rw [hnegation] at hsome
    cases hsome
  · split
    · next rest' hsome =>
      obtain rfl := Option.some.inj (hfound.symm.trans hsome)
      rw [hunary]
      rfl
    · next hnone =>
      rw [hfound] at hnone
      cases hnone

theorem unary_of_postfixed {s : List Char} (hnegation : negation? (skipGaps s) = none)
    (hminus : strip? ['-'] (skipGaps s) = none) :
    (unary s).result? = (postfixed (skipGaps s)).result? := by
  rw [unary]
  split
  · next hsome =>
    rw [hnegation] at hsome
    cases hsome
  · split
    · next hsome =>
      rw [hminus] at hsome
      cases hsome
    · exact Outcome.result?_widen _ _

/-! ### Primary expressions -/

theorem postfixed_result (s : List Char) :
    (postfixed s).result? =
      (primary (skipGaps s)).result?.bind fun (base, rest) => (suffixes base rest).result? := by
  rw [postfixed]
  split
  · next base rest hrest heq =>
    rw [heq, Outcome.result?_widen]
    rfl
  · next place heq =>
    rw [heq]
    rfl
  · next place heq =>
    rw [heq]
    rfl

theorem primary_of_parens {s after rest : List Char} {e : Expr}
    (h : (chain .disjunction s).result? = some (e, after))
    (hclose : (mark? ')' after).map Subtype.val = some rest) :
    (primary ('(' :: s)).result? = some (e, rest) := by
  obtain ⟨hshort, hchain⟩ := Outcome.exists_of_result? h
  obtain ⟨found, hfound, rfl⟩ := Option.map_eq_some_iff.mp hclose
  rw [primary, hchain]
  simp only [hfound]
  rfl

theorem primary_of_atom {s : List Char} (h : ∀ t, s ≠ '(' :: t) : primary s = atom s := by
  rw [primary]
  exact h

/-! ### Suffixes -/

theorem suffixes_of_none {s : List Char} (base : Expr) (hmember : member? s = none)
    (hindex : mark? '[' s = none) : (suffixes base s).result? = some (base, s) := by
  rw [suffixes]
  split
  · next hsome =>
    rw [hmember] at hsome
    cases hsome
  · split
    · rfl
    · next hsome =>
      rw [hindex] at hsome
      cases hsome

theorem suffixes_of_member {s rest : List Char} {name : String} (base : Expr)
    (hmember : (member? s).map (Prod.map id Subtype.val) = some (name, rest))
    (hcall : emptyCall? rest = none) :
    (suffixes base s).result? = (suffixes (.member base name) rest).result? := by
  obtain ⟨⟨name', found⟩, hfound, heq⟩ := Option.map_eq_some_iff.mp hmember
  obtain ⟨rfl, rfl⟩ := Prod.mk.inj heq
  rw [suffixes]
  split
  · next name'' rest' hsome =>
    obtain ⟨rfl, rfl⟩ := Prod.mk.inj (Option.some.inj (hfound.symm.trans hsome))
    rw [hcall]
    exact Outcome.result?_widen _ _
  · next hnone =>
    rw [hfound] at hnone
    cases hnone

theorem suffixes_of_call {s rest after : List Char} {name : String} {method : Method}
    (base : Expr) (hmember : (member? s).map (Prod.map id Subtype.val) = some (name, rest))
    (hcall : (emptyCall? rest).map Subtype.val = some after)
    (hmethod : Method.ofName? name = some method) :
    (suffixes base s).result? = (suffixes (.call base method) after).result? := by
  obtain ⟨⟨name', found⟩, hfound, heq⟩ := Option.map_eq_some_iff.mp hmember
  obtain ⟨rfl, rfl⟩ := Prod.mk.inj heq
  obtain ⟨closed, hclosed, rfl⟩ := Option.map_eq_some_iff.mp hcall
  rw [suffixes]
  split
  · next name'' rest' hsome =>
    obtain ⟨rfl, rfl⟩ := Prod.mk.inj (Option.some.inj (hfound.symm.trans hsome))
    simp only [hclosed]
    split
    · next method' heq =>
      obtain rfl := Option.some.inj (hmethod.symm.trans heq)
      exact Outcome.result?_widen _ _
    · next heq => cases hmethod.symm.trans heq
  · next hnone =>
    rw [hfound] at hnone
    cases hnone

theorem suffixes_of_index {s inner after rest : List Char} {key : Expr} (base : Expr)
    (hmember : member? s = none) (hopen : (mark? '[' s).map Subtype.val = some inner)
    (hkey : (chain .disjunction inner).result? = some (key, after))
    (hclose : (mark? ']' after).map Subtype.val = some rest) :
    (suffixes base s).result? = (suffixes (.index base key) rest).result? := by
  obtain ⟨opened, hopened, rfl⟩ := Option.map_eq_some_iff.mp hopen
  obtain ⟨hshort, hchain⟩ := Outcome.exists_of_result? hkey
  obtain ⟨closed, hclosed, rfl⟩ := Option.map_eq_some_iff.mp hclose
  rw [suffixes]
  split
  · next hsome =>
    rw [hmember] at hsome
    cases hsome
  · split
    · next hnone =>
      rw [hopened] at hnone
      cases hnone
    · next inner' hsome =>
      obtain rfl := Option.some.inj (hopened.symm.trans hsome)
      rw [hchain]
      simp only [hclosed]
      exact Outcome.result?_widen _ _

end QueryTemplate.Expr
