import QueryTemplate.Proofs.Grammar.Step

/-!
# What the parser does with a text

`Expr.Derives part s e rest` says that a part of the grammar takes the expression `e` off the front
of `s` and leaves `rest`, with one rule for each way in which the parser goes on.  It leaves open
which way is taken where two of them are possible, so that it says what every result of the parser
looks like and not which result there is.

* `Expr.derives_of_chain`: everything that the parser returns is derived.  The induction follows the
  recursion of the parser, with its measure.
* `Expr.derives_of_parse`: an accepted text, up to the gaps behind it.
-/

namespace QueryTemplate.Expr

open Text (Shorter skipGaps length_skipGaps_le strip?)

/-- The parts of the grammar: the places, and what the parser reads in the middle of one. -/
inductive Part
  | at (p : Place)
  | primary
  /-- Members, calls and indexes behind an expression. -/
  | suffixes (base : Expr)
  /-- Operators of a level and their operands behind an expression. -/
  | links (l : Level) (left : Expr)

def Part.From (P : Expr → Prop) : Part → Prop
  | .at _ => True
  | .primary => True
  | .suffixes base => P base
  | .links _ left => P left

/-- The part takes the expression off the front of a text and leaves the rest. -/
inductive Derives : Part → List Char → Expr → List Char → Prop
  | atom {s e rest} (h : (atom s).result? = some (e, rest)) : Derives .primary s e rest
  | parens {s e after} {tail : Shorter after.length}
      (h : Derives (.at (.level .disjunction)) s e after) (hclose : mark? ')' after = some tail) :
      Derives .primary ('(' :: s) e tail.val
  | bare {base s} : Derives (.suffixes base) s base s
  | member {base s name e rest} {named : Shorter s.length}
      (hmember : member? s = some (name, named))
      (h : Derives (.suffixes (.member base name)) named.val e rest) :
      Derives (.suffixes base) s e rest
  | call {base s name method e rest} {named : Shorter s.length} {called : Shorter named.val.length}
      (hmember : member? s = some (name, named)) (hcall : emptyCall? named.val = some called)
      (h : Derives (.suffixes (.call base method)) called.val e rest) :
      Derives (.suffixes base) s e rest
  | index {base s key after e rest} {inner : Shorter s.length} {closed : Shorter after.length}
      (hopen : mark? '[' s = some inner)
      (hkey : Derives (.at (.level .disjunction)) inner.val key after)
      (hclose : mark? ']' after = some closed)
      (h : Derives (.suffixes (.index base key)) closed.val e rest) :
      Derives (.suffixes base) s e rest
  | postfixed {s base mid e rest} (h : Derives .primary (skipGaps s) base mid)
      (hmore : Derives (.suffixes base) mid e rest) : Derives (.at .postfixed) s e rest
  | not {s e rest} {found : Shorter (skipGaps s).length}
      (hsign : negation? (skipGaps s) = some found)
      (h : Derives (.at .unary) found.val e rest) : Derives (.at .unary) s (.not e) rest
  | negate {s e rest} {found : Shorter (skipGaps s).length}
      (hsign : strip? ['-'] (skipGaps s) = some found)
      (h : Derives (.at .unary) found.val e rest) : Derives (.at .unary) s (.negate e) rest
  | unsigned {s e rest} (h : Derives (.at .postfixed) (skipGaps s) e rest) :
      Derives (.at .unary) s e rest
  | single {l left s} : Derives (.links l left) s left s
  | link {l left s op right mid e rest} {found : Shorter (skipGaps s).length}
      (hop : operator? l (skipGaps s) = some (op, found))
      (h : Derives (.at l.operands) found.val right mid)
      (hmore : Derives (.links l (.binary op left right)) mid e rest) :
      Derives (.links l left) s e rest
  | chain {l s left mid e rest} (h : Derives (.at l.operands) s left mid)
      (hmore : Derives (.links l left) mid e rest) : Derives (.at (.level l)) s e rest

mutual

theorem derives_of_primary (s : List Char) {e : Expr} {rest : List Char}
    (h : (primary s).result? = some (e, rest)) : Derives .primary s e rest := by
  by_cases hparen : ∃ inside, s = '(' :: inside
  · obtain ⟨inside, hs⟩ := hparen
    have hlength : s.length = inside.length + 1 := by rw [hs, List.length_cons]
    rw [hs, primary] at h
    split at h
    · next e' after hafter hchain =>
      have hinside := derives_of_chain .disjunction inside (by rw [hchain]; rfl)
      split at h
      · next tail htail =>
        obtain ⟨rfl, rfl⟩ := Prod.mk.inj (Option.some.inj h)
        exact hs ▸ .parens hinside htail
      · cases h
    · cases h
    · cases h
  · rw [primary_of_atom fun t ht => hparen ⟨t, ht⟩] at h
    exact .atom h
termination_by 20 * s.length
decreasing_by simp only [Level.rank]; omega

theorem derives_of_suffixes (base : Expr) (s : List Char) {e : Expr} {rest : List Char}
    (h : (suffixes base s).result? = some (e, rest)) : Derives (.suffixes base) s e rest := by
  have hbare : (Outcome.ok base s (Nat.lt_succ_self _)).result? = some (e, rest) →
      Derives (.suffixes base) s e rest := by
    intro h
    obtain ⟨rfl, rfl⟩ := Prod.mk.inj (Option.some.inj h)
    exact .bare
  rw [suffixes] at h
  split at h
  · next name named hmember =>
    have hnamed := named.property
    split at h
    · next called hcalled =>
      have hshort := called.property
      split at h
      · next method hmethod =>
        rw [Outcome.result?_widen] at h
        exact .call hmember hcalled (derives_of_suffixes (.call base method) called.val h)
      · cases h
    · rw [Outcome.result?_widen] at h
      exact .member hmember (derives_of_suffixes (.member base name) named.val h)
  · split at h
    · exact hbare h
    · next inner hinner =>
      have hopened := inner.property
      -- An index that cannot be read is left where it stands, and so is the base.
      split at h
      · next key after hafter hchain =>
        have hkey := derives_of_chain .disjunction inner.val (by rw [hchain]; rfl)
        split at h
        · next closed hclosed =>
          have hshort := closed.property
          rw [Outcome.result?_widen] at h
          exact .index hinner hkey hclosed (derives_of_suffixes (.index base key) closed.val h)
        · exact hbare h
      · exact hbare h
      · exact hbare h
termination_by 20 * s.length
decreasing_by
  · omega
  · omega
  · simp only [Level.rank]; omega
  · omega

theorem derives_of_postfixed (s : List Char) {e : Expr} {rest : List Char}
    (h : (postfixed s).result? = some (e, rest)) : Derives (.at .postfixed) s e rest := by
  rw [postfixed_result] at h
  obtain ⟨⟨base, after⟩, hprimary, h⟩ := Option.bind_eq_some_iff.mp h
  obtain ⟨hshort, -⟩ := Outcome.exists_of_result? hprimary
  have hs := length_skipGaps_le s
  exact .postfixed (derives_of_primary (skipGaps s) hprimary) (derives_of_suffixes base after h)
termination_by 20 * s.length + 1

theorem derives_of_unary (s : List Char) {e : Expr} {rest : List Char}
    (h : (unary s).result? = some (e, rest)) : Derives (.at .unary) s e rest := by
  have hs := length_skipGaps_le s
  rw [unary] at h
  split at h
  · next found hfound =>
    have hshort := found.property
    split at h
    · next e' after hafter hunary =>
      obtain ⟨rfl, rfl⟩ := Prod.mk.inj (Option.some.inj h)
      exact .not hfound (derives_of_unary found.val (by rw [hunary]; rfl))
    · cases h
    · cases h
  · split at h
    · next found hfound =>
      have hshort := found.property
      split at h
      · next e' after hafter hunary =>
        obtain ⟨rfl, rfl⟩ := Prod.mk.inj (Option.some.inj h)
        exact .negate hfound (derives_of_unary found.val (by rw [hunary]; rfl))
      · cases h
      · cases h
    · rw [Outcome.result?_widen] at h
      exact .unsigned (derives_of_postfixed (skipGaps s) h)
termination_by 20 * s.length + 2

theorem derives_of_operand : (l : Level) → (s : List Char) → {e : Expr} → {rest : List Char} →
    (operand l s).result? = some (e, rest) → Derives (.at l.operands) s e rest
  | .disjunction, s, _, _, h => derives_of_chain .conjunction s (by rwa [operand] at h)
  | .conjunction, s, _, _, h => derives_of_chain .equality s (by rwa [operand] at h)
  | .equality, s, _, _, h => derives_of_chain .relational s (by rwa [operand] at h)
  | .relational, s, _, _, h => derives_of_chain .additive s (by rwa [operand] at h)
  | .additive, s, _, _, h => derives_of_chain .multiplicative s (by rwa [operand] at h)
  | .multiplicative, s, _, _, h => derives_of_unary s (by rwa [operand] at h)
termination_by l s => 20 * s.length + l.rank - 1
decreasing_by all_goals simp only [Level.rank]; omega

theorem derives_of_links (l : Level) (left : Expr) (s : List Char) {e : Expr} {rest : List Char}
    (h : (links l left s).result? = some (e, rest)) : Derives (.links l left) s e rest := by
  have hs := length_skipGaps_le s
  have hrank := l.rank_le
  rw [links] at h
  split at h
  · obtain ⟨rfl, rfl⟩ := Prod.mk.inj (Option.some.inj h)
    exact .single
  · next op found hfound =>
    have hshort := found.property
    split at h
    · next right after hafter hoperand =>
      have hright := derives_of_operand l found.val (by rw [hoperand]; rfl)
      rw [Outcome.result?_widen] at h
      exact .link hfound hright (derives_of_links l (.binary op left right) after h)
    · cases h
    · cases h
termination_by 20 * s.length

theorem derives_of_chain (l : Level) (s : List Char) {e : Expr} {rest : List Char}
    (h : (chain l s).result? = some (e, rest)) : Derives (.at (.level l)) s e rest := by
  rw [chain_result] at h
  obtain ⟨⟨left, after⟩, hoperand, h⟩ := Option.bind_eq_some_iff.mp h
  obtain ⟨hshort, -⟩ := Outcome.exists_of_result? hoperand
  have := l.le_rank
  exact .chain (derives_of_operand l s hoperand) (derives_of_links l left after h)
termination_by 20 * s.length + l.rank

end

/-- **What an accepted text is derived from**, up to the gaps behind it. -/
theorem derives_of_parse {text : String} {e : Expr} (h : parse text = .ok e) :
    ∃ rest, Derives (.at (.level .disjunction)) text.toList e rest ∧ skipGaps rest = [] := by
  simp only [parse] at h
  split at h
  · next e' rest hrest hchain =>
    split at h
    · next hempty =>
      obtain rfl := Except.ok.inj h
      exact ⟨rest, derives_of_chain .disjunction text.toList (by rw [hchain]; rfl),
        List.isEmpty_iff.mp hempty⟩
    · cases h
  · cases h
  · cases h

end QueryTemplate.Expr
