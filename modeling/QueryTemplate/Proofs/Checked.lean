import QueryTemplate.Proofs.Faults

/-!
# Checked trees

What a tree that passes `Node.validate` promises about its parts.

* `Node.validate_of_mem_parts`: every part of a checked tree is checked.
* `Node.validate_of_mem_expressions`: so is every expression that a part evaluates itself.
* `Node.parse_of_validate_static`: a placeholder in a checked text can be read, unless the
  mark of a value stands in it.
-/

namespace QueryTemplate.Node

open Outcome

variable {e : Evaluator}

/-! ### The parts of a checked tree -/

theorem validate_membership_eq_ok_iff {m : Membership} :
    (Node.membership m).validate e = .ok () ↔
      (∀ test, m.test = some test → validateExpression e test = .ok ()) ∧
        validateExpression e m.collection = .ok () ∧
        validatePlaceholders m.placeholder = .ok () := by
  have hlist : (validateExpression e m.collection >>= fun _ => validatePlaceholders m.placeholder) =
      .ok () ↔ validateExpression e m.collection = .ok () ∧
        validatePlaceholders m.placeholder = .ok () :=
    bind_eq_ok_iff.trans ⟨fun ⟨_, h, hp⟩ => ⟨h, hp⟩, fun ⟨h, hp⟩ => ⟨(), h, hp⟩⟩
  rw [validate]
  cases htest : m.test with
  | none =>
    rw [← hlist]
    simp
  | some test =>
    rw [← hlist]
    refine bind_eq_ok_iff.trans ⟨fun ⟨_, h, hrest⟩ => ⟨?_, hrest⟩, fun ⟨h, hrest⟩ => ⟨(), ?_, hrest⟩⟩
    · intro test' htest'
      obtain rfl := Option.some.inj htest'
      exact h
    · exact h test rfl

mutual

/-- **Every part of a checked tree is checked.** -/
theorem validate_of_mem_parts : (root : Node) → root.validate e = .ok () →
    ∀ n ∈ root.parts, n.validate e = .ok ()
  | .static text, h, n, hn => by
    obtain rfl := List.mem_singleton.mp hn
    exact h
  | .interpolated text, h, n, hn => by
    obtain rfl := List.mem_singleton.mp hn
    exact h
  | .condition test child, h, n, hn => by
    rcases List.mem_cons.mp hn with rfl | hn
    · exact h
    · obtain ⟨_, -, hchild⟩ := bind_eq_ok_iff.mp h
      exact validate_of_mem_parts child hchild n hn
  | .choice branches fallback, h, n, hn => by
    rcases List.mem_cons.mp hn with rfl | hn
    · exact h
    · obtain ⟨_, hbranches, hfallback⟩ := bind_eq_ok_iff.mp h
      rcases List.mem_append.mp hn with hn | hn
      · exact validate_of_mem_partsBranches branches hbranches n hn
      · exact validate_of_mem_partsFallback fallback hfallback n hn
  | .otherwise child, h, n, hn => by
    rcases List.mem_cons.mp hn with rfl | hn
    · exact h
    · exact validate_of_mem_parts child h n hn
  | .item connector child, h, n, hn => by
    rcases List.mem_cons.mp hn with rfl | hn
    · exact h
    · exact validate_of_mem_parts child h n hn
  | .group connector children, h, n, hn => by
    rcases List.mem_cons.mp hn with rfl | hn
    · exact h
    · exact validate_of_mem_partsAll children h n hn
  | .trim clause child, h, n, hn => by
    rcases List.mem_cons.mp hn with rfl | hn
    · exact h
    · exact validate_of_mem_parts child h n hn
  | .forEach loop child, h, n, hn => by
    rcases List.mem_cons.mp hn with rfl | hn
    · exact h
    · obtain ⟨_, -, hchild⟩ := bind_eq_ok_iff.mp h
      exact validate_of_mem_parts child hchild n hn
  | .membership m, h, n, hn => by
    rcases List.mem_cons.mp hn with rfl | hn
    · exact h
    · obtain ⟨-, -, hplaceholder⟩ := validate_membership_eq_ok_iff.mp h
      obtain rfl := List.mem_singleton.mp hn
      exact hplaceholder
  | .bind name value, h, n, hn => by
    obtain rfl := List.mem_singleton.mp hn
    exact h
  | .sequence children, h, n, hn => by
    rcases List.mem_cons.mp hn with rfl | hn
    · exact h
    · exact validate_of_mem_partsAll children h n hn
  | .empty, h, n, hn => by
    obtain rfl := List.mem_singleton.mp hn
    exact h

theorem validate_of_mem_partsAll : (children : List Node) → validateAll e children = .ok () →
    ∀ n ∈ partsAll children, n.validate e = .ok ()
  | [], h, n, hn => by cases hn
  | child :: rest, h, n, hn => by
    obtain ⟨_, hchild, hrest⟩ := bind_eq_ok_iff.mp h
    rcases List.mem_append.mp hn with hn | hn
    · exact validate_of_mem_parts child hchild n hn
    · exact validate_of_mem_partsAll rest hrest n hn

theorem validate_of_mem_partsBranches : (branches : List (String × Node)) →
    validateBranches e branches = .ok () → ∀ n ∈ partsBranches branches, n.validate e = .ok ()
  | [], h, n, hn => by cases hn
  | (test, child) :: rest, h, n, hn => by
    obtain ⟨_, -, h⟩ := bind_eq_ok_iff.mp h
    obtain ⟨_, hchild, hrest⟩ := bind_eq_ok_iff.mp h
    rcases List.mem_append.mp hn with hn | hn
    · exact validate_of_mem_parts child hchild n hn
    · exact validate_of_mem_partsBranches rest hrest n hn

theorem validate_of_mem_partsFallback : (fallback : Option Node) →
    validateFallback e fallback = .ok () → ∀ n ∈ partsFallback fallback, n.validate e = .ok ()
  | none, h, n, hn => by cases hn
  | some child, h, n, hn => validate_of_mem_parts child h n hn

end

/-! ### What is checked in a part -/

theorem validate_of_mem_tests {branches : List (String × Node)}
    (h : validateBranches e branches = .ok ()) :
    ∀ test ∈ branches.map (·.1), validateExpression e test = .ok () := by
  induction branches with
  | nil => simp
  | cons branch rest ih =>
    obtain ⟨_, htest, h⟩ := bind_eq_ok_iff.mp h
    obtain ⟨_, -, hrest⟩ := bind_eq_ok_iff.mp h
    exact List.forall_mem_cons.mpr ⟨htest, ih hrest⟩

/-- **Every expression that a checked node evaluates itself is checked.** -/
theorem validate_of_mem_expressions {n : Node} (h : n.validate e = .ok ()) :
    ∀ expression ∈ n.expressions, e.validate expression = .ok () := by
  intro expression hmem
  suffices hchecked : validateExpression e expression = .ok () from
    mapError_eq_ok_iff.mp hchecked
  cases n with
  | condition test child =>
    obtain rfl := List.mem_singleton.mp hmem
    exact (bind_eq_ok_iff.mp h).elim fun _ h => h.1
  | choice branches fallback =>
    obtain ⟨_, hbranches, -⟩ := bind_eq_ok_iff.mp h
    exact validate_of_mem_tests hbranches expression hmem
  | forEach loop child =>
    obtain rfl := List.mem_singleton.mp hmem
    exact (bind_eq_ok_iff.mp h).elim fun _ h => h.1
  | membership m =>
    obtain ⟨htest, hcollection, -⟩ := validate_membership_eq_ok_iff.mp h
    rcases List.mem_append.mp hmem with hmem | hmem
    · exact htest expression (Option.mem_toList.mp hmem)
    · obtain rfl := List.mem_singleton.mp hmem
      exact hcollection
  | bind name value =>
    obtain rfl := List.mem_singleton.mp hmem
    exact h
  | _ => cases hmem

/-- **A placeholder in a checked text can be read**, unless the mark of a value stands in
it. -/
theorem parse_of_validate_static {text body : String}
    (h : (Node.static text).validate e = .ok ())
    (hmem : body ∈ Delimiters.placeholder.bodies text)
    (hmark : Text.cut Delimiters.interpolation.opening.toList body.toList = none) :
    ∃ m, Mapping.parse body = .ok m := by
  have hbody : validateBody body = .ok () := forM_eq_ok_iff.mp h body hmem
  rw [validateBody, hmark] at hbody
  obtain ⟨m, hm, -⟩ := bind_eq_ok_iff.mp hbody
  exact ⟨m, hm⟩

end QueryTemplate.Node
