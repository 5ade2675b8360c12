import QueryTemplate.Proofs.Compose
import QueryTemplate.Proofs.Parts

/-!
# Where the errors of a composition come from

A composition fails in one of the parts of its tree: at an expression that the part
evaluates itself (`Node.expressions`), or in the text of the part.

* `Node.faultIn_of_compose`: an error of a tree is a fault of one of its parts.
* `Draft.exists_body_of_addStatic_eq_error`: an error in a static text is one of the text of
  a placeholder, or of the expression in it.
-/

namespace QueryTemplate

open Outcome

/-- The expressions that a node evaluates itself. -/
def Node.expressions : Node → List String
  | .condition test _ => [test]
  | .choice branches _ => branches.map (·.1)
  | .forEach loop _ => [loop.collection]
  | .membership m => m.test.toList ++ [m.collection]
  | .bind _ value => [value]
  | _ => []

/-- The error may come from evaluating the expression: for its value, as a test, or as a
collection. -/
inductive Configuration.Fails (c : Configuration) (expression : String) : Error → Prop
  | value {scope e} (h : c.evaluator.value expression scope = .error e) :
      Fails c expression (.expression e)
  | test {scope e} (h : c.evaluator.holds expression scope = .error e) :
      Fails c expression (.expression e)
  | collection {scope nullable e} (h : c.evaluator.entries expression scope nullable = .error e) :
      Fails c expression (.ofCollection e)

/-- The error may come from the node itself. -/
inductive Node.Fault (c : Configuration) : Node → Error → Prop
  | expression {n expression e} (hmem : expression ∈ n.expressions) (h : c.Fails expression e) :
      Fault c n e
  | static {text e} {d : Draft} (h : d.addStatic c text = .error e) : Fault c (.static text) e
  | interpolated {text e} {d : Draft} (h : d.addInterpolated c text = .error e) :
      Fault c (.interpolated text) e

def FaultIn (c : Configuration) (nodes : List Node) (e : Error) : Prop :=
  ∃ n ∈ nodes, n.Fault c e

theorem FaultIn.mono {c : Configuration} {nodes nodes' : List Node} {e : Error}
    (h : FaultIn c nodes e) (hsub : nodes ⊆ nodes') : FaultIn c nodes' e := by
  obtain ⟨n, hmem, hfault⟩ := h
  exact ⟨n, hsub hmem, hfault⟩

theorem FaultIn.of_expression {c : Configuration} {n : Node} {below : List Node} {e : Error}
    {expression : String} (hmem : expression ∈ n.expressions) (h : c.Fails expression e) :
    FaultIn c (n :: below) e :=
  ⟨n, List.mem_cons_self, .expression hmem h⟩

/-! ### Texts -/

theorem Delimiters.mem_bodies_iff {d : Delimiters} {text body : String} :
    body ∈ d.bodies text ↔ ∃ s, .span s ∈ d.pieces text ∧ body = String.ofList s := by
  rw [bodies, List.mem_filterMap]
  constructor
  · rintro ⟨piece, hmem, hbody⟩
    cases piece with
    | literal text => cases hbody
    | span s => exact ⟨s, hmem, (Option.some.inj hbody).symm⟩
  · rintro ⟨s, hmem, rfl⟩
    exact ⟨.span s, hmem, rfl⟩

section Texts

variable {c : Configuration} {scope : Scope} {e : Error}

/-- Fixing a value fails only at the expression of the mapping. -/
theorem Draft.exists_of_capture_eq_error {m : Mapping} (h : Draft.capture c scope m = .error e) :
    ∃ expression, m.expression = some expression ∧ c.Fails expression e := by
  rw [capture] at h
  split at h
  · cases h
  · split at h
    · next expression hexpression =>
      rcases bind_eq_error_iff.mp h with h | ⟨_, -, h⟩
      · obtain ⟨e', he', rfl⟩ := mapError_eq_error_iff.mp h
        exact ⟨expression, hexpression, .value he'⟩
      · cases h
    · split at h
      split at h <;> cases h

/-- The error is one of the text of a placeholder, or of the expression in it. -/
def Draft.BodyFault (c : Configuration) (body : String) (e : Error) : Prop :=
  Mapping.parse body = .error e ∨ ∃ parsed expression, Mapping.parse body = .ok parsed ∧
    parsed.expression = some expression ∧ c.Fails expression e

theorem Draft.exists_span_of_collect_eq_error {pieces : List Piece} {mappings : List Mapping}
    (h : Draft.collect c scope mappings pieces = .error e) :
    ∃ body, .span body ∈ pieces ∧ BodyFault c (String.ofList body) e := by
  induction pieces generalizing mappings with
  | nil => cases h
  | cons piece rest ih =>
    cases piece with
    | literal text =>
      rcases bind_eq_error_iff.mp h with h | ⟨_, -, h⟩
      · obtain ⟨body, hmem, hfault⟩ := ih h
        exact ⟨body, List.mem_cons_of_mem _ hmem, hfault⟩
      · cases h
    | span body =>
      rcases bind_eq_error_iff.mp h with h | ⟨parsed, hparsed, h⟩
      · exact ⟨body, List.mem_cons_self, .inl h⟩
      · rcases bind_eq_error_iff.mp h with h | ⟨mapping, -, h⟩
        · obtain ⟨expression, hexpression, hfails⟩ := exists_of_capture_eq_error h
          exact ⟨body, List.mem_cons_self, .inr ⟨parsed, expression, hparsed, hexpression, hfails⟩⟩
        · rcases bind_eq_error_iff.mp h with h | ⟨_, -, h⟩
          · obtain ⟨body, hmem, hfault⟩ := ih h
            exact ⟨body, List.mem_cons_of_mem _ hmem, hfault⟩
          · cases h

/-- **An error in a static text** is one of the text of a placeholder, or of the expression
in it. -/
theorem Draft.exists_body_of_addStatic_eq_error {text : String} {d : Draft}
    (h : d.addStatic c text = .error e) :
    ∃ body ∈ Delimiters.placeholder.bodies text, BodyFault c body e := by
  rcases bind_eq_error_iff.mp h with h | ⟨_, -, h⟩
  · obtain ⟨body, hmem, hfault⟩ := exists_span_of_collect_eq_error h
    exact ⟨_, Delimiters.mem_bodies_iff.mpr ⟨body, hmem, rfl⟩, hfault⟩
  · cases h

end Texts

/-! ### Loops -/

section Loops

variable {c : Configuration} {child : Draft → Except Error Draft} {e : Error}

theorem Loop.exists_of_rounds_eq_error {loop : Loop} {d : Draft} {entries : Entries}
    (h : loop.rounds child d entries = .error e) : ∃ d', child d' = .error e := by
  induction entries generalizing d with
  | nil => cases h
  | cons entry rest ih =>
    rcases bind_eq_error_iff.mp h with hround | ⟨inner, -, h⟩
    · exact ⟨_, hround⟩
    · rcases bind_eq_error_iff.mp h with hrest | ⟨_, -, h⟩
      · exact ih hrest
      · cases h

/-- A loop fails at its collection or in one of its rounds. -/
theorem Loop.exists_of_render_eq_error {loop : Loop} {d : Draft}
    (h : loop.render c child d = .error e) :
    c.Fails loop.collection e ∨ ∃ d', child d' = .error e := by
  rcases bind_eq_error_iff.mp h with hentries | ⟨entries, -, h⟩
  · obtain ⟨e', he', rfl⟩ := mapError_eq_error_iff.mp hentries
    exact .inl (.collection he')
  · rcases entries with _ | _ | ⟨entry, rest⟩
    · cases h
    · cases h
    · rcases bind_eq_error_iff.mp h with hrounds | ⟨_, -, h⟩
      · exact .inr (exists_of_rounds_eq_error hrounds)
      · cases h

end Loops

/-! ### Trees -/

section Trees

variable {c : Configuration} {e : Error}

theorem Configuration.fails_or_of_test {test : String} {d : Draft} {α : Type}
    {next : Bool → Except Error α}
    (h : (c.evaluator.holds test d.scope.lookup).mapError Error.expression >>= next = .error e) :
    c.Fails test e ∨ ∃ answer, next answer = .error e := by
  rcases bind_eq_error_iff.mp h with htest | ⟨answer, -, h⟩
  · obtain ⟨e', he', rfl⟩ := mapError_eq_error_iff.mp htest
    exact .inl (.test he')
  · exact .inr ⟨answer, h⟩

/-- A membership fails at its test, at its collection or in the text of its placeholder. -/
theorem Membership.faultIn_of_compose {m : Membership} {d : Draft}
    (h : m.compose c d = .error e) : FaultIn c (Node.membership m).parts e := by
  have hlist : ∀ {next : Draft × Option String → Except Error Draft},
      (∀ r, next r ≠ .error e) →
      m.loop.render c (Draft.addStatic c m.placeholder) d >>= next = .error e →
      FaultIn c (Node.membership m).parts e := by
    intro next hnext h
    rcases bind_eq_error_iff.mp h with h | ⟨r, -, h⟩
    · rcases Loop.exists_of_render_eq_error h with hfails | ⟨d', hd'⟩
      · exact .of_expression (List.mem_append_right _ List.mem_cons_self) hfails
      · exact ⟨_, List.mem_cons_of_mem _ List.mem_cons_self, .static hd'⟩
    · exact absurd h (hnext r)
  rw [Membership.compose] at h
  cases htest : m.test with
  | none =>
    simp only [htest] at h
    refine hlist ?_ h
    rintro ⟨after, _ | list⟩ h <;> cases h
  | some test =>
    simp only [htest] at h
    rcases Configuration.fails_or_of_test h with hfails | ⟨answer, h⟩
    · exact .of_expression (by simp [Node.expressions, htest]) hfails
    · cases answer with
      | true =>
        refine hlist ?_ h
        rintro ⟨after, _ | list⟩ h <;> cases h
      | false => cases h

mutual

/-- **An error of a tree is a fault of one of its parts.** -/
theorem Node.faultIn_of_compose : (n : Node) → ∀ {d : Draft}, n.compose c d = .error e →
    FaultIn c n.parts e
  | .static text, d, h => ⟨_, List.mem_cons_self, .static h⟩
  | .interpolated text, d, h => ⟨_, List.mem_cons_self, .interpolated h⟩
  | .condition test child, d, h => by
    rcases Configuration.fails_or_of_test h with hfails | ⟨answer, h⟩
    · exact .of_expression List.mem_cons_self hfails
    · cases answer with
      | true => exact (faultIn_of_compose child h).mono (List.subset_cons_self _ _)
      | false => cases h
  | .choice branches fallback, d, h => by
    have hbelow : ∀ {nodes}, nodes ⊆ Node.partsBranches branches ++ Node.partsFallback fallback →
        FaultIn c nodes e → FaultIn c (Node.choice branches fallback).parts e :=
      fun hsub hfault => hfault.mono (List.subset_cons_of_subset _ hsub)
    rcases bind_eq_error_iff.mp h with h | ⟨found, -, h⟩
    · rcases faultIn_of_composeFirst branches h with ⟨test, hmem, hfails⟩ | hfault
      · exact .of_expression hmem hfails
      · exact hbelow (List.subset_append_left _ _) hfault
    · cases found with
      | some after => cases h
      | none =>
        exact hbelow (List.subset_append_right _ _) (faultIn_of_composeFallback fallback h)
  | .otherwise child, d, h =>
    (faultIn_of_compose child h).mono (List.subset_cons_self _ _)
  | .item connector child, d, h => by
    rcases bind_eq_error_iff.mp h with h | ⟨_, -, h⟩
    · exact (faultIn_of_compose child h).mono (List.subset_cons_self _ _)
    · cases h
  | .group connector children, d, h => by
    rcases bind_eq_error_iff.mp h with h | ⟨_, -, h⟩
    · exact (faultIn_of_composeAll children h).mono (List.subset_cons_self _ _)
    · cases h
  | .trim clause child, d, h => by
    rcases bind_eq_error_iff.mp h with h | ⟨inner, -, h⟩
    · exact (faultIn_of_compose child h).mono (List.subset_cons_self _ _)
    · split at h <;> cases h
  | .forEach loop child, d, h => by
    rcases bind_eq_error_iff.mp h with h | ⟨⟨after, text⟩, -, h⟩
    · rcases Loop.exists_of_render_eq_error h with hfails | ⟨d', hd'⟩
      · exact .of_expression List.mem_cons_self hfails
      · exact (faultIn_of_compose child hd').mono (List.subset_cons_self _ _)
    · cases text <;> cases h
  | .membership m, d, h => Membership.faultIn_of_compose h
  | .bind name value, d, h => by
    rcases bind_eq_error_iff.mp h with h | ⟨_, -, h⟩
    · obtain ⟨e', he', rfl⟩ := mapError_eq_error_iff.mp h
      exact .of_expression List.mem_cons_self (.value he')
    · cases h
  | .sequence children, d, h =>
    (faultIn_of_composeAll children h).mono (List.subset_cons_self _ _)
  | .empty, d, h => by cases h

theorem Node.faultIn_of_composeAll : (children : List Node) → ∀ {d : Draft},
    Node.composeAll c children d = .error e → FaultIn c (Node.partsAll children) e
  | [], d, h => by cases h
  | child :: rest, d, h => by
    rcases bind_eq_error_iff.mp h with h | ⟨_, -, h⟩
    · exact (faultIn_of_compose child h).mono (List.subset_append_left _ _)
    · exact (faultIn_of_composeAll rest h).mono (List.subset_append_right _ _)

theorem Node.faultIn_of_composeFirst : (branches : List (String × Node)) → ∀ {d : Draft},
    Node.composeFirst c branches d = .error e →
      (∃ test ∈ branches.map (·.1), c.Fails test e) ∨ FaultIn c (Node.partsBranches branches) e
  | [], d, h => by cases h
  | (test, child) :: rest, d, h => by
    rcases Configuration.fails_or_of_test h with hfails | ⟨answer, h⟩
    · exact .inl ⟨test, List.mem_cons_self, hfails⟩
    · cases answer with
      | true =>
        rcases bind_eq_error_iff.mp h with h | ⟨_, -, h⟩
        · exact .inr ((faultIn_of_compose child h).mono (List.subset_append_left _ _))
        · cases h
      | false =>
        rcases faultIn_of_composeFirst rest h with ⟨test', hmem, hfails⟩ | hfault
        · exact .inl ⟨test', List.mem_cons_of_mem _ hmem, hfails⟩
        · exact .inr (hfault.mono (List.subset_append_right _ _))

theorem Node.faultIn_of_composeFallback : (fallback : Option Node) → ∀ {d : Draft},
    Node.composeFallback c fallback d = .error e → FaultIn c (Node.partsFallback fallback) e
  | none, d, h => by cases h
  | some child, d, h => faultIn_of_compose child h

end

end Trees

end QueryTemplate
