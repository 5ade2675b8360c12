import QueryTemplate.Proofs.Run.Basic
import QueryTemplate.Proofs.Shrinking.Tokens

/-!
# Templates with single spaces

Whether the blanks of a statement are shrunk does not matter until it is composed.

* `Node.compose_shrinks`: a tree is composed in the same way with and without shrinking.
* `Node.render_shrinks`: shrinking makes the statement without it a text with single spaces, and
  changes nothing else.
* `Node.lexemes_render_shrinks`: what becomes of the lexemes of a statement, and when they stay.
-/

namespace QueryTemplate

variable {c : Configuration}

/-! ### Composing -/

theorem Draft.collect_shrinks (b : Bool) (scope : Scope) (pieces : List Piece) :
    ∀ mappings, Draft.collect { c with shrinks := b } scope mappings pieces =
      Draft.collect c scope mappings pieces := by
  induction pieces with
  | nil => exact fun _ => rfl
  | cons piece rest ih =>
    intro mappings
    cases piece with
    | literal text => simp only [Draft.collect, ih]
    | span body =>
      simp only [Draft.collect, ih]
      rfl

theorem Draft.addStatic_shrinks (b : Bool) (text : String) (d : Draft) :
    d.addStatic { c with shrinks := b } text = d.addStatic c text := by
  simp only [Draft.addStatic, Draft.collect_shrinks]

theorem Draft.addInterpolated_shrinks (b : Bool) (text : String) (d : Draft) :
    d.addInterpolated { c with shrinks := b } text = d.addInterpolated c text := by
  simp only [Draft.addInterpolated, Draft.addStatic_shrinks]
  rfl

theorem Membership.compose_shrinks (b : Bool) (m : Membership) (d : Draft) :
    m.compose { c with shrinks := b } d = m.compose c d := by
  have hchild : Draft.addStatic { c with shrinks := b } m.placeholder =
      Draft.addStatic c m.placeholder :=
    funext (Draft.addStatic_shrinks b m.placeholder)
  rw [Membership.compose, hchild]
  rfl

namespace Node

mutual

/-- **A tree is composed in the same way** whether its blanks will be shrunk or not. -/
theorem compose_shrinks (b : Bool) : (n : Node) → ∀ d : Draft,
    n.compose { c with shrinks := b } d = n.compose c d
  | .static text, d => Draft.addStatic_shrinks b text d
  | .interpolated text, d => Draft.addInterpolated_shrinks b text d
  | .condition test child, d => by simp only [compose, compose_shrinks b child]
  | .choice branches fallback, d => by
    simp only [compose, composeFirst_shrinks b branches, composeFallback_shrinks b fallback]
  | .otherwise child, d => compose_shrinks b child d
  | .item connector child, d => by simp only [compose, compose_shrinks b child]
  | .group connector children, d => by simp only [compose, composeAll_shrinks b children]
  | .trim clause child, d => by simp only [compose, compose_shrinks b child]
  | .forEach loop child, d => by
    simp only [compose, compose_shrinks b child]
    rfl
  | .membership m, d => m.compose_shrinks b d
  | .bind _ _, _ => rfl
  | .sequence children, d => composeAll_shrinks b children d
  | .empty, _ => rfl

theorem composeAll_shrinks (b : Bool) : (children : List Node) → ∀ d : Draft,
    composeAll { c with shrinks := b } children d = composeAll c children d
  | [], _ => rfl
  | child :: rest, d => by
    simp only [composeAll, compose_shrinks b child, composeAll_shrinks b rest]

theorem composeFirst_shrinks (b : Bool) : (branches : List (String × Node)) → ∀ d : Draft,
    composeFirst { c with shrinks := b } branches d = composeFirst c branches d
  | [], _ => rfl
  | (test, child) :: rest, d => by
    simp only [composeFirst, compose_shrinks b child, composeFirst_shrinks b rest]

theorem composeFallback_shrinks (b : Bool) : (fallback : Option Node) → ∀ d : Draft,
    composeFallback { c with shrinks := b } fallback d = composeFallback c fallback d
  | none, _ => rfl
  | some child, d => compose_shrinks b child d

end

/-! ### Statements -/

/-- Shrinking takes blanks from the text of a statement and nothing else; an error is the same
error. -/
theorem render_shrinks (n : Node) (parameter : Value) :
    n.render { c with shrinks := true } parameter =
      (n.render { c with shrinks := false } parameter).map fun out =>
        { out with sql := Text.collapsed out.sql } := by
  have hstart : ∀ b, start { c with shrinks := b } parameter = start c parameter := fun _ => rfl
  simp only [render, compose_shrinks, hstart]
  cases n.compose c (start c parameter) <;> rfl

/-- **Shrinking keeps the lexemes in front of the first line comment**, with single spaces in
the literals.  So a statement keeps its lexemes exactly when its literals have single spaces
already and no lexeme stands behind a line comment. -/
theorem lexemes_render_shrinks (c : Configuration) (n : Node) (parameter : Value) :
    (∀ e, n.render { c with shrinks := false } parameter = .error e →
      n.render { c with shrinks := true } parameter = .error e) ∧
    ∀ plain, n.render { c with shrinks := false } parameter = .ok plain →
      ∃ out, n.render { c with shrinks := true } parameter = .ok out ∧
        out.mappings = plain.mappings ∧ out.bindings = plain.bindings ∧
        Sql.lexemes out.sql.toList =
          ((Sql.beforeLine (Sql.tokens plain.sql.toList)).filter
            Sql.Token.isLexeme).map Sql.Token.shrunk ∧
        (Sql.lexemes out.sql.toList = Sql.lexemes plain.sql.toList ↔
          (∀ text, .quoted text ∈ Sql.tokens plain.sql.toList → Text.IsShrunk text) ∧
            ∀ t ∈ Sql.fromLine (Sql.tokens plain.sql.toList), t.isLexeme = false) := by
  constructor
  · intro e he
    rw [render_shrinks, he]
    rfl
  · intro plain hplain
    refine ⟨{ plain with sql := Text.collapsed plain.sql }, ?_, rfl, rfl,
      Sql.lexemes_collapsed plain.sql, Sql.lexemes_collapsed_eq_iff plain.sql⟩
    rw [render_shrinks, hplain]
    rfl

/-- Comments and literals with a space in them: blanks are shrunk and all lexemes stay. -/
theorem lexemes_render_shrinks_comments :
    let n : Node := .sequence
      [.static "select 'a b'  as \"c\"\n/* all\n rows */\nfrom t ", .static "-- \t the end\n"]
    ∃ plain out, n.render {} .null = .ok plain ∧ n.render { shrinks := true } .null = .ok out ∧
      out.sql = "select 'a b' as \"c\" /* all rows */ from t -- the end" ∧
      Sql.lexemes out.sql.toList = Sql.lexemes plain.sql.toList := by
  intro n
  have hplain : n.render {} .null =
      .ok ⟨"select 'a b'  as \"c\"\n/* all\n rows */\nfrom t -- \t the end\n", [], []⟩ := by
    cbv
  obtain ⟨out, hout, -, -, hlexemes, -⟩ := (lexemes_render_shrinks {} n .null).2 _ hplain
  have hsql : n.render { shrinks := true } .null =
      .ok ⟨"select 'a b' as \"c\" /* all rows */ from t -- the end", [], []⟩ := by
    cbv
  obtain rfl := Except.ok.inj (hout.symm.trans hsql)
  exact ⟨_, _, hplain, hout, rfl, hlexemes.trans (by decide +kernel)⟩

/-- Shrinking changes a literal with two spaces, and moves the next line into a comment. -/
theorem exists_lexemes_ne_of_shrinks :
    (∃ plain out, (static "select 'a  b'").render {} .null = .ok plain ∧
      (static "select 'a  b'").render { shrinks := true } .null = .ok out ∧
      Sql.lexemes out.sql.toList ≠ Sql.lexemes plain.sql.toList) ∧
    ∃ plain out, (static "select a -- all\nfrom t").render {} .null = .ok plain ∧
      (static "select a -- all\nfrom t").render { shrinks := true } .null = .ok out ∧
      Sql.lexemes out.sql.toList ≠ Sql.lexemes plain.sql.toList := by
  constructor
  · exact ⟨⟨"select 'a  b'", [], []⟩, ⟨"select 'a b'", [], []⟩, by cbv, by cbv,
      by decide +kernel⟩
  · exact ⟨⟨"select a -- all\nfrom t", [], []⟩, ⟨"select a -- all from t", [], []⟩, by cbv,
      by cbv, by decide +kernel⟩

end Node

end QueryTemplate
