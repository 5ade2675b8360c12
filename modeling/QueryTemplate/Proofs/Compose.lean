import QueryTemplate.Proofs.Outcome
import QueryTemplate.Template

/-!
# What composing a node amounts to

The nodes whose composition depends on an answer of the evaluator: conditions,
choices, loops and memberships.

* `Node.compose_condition`, `Node.compose_choice_of_holds`,
  `Node.compose_choice_of_not_holds`: what a test decides.
* `Loop.render_eq_ok_iff`, `Node.compose_forEach_eq_ok_iff`,
  `Membership.compose_eq_ok_iff`: what a loop writes, and when it writes nothing.
* `Template.statement_eq`: the statement of a template is that of its composed tree.
-/

namespace QueryTemplate

def Loop.written (loop : Loop) (parts : List String) : String :=
  loop.opening ++ String.intercalate loop.separator parts ++ loop.closing

def Loop.entries (loop : Loop) (c : Configuration) (scope : Scope) :
    Except ExprError (Option Entries) :=
  c.evaluator.entries loop.collection scope.lookup (loop.nullable.getD c.nullable)

/-! ### Texts -/

section Texts

open Outcome

variable {c : Configuration} {scope : Scope}

theorem Draft.addStatic_eq_ok_iff {text : String} {d d' : Draft} :
    d.addStatic c text = .ok d' ↔
      ∃ mappings sql, Draft.collect c d.scope d.mappings (Delimiters.placeholder.pieces text) =
        .ok (mappings, sql) ∧ d' = { d with sql := d.sql ++ sql, mappings } := by
  refine bind_eq_ok_iff.trans ?_
  constructor
  · rintro ⟨⟨mappings, sql⟩, hc, hd⟩
    exact ⟨mappings, sql, hc, (pure_eq_ok_iff.mp hd).symm⟩
  · rintro ⟨mappings, sql, hc, rfl⟩
    exact ⟨(mappings, sql), hc, rfl⟩

theorem Draft.collect_literal_eq_ok_iff {text : List Char} {rest : List Piece}
    {mappings after : List Mapping} {sql : String} :
    Draft.collect c scope mappings (.literal text :: rest) = .ok (after, sql) ↔
      ∃ tail, Draft.collect c scope mappings rest = .ok (after, tail) ∧
        sql = String.ofList text ++ tail := by
  refine bind_eq_ok_iff.trans ?_
  constructor
  · rintro ⟨⟨after', tail⟩, hc, hd⟩
    obtain ⟨rfl, rfl⟩ := Prod.mk.inj (pure_eq_ok_iff.mp hd)
    exact ⟨tail, hc, rfl⟩
  · rintro ⟨tail, hc, rfl⟩
    exact ⟨(after, tail), hc, rfl⟩

theorem Draft.collect_span_eq_ok_iff {body : List Char} {rest : List Piece}
    {mappings after : List Mapping} {sql : String} :
    Draft.collect c scope mappings (.span body :: rest) = .ok (after, sql) ↔
      ∃ parsed mapping tail, Mapping.parse (String.ofList body) = .ok parsed ∧
        Draft.capture c scope parsed = .ok mapping ∧
        Draft.collect c scope (mappings ++ [mapping]) rest = .ok (after, tail) ∧
        sql = c.marker (mappings.length + 1) ++ tail := by
  simp only [Draft.collect, bind_eq_ok_iff]
  constructor
  · rintro ⟨parsed, hp, mapping, hm, ⟨after', tail⟩, hc, hd⟩
    obtain ⟨rfl, rfl⟩ := Prod.mk.inj (pure_eq_ok_iff.mp hd)
    exact ⟨parsed, mapping, tail, hp, hm, hc, rfl⟩
  · rintro ⟨parsed, mapping, tail, hp, hm, hc, rfl⟩
    exact ⟨parsed, hp, mapping, hm, (after, tail), hc, rfl⟩

theorem Draft.addStatic_placeholder {text body : String} {d : Draft} {parsed m : Mapping}
    (hpieces : Delimiters.placeholder.pieces text = [.literal [], .span body.toList])
    (hparse : Mapping.parse body = .ok parsed) (hm : Draft.capture c d.scope parsed = .ok m) :
    d.addStatic c text = .ok { d with
      sql := d.sql ++ c.marker (d.mappings.length + 1), mappings := d.mappings ++ [m] } := by
  rw [← String.ofList_toList (s := body)] at hparse
  have hspan : Draft.collect c d.scope d.mappings [.span body.toList] =
      .ok (d.mappings ++ [m], c.marker (d.mappings.length + 1)) :=
    Draft.collect_span_eq_ok_iff.mpr ⟨parsed, m, "", hparse, hm, rfl, by simp⟩
  refine Draft.addStatic_eq_ok_iff.mpr ⟨_, _, ?_, rfl⟩
  rw [hpieces]
  exact Draft.collect_literal_eq_ok_iff.mpr ⟨_, hspan, by simp⟩

end Texts

/-! ### Tests and loops -/

section Equations

open Outcome

variable {c : Configuration} {d : Draft} {test : String} {child : Node}
  {rest : List (String × Node)} {fallback : Option Node}

theorem Node.compose_choice_of_holds
    (hb : c.evaluator.holds test d.scope.lookup = .ok true) :
    (Node.choice ((test, child) :: rest) fallback).compose c d = child.compose c d := by
  simp only [Node.compose, Node.composeFirst, hb]
  cases child.compose c d <;> rfl

theorem Node.compose_choice_of_not_holds
    (hb : c.evaluator.holds test d.scope.lookup = .ok false) :
    (Node.choice ((test, child) :: rest) fallback).compose c d =
      (Node.choice rest fallback).compose c d := by
  simp only [Node.compose, Node.composeFirst, hb]
  rfl

/-- A condition is a choice with one branch. -/
theorem Node.compose_condition :
    (Node.condition test child).compose c d = (Node.choice [(test, child)] none).compose c d := by
  cases hb : c.evaluator.holds test d.scope.lookup with
  | error e => simp only [Node.compose, Node.composeFirst, hb]; rfl
  | ok b =>
    cases b with
    | true =>
      rw [compose_choice_of_holds hb]
      simp only [Node.compose, hb]
      rfl
    | false =>
      rw [compose_choice_of_not_holds hb]
      simp only [Node.compose, hb]
      rfl

theorem Membership.compose_of_holds {m : Membership}
    (ht : ∀ test, m.test = some test → c.evaluator.holds test d.scope.lookup = .ok true) :
    m.compose c d = (m.loop.render c (Draft.addStatic c m.placeholder) d).map fun r =>
      r.2.elim r.1 fun t => r.1.append (" in " ++ t) := by
  rw [Membership.compose]
  cases hm : m.test with
  | none => rcases m.loop.render c _ d with e | ⟨after, _ | text⟩ <;> rfl
  | some test =>
    simp only [ht test hm]
    rcases m.loop.render c _ d with e | ⟨after, _ | text⟩ <;> rfl

theorem Membership.compose_eq_ok_iff {m : Membership} {d' : Draft}
    (ht : ∀ test, m.test = some test → c.evaluator.holds test d.scope.lookup = .ok true) :
    m.compose c d = .ok d' ↔
      ∃ after text, m.loop.render c (Draft.addStatic c m.placeholder) d = .ok (after, text) ∧
        d' = text.elim after fun t => after.append (" in " ++ t) := by
  rw [Membership.compose_of_holds ht, map_eq_ok_iff]
  constructor
  · rintro ⟨⟨after, text⟩, hr, rfl⟩
    exact ⟨after, text, hr, rfl⟩
  · rintro ⟨after, text, hr, rfl⟩
    exact ⟨(after, text), hr, rfl⟩

theorem Membership.compose_of_not_holds {m : Membership} (ht : m.test = some test)
    (hb : c.evaluator.holds test d.scope.lookup = .ok false) : m.compose c d = .ok d := by
  simp only [Membership.compose, ht, hb]
  rfl

theorem Node.compose_forEach {loop : Loop} :
    (Node.forEach loop child).compose c d =
      (loop.render c (child.compose c) d).map fun r => r.2.elim r.1 fun t => r.1.append t := by
  rw [Node.compose]
  rcases loop.render c (child.compose c) d with e | ⟨after, _ | text⟩ <;> rfl

theorem Node.compose_forEach_eq_ok_iff {loop : Loop} {d' : Draft} :
    (Node.forEach loop child).compose c d = .ok d' ↔
      ∃ after text, loop.render c (child.compose c) d = .ok (after, text) ∧
        d' = text.elim after fun t => after.append t := by
  rw [Node.compose_forEach, map_eq_ok_iff]
  constructor
  · rintro ⟨⟨after, text⟩, hr, rfl⟩
    exact ⟨after, text, hr, rfl⟩
  · rintro ⟨after, text, hr, rfl⟩
    exact ⟨(after, text), hr, rfl⟩

@[simp] theorem Loop.enter_sql (loop : Loop) (entry : Value × Value) :
    (loop.enter d entry).sql = "" := by
  rw [Loop.enter]
  cases loop.index <;> cases loop.item <;> rfl

@[simp] theorem Loop.enter_mappings (loop : Loop) (entry : Value × Value) :
    (loop.enter d entry).mappings = d.mappings := by
  rw [Loop.enter]
  cases loop.index <;> cases loop.item <;> rfl

/-- The rounds of a loop write beside the draft that the loop is in. -/
theorem Loop.rounds_frame {loop : Loop} {child : Draft → Except Error Draft} {entries : Entries}
    {parts : List String} {d d' : Draft} (h : loop.rounds child d entries = .ok (d', parts)) :
    d'.scope = d.scope ∧ d'.sql = d.sql := by
  induction entries generalizing d parts with
  | nil =>
    obtain ⟨rfl, -⟩ := Prod.mk.inj (Except.ok.inj h)
    exact ⟨rfl, rfl⟩
  | cons entry rest ih =>
    obtain ⟨inner, -, h⟩ := bind_eq_ok_iff.mp h
    obtain ⟨⟨after, more⟩, hrest, h⟩ := bind_eq_ok_iff.mp h
    obtain ⟨rfl, -⟩ := Prod.mk.inj (pure_eq_ok_iff.mp h)
    exact ih (d := d.resume inner) hrest

theorem Loop.render_of_entries {loop : Loop} {child : Draft → Except Error Draft}
    {entry : Value × Value} {rest : Entries}
    (he : loop.entries c d.scope = .ok (some (entry :: rest))) :
    loop.render c child d = (loop.rounds child d (entry :: rest)).map fun r =>
      (r.1, some (loop.written r.2)) := by
  have hrender : loop.render c child d = loop.rounds child d (entry :: rest) >>= fun r =>
      pure (r.1, some (loop.written r.2)) := by
    rw [Loop.entries] at he
    simp only [Loop.render, he]
    rfl
  rw [hrender]
  cases loop.rounds child d (entry :: rest) <;> rfl

theorem Loop.render_eq_ok_iff {loop : Loop} {child : Draft → Except Error Draft} {after : Draft}
    {text : Option String} :
    loop.render c child d = .ok (after, text) ↔
      (∃ entries, loop.entries c d.scope = .ok entries ∧ entries.getD [] = [] ∧
        after = d ∧ text = none) ∨
      ∃ entry rest parts, loop.entries c d.scope = .ok (some (entry :: rest)) ∧
        loop.rounds child d (entry :: rest) = .ok (after, parts) ∧
        text = some (loop.written parts) := by
  simp only [Loop.render, Loop.entries, bind_eq_ok_iff, mapError_eq_ok_iff]
  constructor
  · rintro ⟨entries, he, h⟩
    rcases entries with _ | _ | ⟨entry, rest⟩
    · obtain ⟨rfl, rfl⟩ := Prod.mk.inj (pure_eq_ok_iff.mp h)
      exact .inl ⟨none, he, rfl, rfl, rfl⟩
    · obtain ⟨rfl, rfl⟩ := Prod.mk.inj (pure_eq_ok_iff.mp h)
      exact .inl ⟨some [], he, rfl, rfl, rfl⟩
    · obtain ⟨⟨after', parts⟩, hr, hd⟩ := bind_eq_ok_iff.mp h
      obtain ⟨rfl, rfl⟩ := Prod.mk.inj (pure_eq_ok_iff.mp hd)
      exact .inr ⟨entry, rest, parts, he, hr, rfl⟩
  · rintro (⟨entries, he, hn, rfl, rfl⟩ | ⟨entry, rest, parts, he, hr, rfl⟩)
    · refine ⟨entries, he, ?_⟩
      rcases entries with _ | _ | ⟨entry, rest⟩
      · rfl
      · rfl
      · cases hn
    · exact ⟨some (entry :: rest), he, bind_eq_ok_iff.mpr ⟨(after, parts), hr, rfl⟩⟩

end Equations

/-! ### Statements -/

def Composed.statement (c : Configuration) (out : Composed) : Statement where
  sql := out.sql
  mappings := out.mappings
  bindings := out.bindings
  databaseId := c.databaseValue

theorem Template.statement_eq {t : Template} (h : t.fixed = none) (parameter : Value) :
    t.statement parameter =
      (t.root.render t.configuration parameter).map (Composed.statement t.configuration) := by
  rw [Template.statement, h]
  cases t.root.render t.configuration parameter <;> rfl

end QueryTemplate
