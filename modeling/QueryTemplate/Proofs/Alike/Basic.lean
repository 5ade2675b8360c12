import QueryTemplate.Proofs.Run.Basic
import Mathlib.Data.List.Forall2

/-!
# Drafts that are alike

Two runs of one template over different parameters have different values in their
scopes.  Their drafts are alike (`Draft.Alike`) when this is all that tells them apart:
the text is the same, the mappings are the same up to values, and the same names are
bound in the same scopes.

What is added to like drafts without a look at a value leaves them alike, and so do
the captured values of placeholders (`Draft.alike_of_capture`): whether a value is
captured depends on names alone.
-/

namespace QueryTemplate

open Outcome

/-! ### Names in scope -/

def Scope.names (s : Scope) : List (List String) :=
  s.frames.map fun m => m.map (·.1)

theorem Members.isSome_get? (m : Members) (name : String) :
    (Members.get? m name).isSome = (m.map (·.1)).contains name := by
  induction m with
  | nil => rfl
  | cons entry rest ih =>
    obtain ⟨key, value⟩ := entry
    rw [Members.get?] at ih ⊢
    rw [List.lookup_cons, List.map_cons, List.contains_cons, ← ih]
    cases name == key <;> rfl

namespace Scope

theorem isSome_findIn? (frames : List Members) (name : String) :
    (findIn? frames name).isSome =
      (frames.map fun m => m.map (·.1)).any fun keys => keys.contains name := by
  simp [findIn?, List.isSome_findSome?, Members.isSome_get?, Function.comp_def]

variable {s t : Scope}

theorem isRoot_eq_of_names (h : s.names = t.names) : s.isRoot = t.isRoot := by
  have hlength : s.frames.length = t.frames.length := by
    simpa [names] using congrArg List.length h
  cases hs : s.enclosing <;> cases ht : t.enclosing <;> simp_all [frames, isRoot]

theorem isSome_scoped?_eq_of_names (h : s.names = t.names) (name : String) :
    (s.scoped? name).isSome = (t.scoped? name).isSome := by
  have hdrop := congrArg List.dropLast h
  rw [names, names, ← List.map_dropLast, ← List.map_dropLast] at hdrop
  rw [scoped?, scoped?, isSome_findIn?, isSome_findIn?, hdrop]

theorem names_nested (h : s.names = t.names) : s.nested.names = t.nested.names := by
  rw [names, names, frames_nested, frames_nested, List.map_cons, List.map_cons]
  exact congrArg _ h

theorem names_bind (h : s.names = t.names) (name : String) (v w : Value) :
    (s.bind name v).names = (t.bind name w).names := by
  obtain ⟨hown, henclosing⟩ := List.cons.inj h
  simp only [names, frames, bind, List.map_cons, Members.keys_insert, hown, henclosing]

end Scope

/-! ### Drafts that are alike -/

/-- The mappings differ in a value that both have at most. -/
def Mapping.Alike (m n : Mapping) : Prop :=
  n = { m with value := n.value } ∧ n.value.isSome = m.value.isSome

theorem Mapping.Alike.refl (m : Mapping) : m.Alike m :=
  ⟨rfl, rfl⟩

/-- The drafts differ in values that are bound in their scopes or fixed with their
mappings at most. -/
structure Draft.Alike (d e : Draft) : Prop where
  sql : d.sql = e.sql
  mappings : List.Forall₂ Mapping.Alike d.mappings e.mappings
  names : d.scope.names = e.scope.names

theorem Draft.alike_of_capture {c : Configuration} {s t : Scope} (hnames : s.names = t.names)
    {parsed m n : Mapping} (h : Draft.capture c s parsed = .ok m)
    (h' : Draft.capture c t parsed = .ok n) : m.Alike n := by
  rw [Draft.capture] at h h'
  rw [← Scope.isRoot_eq_of_names hnames] at h'
  cases hroot : s.isRoot with
  | true =>
    rw [hroot] at h h'
    obtain rfl := Except.ok.inj h
    obtain rfl := Except.ok.inj h'
    exact .refl _
  | false =>
    rw [hroot] at h h'
    cases hexpression : parsed.expression with
    | some expression =>
      rw [hexpression] at h h'
      obtain ⟨v, -, h⟩ := bind_eq_ok_iff.mp h
      obtain ⟨w, -, h'⟩ := bind_eq_ok_iff.mp h'
      obtain rfl := pure_eq_ok_iff.mp h
      obtain rfl := pure_eq_ok_iff.mp h'
      exact ⟨rfl, rfl⟩
    | none =>
      have hscoped := Scope.isSome_scoped?_eq_of_names hnames (Path.splitRoot parsed.property).1
      cases hs : s.scoped? (Path.splitRoot parsed.property).1 with
      | none =>
        have ht : t.scoped? (Path.splitRoot parsed.property).1 = none := by
          simpa [hs] using hscoped.symm
        simp only [hexpression, hs] at h
        simp only [hexpression, ht] at h'
        obtain rfl := Except.ok.inj h
        obtain rfl := Except.ok.inj h'
        exact .refl _
      | some bound =>
        obtain ⟨bound', ht⟩ := Option.isSome_iff_exists.mp (hscoped.symm.trans (by rw [hs]; rfl))
        simp only [hexpression, hs] at h
        simp only [hexpression, ht] at h'
        obtain rfl := Except.ok.inj h
        obtain rfl := Except.ok.inj h'
        exact ⟨rfl, rfl⟩

theorem Draft.alike_of_collect {c : Configuration} {s t : Scope} (hnames : s.names = t.names)
    {pieces : List Piece} {mappings mappings' after after' : List Mapping} {sql sql' : String}
    (hmappings : List.Forall₂ Mapping.Alike mappings mappings')
    (h : Draft.collect c s mappings pieces = .ok (after, sql))
    (h' : Draft.collect c t mappings' pieces = .ok (after', sql')) :
    sql = sql' ∧ List.Forall₂ Mapping.Alike after after' := by
  induction pieces generalizing mappings mappings' sql sql' with
  | nil =>
    obtain ⟨rfl, rfl⟩ := Prod.mk.inj (Except.ok.inj h)
    obtain ⟨rfl, rfl⟩ := Prod.mk.inj (Except.ok.inj h')
    exact ⟨rfl, hmappings⟩
  | cons piece rest ih =>
    cases piece with
    | literal text =>
      obtain ⟨tail, htail, rfl⟩ := Draft.collect_literal_eq_ok_iff.mp h
      obtain ⟨tail', htail', rfl⟩ := Draft.collect_literal_eq_ok_iff.mp h'
      obtain ⟨rfl, hafter⟩ := ih hmappings htail htail'
      exact ⟨rfl, hafter⟩
    | span body =>
      obtain ⟨parsed, m, tail, hparsed, hm, htail, rfl⟩ := Draft.collect_span_eq_ok_iff.mp h
      obtain ⟨parsed', n, tail', hparsed', hn, htail', rfl⟩ := Draft.collect_span_eq_ok_iff.mp h'
      obtain rfl := Except.ok.inj (hparsed.symm.trans hparsed')
      have hmapping : m.Alike n := Draft.alike_of_capture hnames hm hn
      obtain ⟨rfl, hafter⟩ := ih (List.rel_append hmappings (.cons hmapping .nil)) htail htail'
      rw [hmappings.length_eq]
      exact ⟨rfl, hafter⟩

namespace Draft.Alike

variable {c : Configuration} {d e d' e' : Draft}

theorem addStatic {text : String} (h : d.Alike e) (hd : d.addStatic c text = .ok d')
    (he : e.addStatic c text = .ok e') : d'.Alike e' := by
  obtain ⟨mappings, sql, hc, rfl⟩ := Draft.addStatic_eq_ok_iff.mp hd
  obtain ⟨mappings', sql', hc', rfl⟩ := Draft.addStatic_eq_ok_iff.mp he
  obtain ⟨rfl, hmappings⟩ := Draft.alike_of_collect h.names h.mappings hc hc'
  exact ⟨congrArg (· ++ sql) h.sql, hmappings, h.names⟩

theorem nested (h : d.Alike e) : d.nested.Alike e.nested :=
  ⟨rfl, h.mappings, Scope.names_nested h.names⟩

theorem bind (h : d.Alike e) (name : String) (v w : Value) :
    (d.bind name v).Alike (e.bind name w) :=
  ⟨h.sql, h.mappings, Scope.names_bind h.names name v w⟩

theorem resume {inner inner' : Draft} (h : d.Alike e) (hi : inner.Alike inner') :
    (d.resume inner).Alike (e.resume inner') :=
  ⟨h.sql, hi.mappings, h.names⟩

theorem append (h : d.Alike e) (text : String) : (d.append text).Alike (e.append text) :=
  ⟨congrArg (· ++ text) h.sql, h.mappings, h.names⟩

theorem appendClause (h : d.Alike e) (clause : String) :
    (d.appendClause clause).Alike (e.appendClause clause) :=
  ⟨congrArg (fun sql => sql ++ Draft.gap sql ++ clause) h.sql, h.mappings, h.names⟩

theorem enter (h : d.Alike e) (loop : Loop) (entry entry' : Value × Value) :
    (loop.enter d entry).Alike (loop.enter e entry') := by
  rw [Loop.enter, Loop.enter]
  cases loop.index <;> cases loop.item
  · exact h.nested
  · exact h.nested.bind _ _ _
  · exact h.nested.bind _ _ _
  · exact (h.nested.bind _ _ _).bind _ _ _

end Draft.Alike

end QueryTemplate
