import QueryTemplate.Proofs.Run.Basic

/-!
# The root scope during a run

A run changes the scope of its draft by bindings alone, and scopes that are opened
inside it never reach the root.  So what a name stands for at the root changes only
where the name is bound at the root.

* `Run.scope_eq`: the scope at the end is the scope at the start with other bindings.
* `Run.lookup_root_eq`: a name keeps its meaning at the root over a run that does not
  bind it there.
* `Run.lookup_root_of_placeholder`: from a placeholder on, a name keeps its meaning at
  the root as long as it is not bound there.
-/

namespace QueryTemplate

/-! ### The root of a scope -/

namespace Scope

theorem root_eq_self {s : Scope} (h : s.isRoot = true) : s.root = s := by
  obtain ⟨parameter, databaseId, bindings, enclosing⟩ := s
  obtain rfl : enclosing = [] := List.isEmpty_iff.mp h
  rfl

@[simp] theorem root_nested (s : Scope) : s.nested.root = s.root := by
  simp [root, nested, frames]

theorem root_withBindings {s : Scope} (h : s.isRoot = false) (bindings : Members) :
    { s with bindings }.root = s.root := by
  obtain ⟨parameter, databaseId, own, enclosing⟩ := s
  cases enclosing with
  | nil => cases h
  | cons m rest => simp [root, frames]

theorem lookup_root_bind {s : Scope} {name other : String} {value : Value}
    (h : s.isRoot = true → other ≠ name) :
    (s.bind name value).root.lookup other = s.root.lookup other := by
  cases hs : s.isRoot with
  | false => rw [bind, root_withBindings hs]
  | true =>
    have hb : (s.bind name value).isRoot = true := hs
    rw [root_eq_self hs, root_eq_self hb, lookup, lookup]
    simp only [bind, frames, findIn?, List.findSome?_cons, Members.get?_insert, if_neg (h hs)]
    rfl

end Scope

@[simp] theorem Loop.isRoot_enter (loop : Loop) (d : Draft) (entry : Value × Value) :
    (loop.enter d entry).scope.isRoot = false := by
  rw [Loop.enter]
  cases loop.index <;> cases loop.item <;> rfl

@[simp] theorem Loop.root_enter (loop : Loop) (d : Draft) (entry : Value × Value) :
    (loop.enter d entry).scope.root = d.scope.root := by
  have hnested : ∀ bindings, { d.scope.nested with bindings }.root = d.scope.root := by
    intro bindings
    rw [Scope.root_withBindings (Scope.isRoot_nested _), Scope.root_nested]
  rw [Loop.enter]
  cases loop.index <;> cases loop.item <;> exact hnested _

/-! ### Runs -/

/-- The name is bound at the root somewhere in the log. -/
def Log.BindsAtRoot (log : Log) (name : String) : Prop :=
  ∃ s : Scope, s.isRoot = true ∧ .bound s name ∈ log

theorem Log.BindsAtRoot.mono {log log' : Log} {name : String} (h : log.BindsAtRoot name)
    (hs : ∀ e ∈ log, e ∈ log') : log'.BindsAtRoot name := by
  obtain ⟨s, hroot, hmem⟩ := h
  exact ⟨s, hroot, hs _ hmem⟩

namespace Run

variable {c : Configuration} {job : Job} {d d' : Draft} {log : Log}

theorem scope_eq (h : Run c job d d' log) :
    d'.scope = { d.scope with bindings := d'.scope.bindings } := by
  induction h with
  | static h =>
    obtain ⟨mappings, sql, -, rfl⟩ := Draft.addStatic_eq_ok_iff.mp h
    rfl
  | interpolated hw h =>
    obtain ⟨mappings, sql, -, rfl⟩ := Draft.addStatic_eq_ok_iff.mp h
    rfl
  | condition h ih => exact ih
  | choice h ih => exact ih
  | otherwise h ih => exact ih
  | item h ih => rfl
  | group h ih => rfl
  | wrapped h ht ih => rfl
  | dropped h ht ih => rfl
  | forEach h ih => exact ih
  | list ht h ih => exact ih
  | listed ht hb h ih => exact ih
  | unlisted ht hb => rfl
  | bind hv => rfl
  | sequence h ih => exact ih
  | empty => rfl
  | nil => rfl
  | cons h hr ih ihr => rw [ihr, ih]
  | chosen hb h ih => exact ih
  | passed hb h ih => exact ih
  | defaulted h ih => exact ih
  | unchosen => rfl
  | iterate he h ih => exact ih
  | idle he h => rfl
  | done => rfl
  | round h hr ih ihr => exact ihr

/-- A run in a nested scope leaves the root as it is. -/
theorem root_eq_of_nested (h : Run c job d d' log) (hd : d.scope.isRoot = false) :
    d'.scope.root = d.scope.root := by
  rw [h.scope_eq, Scope.root_withBindings hd]

theorem root_eq_of_inner (h : Run c job d.nested d' log) : d'.scope.root = d.scope.root := by
  rw [h.root_eq_of_nested (Draft.isRoot_nested d)]
  exact Scope.root_nested d.scope

/-- **A name keeps its meaning at the root over a run that does not bind it there.** -/
theorem lookup_root_eq (h : Run c job d d' log) {name : String}
    (hname : ¬ log.BindsAtRoot name) :
    d'.scope.root.lookup name = d.scope.root.lookup name := by
  induction h with
  | static h =>
    obtain ⟨mappings, sql, -, rfl⟩ := Draft.addStatic_eq_ok_iff.mp h
    rfl
  | interpolated hw h =>
    obtain ⟨mappings, sql, -, rfl⟩ := Draft.addStatic_eq_ok_iff.mp h
    rfl
  | condition h ih => exact ih hname
  | choice h ih => exact ih hname
  | otherwise h ih => exact ih hname
  | item h ih => rfl
  | group h ih => rfl
  | wrapped h ht ih => rfl
  | dropped h ht ih => rfl
  | forEach h ih => exact ih hname
  | list ht h ih => exact ih hname
  | listed ht hb h ih =>
    exact ih fun hb => hname (hb.mono fun e he => List.mem_cons_of_mem _ he)
  | unlisted ht hb => rfl
  | @bind name' expression value d hv =>
    refine Scope.lookup_root_bind fun hroot heq => hname ⟨d.scope, hroot, ?_⟩
    rw [heq]
    exact List.mem_cons_self
  | sequence h ih => exact ih hname
  | empty => rfl
  | nil => rfl
  | cons h hr ih ihr =>
    rw [ihr fun hb => hname (hb.mono fun e he => List.mem_append_right _ he)]
    exact ih fun hb => hname (hb.mono fun e he => List.mem_append_left _ he)
  | chosen hb h ih =>
    exact ih fun hb => hname (hb.mono fun e he => List.mem_cons_of_mem _ he)
  | passed hb h ih =>
    exact ih fun hb => hname (hb.mono fun e he => List.mem_cons_of_mem _ he)
  | defaulted h ih => exact ih hname
  | unchosen => rfl
  | iterate he h ih =>
    exact ih fun hb => hname (hb.mono fun e he => List.mem_cons_of_mem _ he)
  | idle he h => rfl
  | done => rfl
  | round h hr ih ihr => exact ihr fun hb => hname (hb.mono fun e he => List.mem_append_right _ he)

end Run

/-! ### From a placeholder to the end -/

namespace Log

theorem split_append {log log' before after : Log} {e : Event}
    (h : log ++ log' = before ++ e :: after) :
    (∃ rest, log = before ++ e :: rest ∧ after = rest ++ log') ∨
      ∃ front, log' = front ++ e :: after := by
  rcases List.append_eq_append_iff.mp h with ⟨front, -, hlog'⟩ | ⟨rest, hlog, hrest⟩
  · exact .inr ⟨front, hlog'⟩
  · cases rest with
    | nil => exact .inr ⟨[], hrest.symm⟩
    | cons e' rest =>
      obtain ⟨rfl, hafter⟩ := List.cons.inj hrest
      exact .inl ⟨rest, hlog, hafter⟩

theorem split_cons {log before after : Log} {e first : Event}
    (h : first :: log = before ++ e :: after) (hne : first ≠ e) :
    ∃ front, log = front ++ e :: after := by
  cases before with
  | nil => exact absurd (List.cons.inj h).1 hne
  | cons first' front => exact ⟨front, (List.cons.inj h).2⟩

/-- The placeholders of a text stand in the scope of the text. -/
theorem scope_of_reading {scope s : Scope} {text body : String}
    (h : .placeholder s body ∈ reading scope text) : s = scope := by
  obtain ⟨piece, -, hp⟩ := List.mem_map.mp h
  cases piece with
  | literal text => cases hp
  | span body => exact (Event.placeholder.inj hp).1.symm

theorem placeholder_not_mem_inlining {scope s : Scope} {text body : String} :
    .placeholder s body ∉ inlining scope text := by
  intro h
  obtain ⟨expression, -, he⟩ := List.mem_map.mp h
  cases he

end Log

/-- **From a placeholder on, a name keeps its meaning at the root** as long as it is not
bound there. -/
theorem Run.lookup_root_of_placeholder {c : Configuration} {job : Job} {d d' : Draft} {log : Log}
    (h : Run c job d d' log) {before after : Log} {s : Scope} {body : String}
    (hlog : log = before ++ .placeholder s body :: after) {name : String}
    (hname : ¬ after.BindsAtRoot name) :
    d'.scope.root.lookup name = s.root.lookup name := by
  induction h generalizing before after with
  | @static text d d' h =>
    obtain ⟨mappings, sql, -, rfl⟩ := Draft.addStatic_eq_ok_iff.mp h
    have hmem : .placeholder s body ∈ Log.reading d.scope text := by simp [hlog]
    rw [Log.scope_of_reading hmem]
  | @interpolated text written d d' hw h =>
    obtain ⟨mappings, sql, -, rfl⟩ := Draft.addStatic_eq_ok_iff.mp h
    have hmem : .placeholder s body ∈ Log.inlining d.scope text ++ Log.reading d.scope written := by
      simp [hlog]
    rcases List.mem_append.mp hmem with hmem | hmem
    · exact absurd hmem Log.placeholder_not_mem_inlining
    · rw [Log.scope_of_reading hmem]
  | condition h ih => exact ih hlog hname
  | choice h ih => exact ih hlog hname
  | otherwise h ih => exact ih hlog hname
  | @item connector child d inner log h ih => exact h.root_eq_of_inner ▸ ih hlog hname
  | @group connector children d inner log h ih => exact h.root_eq_of_inner ▸ ih hlog hname
  | @wrapped clause child d inner text log h ht ih => exact h.root_eq_of_inner ▸ ih hlog hname
  | @dropped clause child d inner log h ht ih => exact h.root_eq_of_inner ▸ ih hlog hname
  | forEach h ih => exact ih hlog hname
  | list ht h ih => exact ih hlog hname
  | listed ht hb h ih =>
    obtain ⟨front, hfront⟩ := Log.split_cons hlog (by simp)
    exact ih hfront hname
  | unlisted ht hb =>
    obtain ⟨front, hfront⟩ := Log.split_cons hlog (by simp)
    simp at hfront
  | bind hv =>
    obtain ⟨front, hfront⟩ := Log.split_cons hlog (by simp)
    simp at hfront
  | sequence h ih => exact ih hlog hname
  | empty => simp at hlog
  | nil => simp at hlog
  | cons h hr ih ihr =>
    rcases Log.split_append hlog with ⟨rest, hrest, rfl⟩ | ⟨front, hfront⟩
    · rw [hr.lookup_root_eq fun hb => hname (hb.mono fun e he => List.mem_append_right _ he)]
      exact ih hrest fun hb => hname (hb.mono fun e he => List.mem_append_left _ he)
    · exact ihr hfront hname
  | chosen hb h ih =>
    obtain ⟨front, hfront⟩ := Log.split_cons hlog (by simp)
    exact ih hfront hname
  | passed hb h ih =>
    obtain ⟨front, hfront⟩ := Log.split_cons hlog (by simp)
    exact ih hfront hname
  | defaulted h ih => exact ih hlog hname
  | unchosen => simp at hlog
  | iterate he h ih =>
    obtain ⟨front, hfront⟩ := Log.split_cons hlog (by simp)
    exact ih hfront hname
  | idle he h =>
    obtain ⟨front, hfront⟩ := Log.split_cons hlog (by simp)
    simp at hfront
  | done => simp at hlog
  | @round loop child entry rest parts d inner d' log log' h hr ih ihr =>
    rcases Log.split_append hlog with ⟨rest, hrest, rfl⟩ | ⟨front, hfront⟩
    · rw [hr.lookup_root_eq fun hb => hname (hb.mono fun e he => List.mem_append_right _ he),
        ← ih hrest fun hb => hname (hb.mono fun e he => List.mem_append_left _ he),
        h.root_eq_of_nested (Loop.isRoot_enter loop d entry), Loop.root_enter]
      rfl
    · exact ihr hfront hname

end QueryTemplate
