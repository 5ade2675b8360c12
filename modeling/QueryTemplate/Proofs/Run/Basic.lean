import QueryTemplate.Proofs.Compose
import QueryTemplate.Proofs.Parts

/-!
# Runs of the composer

`Node.compose` is a function; here the same is told as a relation with one rule for
each way in which a piece of work can end well.  `Run c job d d' log` says that the
job takes the draft `d` to the draft `d'` and meets the events of `log` on the way.

A `Job` is a node, the children of a sequence, the branches of a choice, a loop, or
the rounds of a loop together with the texts that they write.

* `Run.composes`, `Node.compose_eq_ok_iff`: a node has a run from `d` to `d'` exactly
  when the composer takes `d` to `d'`.
* `Node.render_eq_ok_iff`, `Node.Logs.run`: a template is composed exactly when it has a
  run from the start.
-/

namespace QueryTemplate

/-- What the composer meets. -/
inductive Event
  /-- A text that goes into the statement as it stands. -/
  | copied (text : String)
  /-- A placeholder, by its text, and the scope that it stands in. -/
  | placeholder (scope : Scope) (body : String)
  /-- An expression whose value is written into a text. -/
  | inlined (scope : Scope) (expression : String)
  /-- The answer to a test. -/
  | tested (answer : Bool)
  /-- The number of entries of a collection. -/
  | counted (entries : Nat)
  /-- A name that is bound, and the scope that it is bound in. -/
  | bound (scope : Scope) (name : String)

abbrev Log := List Event

def Event.ofPiece (scope : Scope) : Piece → Event
  | .literal text => .copied (String.ofList text)
  | .span body => .placeholder scope (String.ofList body)

namespace Log

def reading (scope : Scope) (text : String) : Log :=
  (Delimiters.placeholder.pieces text).map (Event.ofPiece scope)

def inlining (scope : Scope) (text : String) : Log :=
  (Delimiters.interpolation.bodies text).map (Event.inlined scope)

end Log

inductive Job
  | node (n : Node)
  | all (children : List Node)
  /-- The branches of a choice and its fallback. -/
  | first (branches : List (String × Node)) (fallback : Option Node)
  /-- A loop, with a text in front of what it writes. -/
  | iterate (lead : String) (loop : Loop) (child : Node)
  /-- The rounds of a loop, which write `parts`. -/
  | rounds (loop : Loop) (child : Node) (entries : Entries) (parts : List String)

def Job.parts : Job → List Node
  | .node n => n.parts
  | .all children => Node.partsAll children
  | .first branches fallback => Node.partsBranches branches ++ Node.partsFallback fallback
  | .iterate _ _ child => child.parts
  | .rounds _ child _ _ => child.parts

/-- The job takes one draft to another and meets the events of the log. -/
inductive Run (c : Configuration) : Job → Draft → Draft → Log → Prop
  | static {text d d'} (h : d.addStatic c text = .ok d') :
      Run c (.node (.static text)) d d' (Log.reading d.scope text)
  | interpolated {text written d d'}
      (hw : Delimiters.interpolation.replace (Draft.inlined c d.scope) text = .ok written)
      (h : d.addStatic c written = .ok d') :
      Run c (.node (.interpolated text)) d d'
        (Log.inlining d.scope text ++ Log.reading d.scope written)
  | condition {test child d d' log} (h : Run c (.first [(test, child)] none) d d' log) :
      Run c (.node (.condition test child)) d d' log
  | choice {branches fallback d d' log} (h : Run c (.first branches fallback) d d' log) :
      Run c (.node (.choice branches fallback)) d d' log
  | otherwise {child d d' log} (h : Run c (.node child) d d' log) :
      Run c (.node (.otherwise child)) d d' log
  | item {connector child d inner log} (h : Run c (.node child) d.nested inner log) :
      Run c (.node (.item connector child)) d
        ((d.resume inner).append (connector.itemText inner.sql)) log
  | group {connector children d inner log} (h : Run c (.all children) d.nested inner log) :
      Run c (.node (.group connector children)) d
        ((d.resume inner).append (connector.groupText inner.sql)) log
  | wrapped {clause child d inner text log} (h : Run c (.node child) d.nested inner log)
      (ht : Clause.wrap? clause inner.sql = some text) :
      Run c (.node (.trim clause child)) d ((d.resume inner).appendClause text) log
  | dropped {clause child d inner log} (h : Run c (.node child) d.nested inner log)
      (ht : Clause.wrap? clause inner.sql = none) :
      Run c (.node (.trim clause child)) d (d.resume inner) log
  | forEach {loop child d d' log} (h : Run c (.iterate "" loop child) d d' log) :
      Run c (.node (.forEach loop child)) d d' log
  | list {m d d' log} (ht : m.test = none)
      (h : Run c (.iterate " in " m.loop (.static m.placeholder)) d d' log) :
      Run c (.node (.membership m)) d d' log
  | listed {m test d d' log} (ht : m.test = some test)
      (hb : c.evaluator.holds test d.scope.lookup = .ok true)
      (h : Run c (.iterate " in " m.loop (.static m.placeholder)) d d' log) :
      Run c (.node (.membership m)) d d' (.tested true :: log)
  | unlisted {m test d} (ht : m.test = some test)
      (hb : c.evaluator.holds test d.scope.lookup = .ok false) :
      Run c (.node (.membership m)) d d [.tested false]
  | bind {name expression value d}
      (hv : c.evaluator.value expression d.scope.lookup = .ok value) :
      Run c (.node (.bind name expression)) d (d.bind name value) [.bound d.scope name]
  | sequence {children d d' log} (h : Run c (.all children) d d' log) :
      Run c (.node (.sequence children)) d d' log
  | empty {d} : Run c (.node .empty) d d []
  | nil {d} : Run c (.all []) d d []
  | cons {child rest d mid d' log log'} (h : Run c (.node child) d mid log)
      (hr : Run c (.all rest) mid d' log') :
      Run c (.all (child :: rest)) d d' (log ++ log')
  | chosen {test child rest fallback d d' log}
      (hb : c.evaluator.holds test d.scope.lookup = .ok true)
      (h : Run c (.node child) d d' log) :
      Run c (.first ((test, child) :: rest) fallback) d d' (.tested true :: log)
  | passed {test child rest fallback d d' log}
      (hb : c.evaluator.holds test d.scope.lookup = .ok false)
      (h : Run c (.first rest fallback) d d' log) :
      Run c (.first ((test, child) :: rest) fallback) d d' (.tested false :: log)
  | defaulted {child d d' log} (h : Run c (.node child) d d' log) :
      Run c (.first [] (some child)) d d' log
  | unchosen {d} : Run c (.first [] none) d d []
  | iterate {lead loop child entry rest parts d d' log}
      (he : loop.entries c d.scope = .ok (some (entry :: rest)))
      (h : Run c (.rounds loop child (entry :: rest) parts) d d' log) :
      Run c (.iterate lead loop child) d (d'.append (lead ++ loop.written parts))
        (.counted (rest.length + 1) :: log)
  | idle {lead loop child entries d}
      (he : loop.entries c d.scope = .ok entries) (h : entries.getD [] = []) :
      Run c (.iterate lead loop child) d d [.counted 0]
  | done {loop child d} : Run c (.rounds loop child [] []) d d []
  | round {loop child entry rest parts d inner d' log log'}
      (h : Run c (.node child) (Loop.enter loop d entry) inner log)
      (hr : Run c (.rounds loop child rest parts) (d.resume inner) d' log') :
      Run c (.rounds loop child (entry :: rest)
        (if Text.isAllBlank inner.sql then parts else inner.sql :: parts)) d d' (log ++ log')

def Job.Composes (c : Configuration) : Job → Draft → Draft → Prop
  | .node n, d, d' => n.compose c d = .ok d'
  | .all children, d, d' => Node.composeAll c children d = .ok d'
  | .first branches fallback, d, d' => (Node.choice branches fallback).compose c d = .ok d'
  | .iterate lead loop child, d, d' =>
    ∃ after text, loop.render c (child.compose c) d = .ok (after, text) ∧
      d' = text.elim after fun t => after.append (lead ++ t)
  | .rounds loop child entries parts, d, d' =>
    loop.rounds (child.compose c) d entries = .ok (d', parts)

/-! ### A run ends where the composer ends -/

namespace Run

open Outcome

variable {c : Configuration}

theorem composes {job : Job} {d d' : Draft} {log : Log} (h : Run c job d d' log) :
    job.Composes c d d' := by
  induction h with
  | static h => exact h
  | interpolated hw h =>
    simp only [Job.Composes, Node.compose, Draft.addInterpolated]
    exact bind_eq_ok_iff.mpr ⟨_, hw, h⟩
  | condition h ih =>
    rw [Job.Composes, Node.compose_condition]
    exact ih
  | choice h ih => exact ih
  | otherwise h ih => exact ih
  | item h ih => exact bind_eq_ok_iff.mpr ⟨_, ih, rfl⟩
  | group h ih => exact bind_eq_ok_iff.mpr ⟨_, ih, rfl⟩
  | wrapped h ht ih => exact bind_eq_ok_iff.mpr ⟨_, ih, by rw [ht]; rfl⟩
  | dropped h ht ih => exact bind_eq_ok_iff.mpr ⟨_, ih, by rw [ht]; rfl⟩
  | forEach h ih =>
    obtain ⟨after, text, hr, rfl⟩ := ih
    refine Node.compose_forEach_eq_ok_iff.mpr ⟨after, text, hr, ?_⟩
    simp
  | list ht h ih => exact (Membership.compose_eq_ok_iff (by simp [ht])).mpr ih
  | listed ht hb h ih =>
    refine (Membership.compose_eq_ok_iff fun test htest => ?_).mpr ih
    obtain rfl := Option.some.inj (ht.symm.trans htest)
    exact hb
  | unlisted ht hb => exact Membership.compose_of_not_holds ht hb
  | bind hv => exact bind_eq_ok_iff.mpr ⟨_, mapError_eq_ok_iff.mpr hv, rfl⟩
  | sequence h ih => exact ih
  | empty => rfl
  | nil => rfl
  | cons h hr ih ihr => exact bind_eq_ok_iff.mpr ⟨_, ih, ihr⟩
  | chosen hb h ih => exact (Node.compose_choice_of_holds hb).trans ih
  | passed hb h ih => exact (Node.compose_choice_of_not_holds hb).trans ih
  | defaulted h ih => exact ih
  | unchosen => rfl
  | iterate he h ih =>
    exact ⟨_, _, Loop.render_eq_ok_iff.mpr (.inr ⟨_, _, _, he, ih, rfl⟩), rfl⟩
  | idle he h => exact ⟨_, _, Loop.render_eq_ok_iff.mpr (.inl ⟨_, he, h, rfl, rfl⟩), rfl⟩
  | done => rfl
  | round h hr ih ihr => exact bind_eq_ok_iff.mpr ⟨_, ih, bind_eq_ok_iff.mpr ⟨_, ihr, rfl⟩⟩

/-! ### The composer ends where a run does -/

theorem exists_rounds {loop : Loop} {child : Node}
    (hchild : ∀ {d d' : Draft}, child.compose c d = .ok d' → ∃ log, Run c (.node child) d d' log)
    {entries : Entries} {parts : List String} {d d' : Draft}
    (h : loop.rounds (child.compose c) d entries = .ok (d', parts)) :
    ∃ log, Run c (.rounds loop child entries parts) d d' log := by
  induction entries generalizing d parts with
  | nil =>
    obtain ⟨rfl, rfl⟩ := Prod.mk.inj (Except.ok.inj h)
    exact ⟨_, .done⟩
  | cons entry rest ih =>
    obtain ⟨inner, hinner, h⟩ := bind_eq_ok_iff.mp h
    obtain ⟨⟨after, more⟩, hrest, h⟩ := bind_eq_ok_iff.mp h
    obtain ⟨rfl, rfl⟩ := Prod.mk.inj (pure_eq_ok_iff.mp h)
    obtain ⟨log, hlog⟩ := hchild hinner
    obtain ⟨log', hlog'⟩ := ih hrest
    exact ⟨_, .round hlog hlog'⟩

theorem exists_iterate (lead : String) {loop : Loop} {child : Node}
    (hchild : ∀ {d d' : Draft}, child.compose c d = .ok d' → ∃ log, Run c (.node child) d d' log)
    {d after : Draft} {text : Option String}
    (h : loop.render c (child.compose c) d = .ok (after, text)) :
    ∃ log, Run c (.iterate lead loop child) d (text.elim after fun t => after.append (lead ++ t))
      log := by
  rcases Loop.render_eq_ok_iff.mp h with
    ⟨entries, he, hn, rfl, rfl⟩ | ⟨entry, rest, parts, he, hr, rfl⟩
  · exact ⟨_, .idle he hn⟩
  · obtain ⟨log, hlog⟩ := exists_rounds hchild hr
    exact ⟨_, .iterate he hlog⟩

theorem exists_membership {m : Membership} {d d' : Draft} (h : m.compose c d = .ok d') :
    ∃ log, Run c (.node (.membership m)) d d' log := by
  have hlist : (∀ test, m.test = some test →
      c.evaluator.holds test d.scope.lookup = .ok true) →
      ∃ log, Run c (.iterate " in " m.loop (.static m.placeholder)) d d' log := by
    intro ht
    obtain ⟨after, text, hr, rfl⟩ := (Membership.compose_eq_ok_iff ht).mp h
    exact exists_iterate " in " (fun h => ⟨_, .static h⟩) hr
  cases ht : m.test with
  | none =>
    obtain ⟨log, hlog⟩ := hlist (by simp [ht])
    exact ⟨log, .list ht hlog⟩
  | some test =>
    cases hb : c.evaluator.holds test d.scope.lookup with
    | error e =>
      simp only [Membership.compose, ht, hb] at h
      cases h
    | ok b =>
      cases b with
      | true =>
        obtain ⟨log, hlog⟩ := hlist (by simp [ht, hb])
        exact ⟨_, .listed ht hb hlog⟩
      | false =>
        rw [Membership.compose_of_not_holds ht hb] at h
        obtain rfl := Except.ok.inj h
        exact ⟨_, .unlisted ht hb⟩

mutual

theorem exists_node : (n : Node) → ∀ {d d' : Draft}, n.compose c d = .ok d' →
    ∃ log, Run c (.node n) d d' log
  | .static text, d, d', h => ⟨_, .static h⟩
  | .interpolated text, d, d', h => by
    obtain ⟨written, hw, h⟩ := bind_eq_ok_iff.mp h
    exact ⟨_, .interpolated hw h⟩
  | .condition test child, d, d', h => by
    rw [Node.compose_condition] at h
    cases hb : c.evaluator.holds test d.scope.lookup with
    | error e =>
      simp only [Node.compose, Node.composeFirst, hb] at h
      cases h
    | ok b =>
      cases b with
      | true =>
        rw [Node.compose_choice_of_holds hb] at h
        obtain ⟨log, hlog⟩ := exists_node child h
        exact ⟨_, .condition (.chosen hb hlog)⟩
      | false =>
        rw [Node.compose_choice_of_not_holds hb] at h
        obtain rfl := Except.ok.inj h
        exact ⟨_, .condition (.passed hb .unchosen)⟩
  | .choice branches fallback, d, d', h => by
    obtain ⟨log, hlog⟩ := exists_first branches fallback (fun h => exists_fallback fallback h) h
    exact ⟨log, .choice hlog⟩
  | .otherwise child, d, d', h => by
    obtain ⟨log, hlog⟩ := exists_node child h
    exact ⟨log, .otherwise hlog⟩
  | .item connector child, d, d', h => by
    obtain ⟨inner, hinner, h⟩ := bind_eq_ok_iff.mp h
    obtain ⟨log, hlog⟩ := exists_node child hinner
    obtain rfl := pure_eq_ok_iff.mp h
    exact ⟨log, .item hlog⟩
  | .group connector children, d, d', h => by
    obtain ⟨inner, hinner, h⟩ := bind_eq_ok_iff.mp h
    obtain ⟨log, hlog⟩ := exists_all children hinner
    obtain rfl := pure_eq_ok_iff.mp h
    exact ⟨log, .group hlog⟩
  | .trim clause child, d, d', h => by
    obtain ⟨inner, hinner, h⟩ := bind_eq_ok_iff.mp h
    obtain ⟨log, hlog⟩ := exists_node child hinner
    cases ht : clause.wrap? inner.sql with
    | some text =>
      rw [ht] at h
      obtain rfl := pure_eq_ok_iff.mp h
      exact ⟨log, .wrapped hlog ht⟩
    | none =>
      rw [ht] at h
      obtain rfl := pure_eq_ok_iff.mp h
      exact ⟨log, .dropped hlog ht⟩
  | .forEach loop child, d, d', h => by
    obtain ⟨after, text, hr, rfl⟩ := Node.compose_forEach_eq_ok_iff.mp h
    obtain ⟨log, hlog⟩ := exists_iterate "" (fun h => exists_node child h) hr
    simp only [String.empty_append] at hlog
    exact ⟨log, .forEach hlog⟩
  | .membership m, d, d', h => exists_membership h
  | .bind name expression, d, d', h => by
    obtain ⟨value, hv, h⟩ := bind_eq_ok_iff.mp h
    obtain rfl := pure_eq_ok_iff.mp h
    exact ⟨_, .bind (mapError_eq_ok_iff.mp hv)⟩
  | .sequence children, d, d', h => by
    obtain ⟨log, hlog⟩ := exists_all children h
    exact ⟨log, .sequence hlog⟩
  | .empty, d, d', h => by
    obtain rfl := Except.ok.inj h
    exact ⟨_, .empty⟩

theorem exists_all : (children : List Node) → ∀ {d d' : Draft},
    Node.composeAll c children d = .ok d' → ∃ log, Run c (.all children) d d' log
  | [], d, d', h => by
    obtain rfl := Except.ok.inj h
    exact ⟨_, .nil⟩
  | child :: rest, d, d', h => by
    obtain ⟨mid, hmid, h⟩ := bind_eq_ok_iff.mp h
    obtain ⟨log, hlog⟩ := exists_node child hmid
    obtain ⟨log', hlog'⟩ := exists_all rest h
    exact ⟨_, .cons hlog hlog'⟩

theorem exists_first : (branches : List (String × Node)) → (fallback : Option Node) →
    (∀ {d d' : Draft}, Node.composeFallback c fallback d = .ok d' →
      ∃ log, Run c (.first [] fallback) d d' log) →
    ∀ {d d' : Draft}, (Node.choice branches fallback).compose c d = .ok d' →
      ∃ log, Run c (.first branches fallback) d d' log
  | [], fallback, hf, d, d', h => hf h
  | (test, child) :: rest, fallback, hf, d, d', h => by
    cases hb : c.evaluator.holds test d.scope.lookup with
    | error e =>
      simp only [Node.compose, Node.composeFirst, hb] at h
      cases h
    | ok b =>
      cases b with
      | true =>
        rw [Node.compose_choice_of_holds hb] at h
        obtain ⟨log, hlog⟩ := exists_node child h
        exact ⟨_, .chosen hb hlog⟩
      | false =>
        rw [Node.compose_choice_of_not_holds hb] at h
        obtain ⟨log, hlog⟩ := exists_first rest fallback hf h
        exact ⟨_, .passed hb hlog⟩

theorem exists_fallback : (fallback : Option Node) → ∀ {d d' : Draft},
    Node.composeFallback c fallback d = .ok d' → ∃ log, Run c (.first [] fallback) d d' log
  | none, d, d', h => by
    obtain rfl := Except.ok.inj h
    exact ⟨_, .unchosen⟩
  | some child, d, d', h => by
    obtain ⟨log, hlog⟩ := exists_node child h
    exact ⟨log, .defaulted hlog⟩

end

end Run

/-- **A node is composed exactly when it has a run.** -/
theorem Node.compose_eq_ok_iff {c : Configuration} {n : Node} {d d' : Draft} :
    n.compose c d = .ok d' ↔ ∃ log, Run c (.node n) d d' log :=
  ⟨Run.exists_node n, fun ⟨_, h⟩ => h.composes⟩

/-! ### Runs of templates -/

/-- The log belongs to composing a tree over a parameter. -/
def Node.Logs (c : Configuration) (root : Node) (parameter : Value) (log : Log) : Prop :=
  ∃ d, Run c (.node root) (Node.start c parameter) d log

def Draft.composed (c : Configuration) (d : Draft) : Composed where
  sql := if c.shrinks then Text.collapsed d.sql else d.sql
  mappings := d.mappings
  bindings := d.scope.bindings

theorem Node.render_eq_ok_iff {c : Configuration} {root : Node} {parameter : Value}
    {out : Composed} :
    root.render c parameter = .ok out ↔
      ∃ d, root.compose c (Node.start c parameter) = .ok d ∧ out = d.composed c := by
  refine Outcome.bind_eq_ok_iff.trans ?_
  constructor
  · rintro ⟨d, hd, hout⟩
    exact ⟨d, hd, (Outcome.pure_eq_ok_iff.mp hout).symm⟩
  · rintro ⟨d, hd, rfl⟩
    exact ⟨d, hd, rfl⟩

/-- A template that is composed has a log. -/
theorem Node.exists_logs {c : Configuration} {root : Node} {parameter : Value} {out : Composed}
    (h : root.render c parameter = .ok out) : ∃ log, root.Logs c parameter log := by
  obtain ⟨d, hd, -⟩ := render_eq_ok_iff.mp h
  obtain ⟨log, hlog⟩ := compose_eq_ok_iff.mp hd
  exact ⟨log, d, hlog⟩

theorem Node.Logs.run {c : Configuration} {root : Node} {parameter : Value} {out : Composed}
    {log : Log} (hlog : root.Logs c parameter log) (h : root.render c parameter = .ok out) :
    ∃ d, Run c (.node root) (Node.start c parameter) d log ∧ out = d.composed c := by
  obtain ⟨d, hd, rfl⟩ := render_eq_ok_iff.mp h
  obtain ⟨d', hrun⟩ := hlog
  obtain rfl := Except.ok.inj (hd.symm.trans hrun.composes)
  exact ⟨d, hrun, rfl⟩

end QueryTemplate
