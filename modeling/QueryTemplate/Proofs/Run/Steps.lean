import QueryTemplate.Proofs.Run.Mappings
import QueryTemplate.Proofs.Static

/-!
# Compositions inside others

While a job is composed, other jobs are composed on the way: the child of a node, each node of
a sequence, each round of a loop.  `Composition.Step` has one rule for each of them, and
`Composition.Inside` goes on from step to step, so that it says of any job in a tree where and
when it is composed.

* `Composition.Step.runs`, `Composition.Inside.runs`: what has a run inside has one outside.
* `Composition.Inside.mappings`: the mappings of what was composed inside stay in front of
  those that come after.
* `Template.mappings_of_inside`: so they do in the statement of a template.
-/

namespace QueryTemplate

structure Composition where
  job : Job
  start : Draft
  finish : Draft

namespace Composition

def Runs (c : Configuration) (x : Composition) : Prop :=
  ∃ log, Run c x.job x.start x.finish log

/-- The first composition is done as one step of the second. -/
inductive Step (c : Configuration) : Composition → Composition → Prop
  | condition {test child d d'} :
      Step c ⟨.first [(test, child)] none, d, d'⟩ ⟨.node (.condition test child), d, d'⟩
  | choice {branches fallback d d'} :
      Step c ⟨.first branches fallback, d, d'⟩ ⟨.node (.choice branches fallback), d, d'⟩
  | otherwise {child d d'} : Step c ⟨.node child, d, d'⟩ ⟨.node (.otherwise child), d, d'⟩
  | item {connector child d inner} : Step c ⟨.node child, d.nested, inner⟩
      ⟨.node (.item connector child), d,
        (d.resume inner).append (connector.itemText inner.sql)⟩
  | group {connector children d inner} : Step c ⟨.all children, d.nested, inner⟩
      ⟨.node (.group connector children), d,
        (d.resume inner).append (connector.groupText inner.sql)⟩
  | wrapped {clause child d inner text} (ht : Clause.wrap? clause inner.sql = some text) :
      Step c ⟨.node child, d.nested, inner⟩
        ⟨.node (.trim clause child), d, (d.resume inner).appendClause text⟩
  | dropped {clause child d inner} (ht : Clause.wrap? clause inner.sql = none) :
      Step c ⟨.node child, d.nested, inner⟩ ⟨.node (.trim clause child), d, d.resume inner⟩
  | forEach {loop child d d'} :
      Step c ⟨.iterate "" loop child, d, d'⟩ ⟨.node (.forEach loop child), d, d'⟩
  | list {m d d'} (ht : m.test = none) :
      Step c ⟨.iterate " in " m.loop (.static m.placeholder), d, d'⟩
        ⟨.node (.membership m), d, d'⟩
  | listed {m test d d'} (ht : m.test = some test)
      (hb : c.evaluator.holds test d.scope.lookup = .ok true) :
      Step c ⟨.iterate " in " m.loop (.static m.placeholder), d, d'⟩
        ⟨.node (.membership m), d, d'⟩
  | sequence {children d d'} : Step c ⟨.all children, d, d'⟩ ⟨.node (.sequence children), d, d'⟩
  | head {child rest d mid d' log} (hr : Run c (.all rest) mid d' log) :
      Step c ⟨.node child, d, mid⟩ ⟨.all (child :: rest), d, d'⟩
  | tail {child rest d mid d' log} (h : Run c (.node child) d mid log) :
      Step c ⟨.all rest, mid, d'⟩ ⟨.all (child :: rest), d, d'⟩
  | chosen {test child rest fallback d d'}
      (hb : c.evaluator.holds test d.scope.lookup = .ok true) :
      Step c ⟨.node child, d, d'⟩ ⟨.first ((test, child) :: rest) fallback, d, d'⟩
  | passed {test child rest fallback d d'}
      (hb : c.evaluator.holds test d.scope.lookup = .ok false) :
      Step c ⟨.first rest fallback, d, d'⟩ ⟨.first ((test, child) :: rest) fallback, d, d'⟩
  | defaulted {child d d'} : Step c ⟨.node child, d, d'⟩ ⟨.first [] (some child), d, d'⟩
  | iterate {lead loop child entry rest parts d d'}
      (he : loop.entries c d.scope = .ok (some (entry :: rest))) :
      Step c ⟨.rounds loop child (entry :: rest) parts, d, d'⟩
        ⟨.iterate lead loop child, d, d'.append (lead ++ loop.written parts)⟩
  | round {loop child entry rest parts d inner d' log}
      (hr : Run c (.rounds loop child rest parts) (d.resume inner) d' log) :
      Step c ⟨.node child, Loop.enter loop d entry, inner⟩
        ⟨.rounds loop child (entry :: rest)
          (if Text.isAllBlank inner.sql then parts else inner.sql :: parts), d, d'⟩
  | rounds {loop child entry rest parts d inner d' log}
      (h : Run c (.node child) (Loop.enter loop d entry) inner log) :
      Step c ⟨.rounds loop child rest parts, d.resume inner, d'⟩
        ⟨.rounds loop child (entry :: rest)
          (if Text.isAllBlank inner.sql then parts else inner.sql :: parts), d, d'⟩

/-- The first composition is done somewhere inside the second. -/
def Inside (c : Configuration) : Composition → Composition → Prop :=
  Relation.ReflTransGen (Step c)

variable {c : Configuration} {x y : Composition}

/-! ### What a step keeps -/

theorem Step.runs (h : Step c x y) (hx : x.Runs c) : y.Runs c := by
  obtain ⟨log, hrun⟩ := hx
  cases h with
  | condition => exact ⟨_, .condition hrun⟩
  | choice => exact ⟨_, .choice hrun⟩
  | otherwise => exact ⟨_, .otherwise hrun⟩
  | item => exact ⟨_, .item hrun⟩
  | group => exact ⟨_, .group hrun⟩
  | wrapped ht => exact ⟨_, .wrapped hrun ht⟩
  | dropped ht => exact ⟨_, .dropped hrun ht⟩
  | forEach => exact ⟨_, .forEach hrun⟩
  | list ht => exact ⟨_, .list ht hrun⟩
  | listed ht hb => exact ⟨_, .listed ht hb hrun⟩
  | sequence => exact ⟨_, .sequence hrun⟩
  | head hr => exact ⟨_, .cons hrun hr⟩
  | tail h => exact ⟨_, .cons h hrun⟩
  | chosen hb => exact ⟨_, .chosen hb hrun⟩
  | passed hb => exact ⟨_, .passed hb hrun⟩
  | defaulted => exact ⟨_, .defaulted hrun⟩
  | iterate he => exact ⟨_, .iterate he hrun⟩
  | round hr => exact ⟨_, .round hrun hr⟩
  | rounds h => exact ⟨_, .round h hrun⟩

theorem Step.mappings (h : Step c x y) : x.finish.mappings <+: y.finish.mappings := by
  -- something comes after the step in a sequence and in a loop only
  cases h with
  | head hr => exact hr.mappings_isPrefix
  | round hr => exact hr.mappings_isPrefix
  | _ => exact List.prefix_rfl

theorem Step.isDynamic (h : Step c x y) (hx : x.job.isDynamic = true) :
    y.job.isDynamic = true := by
  cases h with
  | sequence => exact hx
  | head => exact Bool.or_eq_true_iff.mpr (.inl hx)
  | tail => exact Bool.or_eq_true_iff.mpr (.inr hx)
  | _ => rfl

/-! ### What is kept on the whole way -/

theorem Inside.runs (h : Inside c x y) (hx : x.Runs c) : y.Runs c := by
  induction h with
  | refl => exact hx
  | tail _ hstep ih => exact hstep.runs ih

theorem Inside.mappings (h : Inside c x y) : x.finish.mappings <+: y.finish.mappings := by
  induction h with
  | refl => exact List.prefix_rfl
  | tail _ hstep ih => exact ih.trans hstep.mappings

theorem Inside.isDynamic (h : Inside c x y) (hx : x.job.isDynamic = true) :
    y.job.isDynamic = true := by
  induction h with
  | refl => exact hx
  | tail _ hstep ih => exact hstep.isDynamic ih

end Composition

open Outcome in
/-- **What is composed inside a template stays in its statement:** the mappings of the
statement begin with those of the draft that was left there. -/
theorem Template.mappings_of_inside {root : Node} {c : Configuration} {t : Template}
    {parameter : Value} {x : Composition} {last : Draft} {s : Statement}
    (hbuild : Template.build root c = .ok t) (hx : x.Runs c) (hdynamic : x.job.isDynamic = true)
    (hinside : Composition.Inside c x ⟨.node root, Node.start c parameter, last⟩)
    (hs : t.statement parameter = .ok s) : x.finish.mappings <+: s.mappings := by
  have hroot : root.isDynamic = true := hinside.isDynamic hdynamic
  obtain ⟨_, -, ht⟩ := bind_eq_ok_iff.mp hbuild
  rw [if_pos hroot] at ht
  obtain rfl := pure_eq_ok_iff.mp ht
  rw [Template.statement_eq rfl, map_eq_ok_iff] at hs
  obtain ⟨out, hout, rfl⟩ := hs
  obtain ⟨d, hd, rfl⟩ := Node.render_eq_ok_iff.mp hout
  obtain ⟨log, hrun⟩ := hinside.runs hx
  obtain rfl : d = last := Except.ok.inj (hd.symm.trans hrun.composes)
  exact hinside.mappings

end QueryTemplate
