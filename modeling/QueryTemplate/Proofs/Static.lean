import Mathlib
import QueryTemplate.Proofs.Run.Basic

/-!
# Static templates

A template of texts without values written into them is composed once, over `null`.
Nothing in that run depends on what stands in the root scope: the placeholders of the
texts are at the root, so that no value is fixed with them, and there is no test, no
loop and no bind.  So the run can be repeated in any root scope (`Run.replay`), and
with any evaluator.  Whether a template was composed before or not, its statement is that
of its tree over the parameter (`Template.render_of_statement`).
-/

namespace QueryTemplate

open Outcome

/-! ### Texts in a root scope -/

/-- At the root, the pieces of a text are read without a look at the scope. -/
theorem Draft.collect_of_isRoot {c c' : Configuration} (hmarker : c'.marker = c.marker)
    {scope scope' : Scope} (hs : scope.isRoot = true) (hs' : scope'.isRoot = true)
    (pieces : List Piece) (mappings : List Mapping) :
    Draft.collect c' scope' mappings pieces = Draft.collect c scope mappings pieces := by
  induction pieces generalizing mappings with
  | nil => rfl
  | cons piece rest ih =>
    cases piece with
    | literal text => simp only [Draft.collect, ih]
    | span body => simp only [Draft.collect, Draft.capture, hs, hs', if_true, hmarker, ih]

theorem Draft.addStatic_of_isRoot {c c' : Configuration} (hmarker : c'.marker = c.marker)
    {text : String} {d d' : Draft} (h : d.addStatic c text = .ok d')
    (hd : d.scope.isRoot = true) {scope : Scope} (hs : scope.isRoot = true) :
    d'.scope = d.scope ∧ { d with scope }.addStatic c' text = .ok { d' with scope } := by
  obtain ⟨mappings, sql, hc, rfl⟩ := Draft.addStatic_eq_ok_iff.mp h
  refine ⟨rfl, Draft.addStatic_eq_ok_iff.mpr ⟨mappings, sql, ?_, rfl⟩⟩
  rw [← hc]
  exact Draft.collect_of_isRoot hmarker hd hs _ _

/-! ### Runs of static templates -/

def Job.isDynamic : Job → Bool
  | .node n => n.isDynamic
  | .all children => Node.anyDynamic children
  | _ => true

/-- **A run that is not dynamic can be repeated in any root scope.** -/
theorem Run.replay {c c' : Configuration} (hmarker : c'.marker = c.marker) {job : Job}
    {d d' : Draft} {log : Log} (h : Run c job d d' log) (hjob : job.isDynamic = false)
    (hd : d.scope.isRoot = true) (scope : Scope) (hs : scope.isRoot = true) :
    d'.scope = d.scope ∧ ∃ log', Run c' job { d with scope } { d' with scope } log' := by
  induction h with
  | static h =>
    obtain ⟨hscope, h'⟩ := Draft.addStatic_of_isRoot hmarker h hd hs
    exact ⟨hscope, _, .static h'⟩
  | sequence h ih =>
    obtain ⟨hscope, log', hrun⟩ := ih hjob hd
    exact ⟨hscope, log', .sequence hrun⟩
  | empty => exact ⟨rfl, _, .empty⟩
  | nil => exact ⟨rfl, _, .nil⟩
  | cons h hr ih ihr =>
    obtain ⟨hchild, hrest⟩ := Bool.or_eq_false_iff.mp hjob
    obtain ⟨hscope, log', hrun⟩ := ih hchild hd
    obtain ⟨hscope', log'', hrun'⟩ := ihr hrest (by rw [hscope]; exact hd)
    exact ⟨hscope'.trans hscope, _, .cons hrun hrun'⟩
  | _ => cases hjob

/-- A tree that is not dynamic is composed when its template is built. -/
theorem Template.build_eq_ok_iff {root : Node} {c : Configuration} {t : Template}
    (hroot : root.isDynamic = false) :
    Template.build root c = .ok t ↔ root.validate c.evaluator = .ok () ∧
      ∃ out, root.render c .null = .ok out ∧
        t = { root, configuration := c, fixed := some out } := by
  simp only [build, bind_eq_ok_iff, hroot, Bool.false_eq_true, if_false, pure_eq_ok_iff]
  constructor
  · rintro ⟨_, hvalid, out, hout, rfl⟩
    exact ⟨hvalid, out, hout, rfl⟩
  · rintro ⟨hvalid, out, hout, rfl⟩
    exact ⟨(), hvalid, out, hout, rfl⟩

/-- **A tree that is not dynamic is composed alike over every parameter**, and binds nothing. -/
theorem Node.render_of_not_dynamic {root : Node} {c : Configuration} {out : Composed}
    (hroot : root.isDynamic = false) (h : root.render c .null = .ok out) :
    out.bindings = [] ∧ ∀ parameter, root.render c parameter = .ok out := by
  obtain ⟨d, hd, rfl⟩ := Node.render_eq_ok_iff.mp h
  obtain ⟨log, hrun⟩ := Node.compose_eq_ok_iff.mp hd
  have hscope : d.scope = (Node.start c .null).scope :=
    (hrun.replay rfl hroot rfl (Node.start c .null).scope rfl).1
  refine ⟨?_, fun parameter => ?_⟩
  · rw [Draft.composed, hscope]
    rfl
  · obtain ⟨-, log', hrun'⟩ :=
      hrun.replay rfl hroot rfl (Node.start c parameter).scope rfl
    refine Node.render_eq_ok_iff.mpr ⟨_, hrun'.composes, ?_⟩
    rw [Draft.composed, Draft.composed, hscope]
    rfl

/-- **The statement of a template is that of its tree over the parameter**, composed before or
not. -/
theorem Template.render_of_statement {root : Node} {c : Configuration} {t : Template}
    (hbuild : Template.build root c = .ok t) {parameter : Value} {st : Statement}
    (h : t.statement parameter = .ok st) :
    ∃ out, root.render c parameter = .ok out ∧ st = out.statement c := by
  cases hroot : root.isDynamic with
  | false =>
    obtain ⟨-, out, hout, rfl⟩ := (Template.build_eq_ok_iff hroot).mp hbuild
    obtain ⟨hbindings, hrender⟩ := Node.render_of_not_dynamic hroot hout
    refine ⟨out, hrender parameter, ?_⟩
    obtain rfl := Except.ok.inj h
    rw [← hbindings]
    rfl
  | true =>
    obtain ⟨_, -, ht⟩ := bind_eq_ok_iff.mp hbuild
    rw [if_pos hroot] at ht
    obtain rfl := pure_eq_ok_iff.mp ht
    rw [Template.statement_eq rfl, map_eq_ok_iff] at h
    obtain ⟨out, hout, rfl⟩ := h
    exact ⟨out, hout, rfl⟩

/-- **A static template is composed once and for all.** -/
theorem Template.statement_of_not_dynamic {root : Node} {c : Configuration} {t : Template}
    (h : Template.build root c = .ok t) (hroot : root.isDynamic = false) :
    ∃ out, t.fixed = some out ∧ out.bindings = [] ∧
      (∀ parameter, root.render c parameter = .ok out) ∧
      ∀ parameter, t.statement parameter = .ok (out.statement c) ∧
        { t with fixed := none }.statement parameter = .ok (out.statement c) := by
  obtain ⟨-, out, hout, rfl⟩ := (Template.build_eq_ok_iff hroot).mp h
  obtain ⟨hbindings, hrender⟩ := Node.render_of_not_dynamic hroot hout
  refine ⟨_, rfl, hbindings, hrender, fun parameter => ⟨?_, ?_⟩⟩
  · show Except.ok _ = _
    rw [← hbindings]
    rfl
  · rw [Template.statement_eq rfl, hrender]
    rfl

/-- A text with a placeholder and one with an expression are composed once. -/
theorem Template.statement_of_two_texts :
    ∃ t out, Template.build (.sequence [.static "a = #\x7ba\x7d", .static "b = #\x7b(b)\x7d"]) {} =
        .ok t ∧ t.fixed = some out ∧
      out.sql = "a = ?b = ?" ∧
      out.mappings = [{ property := "a" }, { property := "b", expression := some "b" }] ∧
      out.bindings = [] ∧
      ∀ parameter, t.statement parameter = .ok (out.statement {}) ∧
        { t with fixed := none }.statement parameter = .ok (out.statement {}) := by
  have hvalid : (Node.sequence [.static "a = #\x7ba\x7d", .static "b = #\x7b(b)\x7d"]).validate
      (Configuration.evaluator {}) = .ok () := by
    cbv
  have hrender : (Node.sequence [.static "a = #\x7ba\x7d", .static "b = #\x7b(b)\x7d"]).render {}
      .null = .ok ⟨"a = ?b = ?",
        [{ property := "a" }, { property := "b", expression := some "b" }], []⟩ := by
    cbv
  have h := (Template.build_eq_ok_iff rfl).mpr ⟨hvalid, _, hrender, rfl⟩
  obtain ⟨out, hfixed, hbindings, -, hstatement⟩ := Template.statement_of_not_dynamic h rfl
  obtain rfl := Option.some.inj hfixed
  exact ⟨_, _, h, rfl, rfl, rfl, hbindings, hstatement⟩

end QueryTemplate
