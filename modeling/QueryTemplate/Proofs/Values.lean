import Mathlib
import QueryTemplate.Proofs.Run.Mappings
import QueryTemplate.Proofs.Run.Scopes

/-!
# The values of placeholders

What a placeholder means depends on the scope that it stands in (`Mapping.denoted`).
In a nested scope the meaning is fixed with the mapping when it depends on that scope
(`Scope.fixes`); else it is worked out when the statement runs, in the root scope as
the template leaves it.  The two agree unless a name that the placeholder reads is
bound at the root after it.

* `Draft.capture_of_fixes`, `Draft.capture_of_not_fixes`: what a mapping gets from the
  scope that its placeholder stands in.
* `Statement.valueOf_of_value`, `Statement.valueOf_of_object`: what it gets afterwards.
* `Statement.getElem?_values`: where a value that is fixed comes out.
-/

namespace QueryTemplate

open Outcome

/-- What a mapping means in a scope: the value of its expression, or of its path, where
something that is missing is `null`. -/
def Mapping.denoted (m : Mapping) (e : Evaluator) (s : Scope) : Except Error Value :=
  match m.expression with
  | some expression => (e.value expression s.lookup).mapError .expression
  | none => .ok (Statement.resolve s m.property)

/-- Whether the value of a mapping is fixed in the scope. -/
def Scope.fixes (s : Scope) (m : Mapping) : Bool :=
  !s.isRoot && (m.expression.isSome || (s.scoped? (Path.splitRoot m.property).1).isSome)

def Mapping.ReadsOnly (m : Mapping) (e : Evaluator) (names : String → Prop) : Prop :=
  match m.expression with
  | some expression => ∀ f g : String → Option Value, (∀ name, names name → f name = g name) →
      e.value expression f = e.value expression g
  | none => names (Path.splitRoot m.property).1

theorem Statement.resolve_eq (s : Scope) (path : String) :
    resolve s path = ((s.lookup (Path.splitRoot path).1).bind
      (Path.get? · (Path.splitRoot path).2)).getD .null :=
  rfl

/-! ### When a value is fixed -/

section Fixed

variable {c : Configuration} {s : Scope} {m m' : Mapping}

theorem Draft.capture_of_not_fixes (hs : s.fixes m = false) : Draft.capture c s m = .ok m := by
  rw [Draft.capture]
  cases hroot : s.isRoot with
  | true => rfl
  | false =>
    simp only [Scope.fixes, hroot, Bool.not_false, Bool.true_and, Bool.or_eq_false_iff] at hs
    obtain ⟨hexpression, hscoped⟩ := hs
    simp only [Option.isSome_eq_false_iff, Option.isNone_iff_eq_none] at hexpression hscoped
    simp only [hexpression, hscoped]
    rfl

theorem Draft.capture_of_fixes (hs : s.fixes m = true) (h : Draft.capture c s m = .ok m') :
    ∃ value, m'.value = some value ∧ m.denoted c.evaluator s = .ok value := by
  simp only [Scope.fixes, Bool.and_eq_true, Bool.not_eq_true', Bool.or_eq_true] at hs
  obtain ⟨hroot, hs⟩ := hs
  rw [Draft.capture, hroot] at h
  cases hexpression : m.expression with
  | some expression =>
    rw [hexpression] at h
    obtain ⟨value, hvalue, h⟩ := bind_eq_ok_iff.mp h
    obtain rfl := pure_eq_ok_iff.mp h
    refine ⟨value, rfl, ?_⟩
    rw [Mapping.denoted, hexpression]
    exact hvalue
  | none =>
    obtain ⟨bound, hbound⟩ : ∃ bound, s.scoped? (Path.splitRoot m.property).1 = some bound :=
      Option.isSome_iff_exists.mp (by simpa [hexpression] using hs)
    simp only [hexpression, hbound] at h
    obtain rfl := Except.ok.inj h
    refine ⟨_, rfl, ?_⟩
    rw [Mapping.denoted, hexpression]
    show Except.ok (Statement.resolve s m.property) = _
    rw [Statement.resolve_eq, Scope.lookup_eq, hbound]
    rfl

/-- What a mapping means when its value is not fixed in the scope is left to the root. -/
theorem Mapping.denoted_of_not_fixes {e : Evaluator} (hs : s.fixes m = false) :
    m.denoted e s = m.denoted e s.root := by
  cases hroot : s.isRoot with
  | true => rw [Scope.root_eq_self hroot]
  | false =>
    simp only [Scope.fixes, hroot, Bool.not_false, Bool.true_and, Bool.or_eq_false_iff] at hs
    obtain ⟨hexpression, hscoped⟩ := hs
    simp only [Option.isSome_eq_false_iff, Option.isNone_iff_eq_none] at hexpression hscoped
    simp only [denoted, hexpression, Statement.resolve, Scope.lookup_eq s, hscoped, Option.none_or]

theorem Mapping.denoted_congr {e : Evaluator} {names : String → Prop} {t : Scope}
    (hm : m.ReadsOnly e names) (h : ∀ name, names name → s.lookup name = t.lookup name) :
    m.denoted e s = m.denoted e t := by
  cases hexpression : m.expression with
  | some expression =>
    simp only [ReadsOnly, hexpression] at hm
    simp only [denoted, hexpression]
    rw [hm s.lookup t.lookup h]
  | none =>
    simp only [ReadsOnly, hexpression] at hm
    simp only [denoted, hexpression, Statement.resolve, h _ hm]

end Fixed

/-! ### The values of a statement -/

theorem Statement.valueOf_of_value {st : Statement} {e : Evaluator} {parameter value : Value}
    {m : Mapping} (hm : m.value = some value) : st.valueOf e parameter m = .ok value := by
  simp only [valueOf, hm]

/-- A value that is fixed with one of some mappings is the value at its place, whatever
mappings stand behind them. -/
theorem Statement.getElem?_values {st : Statement} {e : Evaluator} {parameter value : Value}
    {values : List Value} {before new : List Mapping} {m : Mapping} {i : Nat}
    (h : st.values e parameter = .ok values) (hfront : before ++ new <+: st.mappings)
    (hm : new[i]? = some m) (hvalue : m.value = some value) :
    values[before.length + i]? = some value := by
  obtain ⟨more, hmore⟩ := hfront
  obtain ⟨hlt, -⟩ := List.getElem?_eq_some_iff.mp hm
  have hplace : st.mappings[before.length + i]? = some m := by
    rw [← hmore, List.append_assoc, List.getElem?_append_right (Nat.le_add_right _ _),
      Nat.add_sub_cancel_left, List.getElem?_append_left hlt]
    exact hm
  obtain ⟨found, hfound, hof⟩ := getElem?_of_mapM_eq_ok h hplace
  rw [valueOf_of_value hvalue] at hof
  obtain rfl := Except.ok.inj hof
  exact hfound

theorem Statement.valueOf_of_object {st : Statement} {e : Evaluator} {members : Members}
    {m : Mapping} (hm : m.value = none) :
    st.valueOf e (.object members) m = m.denoted e (st.scope (.object members)) := by
  cases hexpression : m.expression with
  | some expression => simp only [valueOf, Mapping.denoted, hm, hexpression]
  | none =>
    simp only [valueOf, Mapping.denoted, hm, hexpression]
    cases hb : Members.get? st.bindings (Path.splitRoot m.property).1 with
    | none => simp [isBound, hb]
    | some bound =>
      have hlookup : (st.scope (.object members)).lookup (Path.splitRoot m.property).1 =
          some bound := by
        simp [Scope.lookup, Scope.findIn?, Scope.frames, scope, hb]
      simp [isBound, binding?, resolve, hb, hlookup]

/-- The root scope that a template leaves is the one that its statement runs in. -/
theorem Run.scope_of_start {c : Configuration} {root : Node} {parameter : Value} {d : Draft}
    {log : Log} (h : Run c (.node root) (Node.start c parameter) d log) :
    d.scope = ((d.composed c).statement c).scope parameter :=
  h.scope_eq

/-- **The value of a placeholder.**  It is what the placeholder means where it stands, when
the value is fixed there or no name that it reads is bound at the root after it.  A value
that is not fixed is what the placeholder means in the root scope that the template
leaves. -/
theorem Node.value_of_placeholder {c : Configuration} {root : Node} {members : Members}
    {out : Composed} {before after : Log} {s : Scope} {body : String}
    (h : root.render c (.object members) = .ok out)
    (hlog : root.Logs c (.object members) (before ++ .placeholder s body :: after)) :
    ∃ parsed m, Mapping.parse body = .ok parsed ∧
      out.mappings[before.placeholders.length]? = some m ∧
      (∀ names, parsed.ReadsOnly c.evaluator names →
        (s.fixes parsed = true ∨ ∀ name, names name → ¬ after.BindsAtRoot name) →
        (out.statement c).valueOf c.evaluator (.object members) m =
          parsed.denoted c.evaluator s) ∧
      (s.fixes parsed = false →
        (out.statement c).valueOf c.evaluator (.object members) m =
          parsed.denoted c.evaluator ((out.statement c).scope (.object members))) ∧
      ∀ values, (out.statement c).values c.evaluator (.object members) = .ok values →
        ∃ value, values[before.placeholders.length]? = some value ∧
          (out.statement c).valueOf c.evaluator (.object members) m = .ok value := by
  obtain ⟨d, hrun, rfl⟩ := hlog.run h
  obtain ⟨m, hm, parsed, hparsed, hcapture⟩ := hrun.getElem?_mappings rfl
  simp only [Node.start, List.length_nil, Nat.zero_add] at hm
  have hlate : s.fixes parsed = false →
      ((d.composed c).statement c).valueOf c.evaluator (.object members) m =
        parsed.denoted c.evaluator (((d.composed c).statement c).scope (.object members)) := by
    intro hs
    rw [Draft.capture_of_not_fixes hs] at hcapture
    obtain rfl := Except.ok.inj hcapture
    exact Statement.valueOf_of_object (Mapping.value_of_parse hparsed)
  refine ⟨parsed, m, hparsed, hm, fun names hnames hor => ?_, hlate, fun values hvalues => ?_⟩
  · cases hs : s.fixes parsed with
    | true =>
      obtain ⟨value, hvalue, hdenoted⟩ := Draft.capture_of_fixes hs hcapture
      rw [Statement.valueOf_of_value hvalue, hdenoted]
    | false =>
      have hbound : ∀ name, names name → ¬ after.BindsAtRoot name :=
        hor.resolve_left (by simp [hs])
      have hroot : d.scope.root = d.scope := Scope.root_eq_self (by rw [hrun.scope_of_start]; rfl)
      rw [hlate hs, Mapping.denoted_of_not_fixes hs, ← hrun.scope_of_start]
      refine Mapping.denoted_congr hnames fun name hname => ?_
      rw [← hrun.lookup_root_of_placeholder rfl (hbound name hname), hroot]
  · exact getElem?_of_mapM_eq_ok hvalues hm

/-! ### A placeholder in front of a bind -/

theorem Run.placeholder_bind {d : Draft} (hd : d.scope.isRoot = true) {value : Value}
    (hvalue : Evaluator.standard.value "y" d.scope.lookup = .ok value) (name : String) :
    Run {} (.node (.sequence [.static "#\x7bx\x7d", .bind name "y"])) d
      { scope := d.scope.bind name value
        sql := d.sql ++ "?"
        mappings := d.mappings ++ [{ property := "x" }] }
      [.copied "", .placeholder d.scope "x", .bound d.scope name] := by
  have hpieces : Delimiters.placeholder.pieces "#\x7bx\x7d" = [.literal [], .span "x".toList] := by
    decide +kernel
  have hparse : Mapping.parse "x" = .ok { property := "x" } := by cbv
  have hstatic : d.addStatic {} "#\x7bx\x7d" = .ok { d with
      sql := d.sql ++ "?", mappings := d.mappings ++ [{ property := "x" }] } :=
    Draft.addStatic_placeholder hpieces hparse (Draft.capture_of_not_fixes (by simp [Scope.fixes, hd]))
  have hbind : Run {} (.node (.bind name "y")) { d with
      sql := d.sql ++ "?", mappings := d.mappings ++ [{ property := "x" }] } _ _ := .bind hvalue
  have hrun := Run.sequence (.cons (.static hstatic) (.cons hbind .nil))
  rw [Log.reading, hpieces] at hrun
  exact hrun

/-- A root placeholder has the value that a bind behind it gives to its name. -/
theorem Node.value_of_placeholder_before_bind :
    ∃ out s, Node.render {} (.sequence [.static "#\x7bx\x7d", .bind "x" "y"])
        (.object [("x", .string "old"), ("y", .string "new")]) = .ok out ∧
      Node.Logs {} (.sequence [.static "#\x7bx\x7d", .bind "x" "y"])
        (.object [("x", .string "old"), ("y", .string "new")])
        [.copied "", .placeholder s "x", .bound s "x"] ∧
      Mapping.parse "x" = .ok { property := "x" } ∧
      Mapping.denoted { property := "x" } .standard s = .ok (.string "old") ∧
      (out.statement {}).values .standard
        (.object [("x", .string "old"), ("y", .string "new")]) = .ok [.string "new"] := by
  have hmeans : ∀ {s : Scope} {value : Value}, s.lookup "x" = some value →
      Mapping.denoted { property := "x" } .standard s = .ok value := by
    intro s value hs
    have hsplit : Path.splitRoot "x" = ("x", "") := by decide +kernel
    simp only [Mapping.denoted, Statement.resolve_eq, hsplit, hs, Option.bind_some, Path.get?_empty]
    rfl
  have hparse : Mapping.parse "x" = .ok { property := "x" } := by cbv
  have hvalue : Evaluator.standard.value "y"
      (Node.start {} (.object [("x", .string "old"), ("y", .string "new")])).scope.lookup =
        .ok (.string "new") := by
    cbv
  have hrun := Run.placeholder_bind rfl hvalue "x"
  refine ⟨_, _, Node.render_eq_ok_iff.mpr ⟨_, hrun.composes, rfl⟩, ⟨_, hrun⟩, hparse,
    hmeans rfl, ?_⟩
  show [({ property := "x" } : Mapping)].mapM _ = _
  rw [List.mapM_cons]
  exact bind_eq_ok_iff.mpr ⟨_, (Statement.valueOf_of_object rfl).trans (hmeans rfl), rfl⟩

/-- A bind of another name behind a placeholder leaves its value as it is. -/
theorem Node.value_of_placeholder_before_other_bind :
    ∃ out s m, Node.render {} (.sequence [.static "#\x7bx\x7d", .bind "z" "y"])
        (.object [("x", .string "old"), ("y", .string "new")]) = .ok out ∧
      out.mappings[0]? = some m ∧
      (out.statement {}).valueOf .standard
          (.object [("x", .string "old"), ("y", .string "new")]) m =
        Mapping.denoted { property := "x" } .standard s ∧ s.lookup "x" = some (.string "old") := by
  have hparse : Mapping.parse "x" = .ok { property := "x" } := by cbv
  have hvalue : Evaluator.standard.value "y"
      (Node.start {} (.object [("x", .string "old"), ("y", .string "new")])).scope.lookup =
        .ok (.string "new") := by
    cbv
  have hrun := Run.placeholder_bind rfl hvalue "z"
  have h := Node.render_eq_ok_iff.mpr ⟨_, hrun.composes, rfl⟩
  have hlogs : Node.Logs {} _ _ ([.copied ""] ++ .placeholder _ "x" :: [.bound _ "z"]) := ⟨_, hrun⟩
  obtain ⟨parsed, m, hparsed, hm, hmeans, -, -⟩ := Node.value_of_placeholder h hlogs
  obtain rfl := Except.ok.inj (hparse.symm.trans hparsed)
  have hreads : Mapping.ReadsOnly { property := "x" } .standard (· = "x") := by
    show (Path.splitRoot "x").1 = "x"
    decide +kernel
  refine ⟨_, _, m, h, hm, hmeans (· = "x") hreads (.inr ?_), rfl⟩
  rintro name rfl ⟨s, -, hs⟩
  simp at hs

end QueryTemplate
