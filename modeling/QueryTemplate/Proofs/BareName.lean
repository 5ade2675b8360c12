import QueryTemplate.Proofs.Name
import QueryTemplate.Proofs.Placeholder.Expression
import QueryTemplate.Proofs.Static
import QueryTemplate.Proofs.Values

/-!
# Bare names as placeholders

A name that is not reserved is a path and an expression.  Outside of nested scopes the placeholder
of the name and the one of the name in parentheses are looked up in the same way, but for one
shortcut: a parameter without parts is the value of every path whose first name is not bound.  The
lookup of an expression gives this parameter too, unless the name is the one of the database.

* `Statement.valueOf_name`, `Statement.valueOf_nameExpression`: the values of the two.
* `Scope.getD_inParameter?`: what a name stands for in a parameter without parts.
* `Template.values_of_name`: both in one statement.
-/

namespace QueryTemplate

open Outcome

/-- Whether a path may lead into the value. -/
def Value.hasParts : Value → Bool
  | .array _ => true
  | .object _ => true
  | _ => false

section

variable {name : String}

/-! ### What the two are read as -/

theorem Placeholder.balanced_of_isName (h : Expr.isName name = true) : Balanced name.toList := by
  refine balanced_of_all (List.all_eq_true.mpr fun c hc => ?_)
  have hchar := Expr.isNameChar_of_mem h c hc
  rw [Bool.and_eq_true, bne_iff_ne, bne_iff_ne]
  exact ⟨Expr.ne_of_test hchar (by decide), Expr.ne_of_test hchar (by decide)⟩

theorem Mapping.parse_of_isName_parens (h : Expr.isName name = true) :
    ∃ m, parse ("(" ++ name ++ ")") = .ok m ∧ m.expression = some name ∧ m.value = none := by
  have hnone : AttributeList "".toList [] :=
    ⟨⟨[], Placeholder.attributes_nil Expr.isGaps_nil, rfl⟩, "", { property := "" }, _, rfl⟩
  obtain ⟨m, hm, -, hexpression⟩ :=
    parse_of_balanced (Placeholder.balanced_of_isName h) hnone
  have htrimmed : Text.trimmed name = name := by
    rw [Text.trimmed, Text.trim_of_isTrimmed (Expr.isTrimmed_of_isName h), String.ofList_toList]
  rw [String.append_empty] at hm
  refine ⟨m, hm, ?_, value_of_parse hm⟩
  rw [hexpression fun p hp => absurd hp List.not_mem_nil, htrimmed]

/-! ### The values of the two -/

variable {st : Statement} {parameter : Value}

theorem Statement.lookup_scope (st : Statement) (parameter : Value) (name : String) :
    (st.scope parameter).lookup name =
      (Members.get? st.bindings name).or ((st.scope parameter).inParameter? name) := by
  simp [Scope.lookup, Scope.findIn?, Scope.frames, scope]

/-- A name in a parameter without parts stands for the parameter, unless it is the name of the
database. -/
theorem Scope.getD_inParameter? {s : Scope} (hparts : s.parameter.hasParts = false)
    (hname : name ≠ databaseName) : (s.inParameter? name).getD .null = s.parameter := by
  have hdatabase : (name == databaseName) = false := by
    simpa using hname
  by_cases hparameter : (name == parameterName) = true
  · rw [inParameter?, if_pos hparameter]
    rfl
  · rw [inParameter?, if_neg hparameter, hdatabase]
    cases hp : s.parameter with
    | array items =>
      rw [hp] at hparts
      cases hparts
    | object members =>
      rw [hp] at hparts
      cases hparts
    | _ => rfl

theorem Statement.valueOf_nameExpression (st : Statement) (parameter : Value)
    (hname : Expr.isName name = true)
    (hfree : name ∉ Expr.reserved) {m : Mapping} (hm : m.expression = some name)
    (hvalue : m.value = none) : st.valueOf .standard parameter m =
      .ok (((st.scope parameter).lookup name).getD .null) := by
  have hparse : Expr.parse name = .ok (.variable name) :=
    Expr.parse_of_written (.named hname hfree)
  simp only [valueOf, hm, hvalue]
  rw [Evaluator.standard_value_of_parse hparse]
  rfl

/-- A path is looked up in the parameter when it has parts, and is the parameter else. -/
theorem Statement.valueOf_path_of_not_bound {e : Evaluator} {path : String}
    (hbound : st.isBound path = false) : st.valueOf e parameter { property := path } =
      .ok (if parameter.hasParts then resolve (st.scope parameter) path else parameter) := by
  simp only [valueOf, hbound]
  cases parameter <;> rfl

theorem Statement.valueOf_name (st : Statement) (parameter : Value)
    (hname : Expr.isName name = true) (e : Evaluator) :
    st.valueOf e parameter { property := name } =
      .ok (if name = databaseName ∧ Members.get? st.bindings name = none ∧
          parameter.hasParts = false then parameter
        else ((st.scope parameter).lookup name).getD .null) := by
  have hsplit := Path.splitRoot_of_isName hname
  have hlookup := st.lookup_scope parameter name
  cases hbound : Members.get? st.bindings name with
  | some bound =>
    rw [hbound] at hlookup
    simp [valueOf, isBound, binding?, hsplit, hbound, hlookup]
  | none =>
    rw [hbound, Option.none_or] at hlookup
    have hresolve : resolve (st.scope parameter) name =
        ((st.scope parameter).lookup name).getD .null := by
      simp [resolve_eq, hsplit]
    rw [valueOf_path_of_not_bound (by simp [isBound, hsplit, hbound]), hresolve]
    cases hparts : parameter.hasParts with
    | true => simp
    | false =>
      by_cases hdatabase : name = databaseName
      · simp [hdatabase]
      · have hparameter := Scope.getD_inParameter? (s := st.scope parameter) hparts hdatabase
        rw [hlookup, hparameter]
        simp [scope]

/-! ### Both in one statement -/

/-- **Bare names as placeholders.**  In a statement with a placeholder for a name and one for the
name in parentheses, both outside of nested scopes, the one in parentheses has the value that the
name stands for: its binding at the root, else the parameter or the database, else what the
parameter holds.  The other one has the same value, unless the name is the one of the database, is
not bound, and the parameter has no parts; then it has the parameter. -/
theorem Template.values_of_name {root : Node} {c : Configuration} {t : Template}
    {parameter : Value} {st : Statement} {log : Log} {scope scope' : Scope} {i j : Nat}
    (hbuild : Template.build root c = .ok t) (hst : t.statement parameter = .ok st)
    (hlog : root.Logs c parameter log) (hname : Expr.isName name = true)
    (hfree : name ∉ Expr.reserved)
    (hi : log.placeholders[i]? = some (scope, name)) (hscope : scope.isRoot = true)
    (hj : log.placeholders[j]? = some (scope', "(" ++ name ++ ")"))
    (hscope' : scope'.isRoot = true) :
    ∃ m m' v w, st.mappings[i]? = some m ∧ st.mappings[j]? = some m' ∧
      st.valueOf .standard parameter m = .ok v ∧ st.valueOf .standard parameter m' = .ok w ∧
      w = ((st.scope parameter).lookup name).getD .null ∧
      v = (if name = databaseName ∧ Members.get? st.bindings name = none ∧
        parameter.hasParts = false then parameter else w) ∧
      ∀ values, st.values .standard parameter = .ok values →
        values[i]? = some v ∧ values[j]? = some w := by
  obtain ⟨out, hout, rfl⟩ := render_of_statement hbuild hst
  obtain ⟨d, hrun, rfl⟩ := hlog.run hout
  have hplace : ∀ {place : Scope × String} {k : Nat}, place.1.isRoot = true →
      log.placeholders[k]? = some place →
      ∃ m, d.mappings[k]? = some m ∧ Mapping.parse place.2 = .ok m := by
    intro place k hroot hk
    obtain ⟨m, hm, parsed, hparsed, hcapture⟩ := hrun.getElem?_of_placeholders hk
    rw [Draft.capture_of_not_fixes (by simp [Scope.fixes, hroot])] at hcapture
    obtain rfl := Except.ok.inj hcapture
    refine ⟨parsed, ?_, hparsed⟩
    simpa [Node.start] using hm
  obtain ⟨m, hm, hparse⟩ := hplace hscope hi
  obtain ⟨m', hm', hparse'⟩ := hplace hscope' hj
  obtain rfl := Except.ok.inj (hparse.symm.trans (Mapping.parse_of_isName hname))
  obtain ⟨parsed, hparsed, hexpression, hvalue⟩ := Mapping.parse_of_isName_parens hname
  obtain rfl := Except.ok.inj (hparse'.symm.trans hparsed)
  have hv := ((d.composed c).statement c).valueOf_name parameter hname .standard
  have hw := ((d.composed c).statement c).valueOf_nameExpression parameter hname hfree hexpression
    hvalue
  refine ⟨_, _, _, _, hm, hm', hv, hw, rfl, rfl, fun values hvalues => ?_⟩
  obtain ⟨v, hvi, hof⟩ := getElem?_of_mapM_eq_ok hvalues hm
  obtain ⟨w, hwj, hof'⟩ := getElem?_of_mapM_eq_ok hvalues hm'
  obtain rfl := Except.ok.inj (hof.symm.trans hv)
  obtain rfl := Except.ok.inj (hof'.symm.trans hw)
  exact ⟨hvi, hwj⟩

end

/-! ### Runs -/

def Node.bothOf (name : String) : Node :=
  .sequence [.static (Error.placeholderText name),
    .static (Error.placeholderText ("(" ++ name ++ ")"))]

theorem Node.validate_static_span {e : Evaluator} {text body : String} {m : Mapping}
    (hpieces : Delimiters.placeholder.pieces text = [.literal [], .span body.toList])
    (hparse : Mapping.parse body = .ok m) : (Node.static text).validate e = .ok () := by
  have hbodies : Delimiters.placeholder.bodies text = [body] := by
    simp [Delimiters.bodies, hpieces]
  have hbody : validateBody body = .ok () := by
    rw [validateBody, hparse]
    split <;> rfl
  rw [validate, validatePlaceholders, Delimiters.visit, hbodies]
  exact forM_eq_ok_iff.mpr fun b hb => List.mem_singleton.mp hb ▸ hbody

theorem Node.run_bothOf {name : String} (hname : Expr.isName name = true) {m : Mapping}
    (hparse : Mapping.parse ("(" ++ name ++ ")") = .ok m) (c : Configuration)
    (parameter : Value) :
    ∃ d log, Run c (.node (bothOf name)) (start c parameter) d log ∧
      d.mappings = [{ property := name }, m] ∧ d.scope = (start c parameter).scope ∧
      log.placeholders = [(d.scope, name), (d.scope, "(" ++ name ++ ")")] := by
  have hpieces := Delimiters.pieces_placeholder_of_isName hname
  have hpieces' := Delimiters.pieces_placeholder_of_isName_parens hname
  have hfirst := Draft.addStatic_placeholder (d := start c parameter) hpieces
    (Mapping.parse_of_isName hname) (Draft.capture_of_not_fixes (c := c) rfl)
  have hsecond := Draft.addStatic_placeholder (c := c) (d := { start c parameter with
    sql := (start c parameter).sql ++ c.marker 1
    mappings := [{ property := name }] }) hpieces' hparse (Draft.capture_of_not_fixes rfl)
  have hrun : Run c (.node (bothOf name)) _ _ _ :=
    .sequence (.cons (.static hfirst) (.cons (.static hsecond) .nil))
  refine ⟨_, _, hrun, rfl, rfl, ?_⟩
  simp only [Log.reading, hpieces, hpieces', List.map_cons, List.map_nil, Event.ofPiece,
    String.ofList_toList]
  rfl

/-- The two placeholders of a name make a statement over every parameter. -/
theorem Template.exists_bothOf {name : String} (hname : Expr.isName name = true)
    (c : Configuration) (parameter : Value) :
    ∃ t st m log scope, Template.build (Node.bothOf name) c = .ok t ∧
      t.statement parameter = .ok st ∧ st.mappings = [{ property := name }, m] ∧
      st.bindings = [] ∧ st.databaseId = c.databaseValue ∧
      m.expression = some name ∧ m.value = none ∧ (Node.bothOf name).Logs c parameter log ∧
      log.placeholders = [(scope, name), (scope, "(" ++ name ++ ")")] ∧ scope.isRoot = true := by
  obtain ⟨m, hparse, hexpression, hvalue⟩ := Mapping.parse_of_isName_parens hname
  have hvalid : (Node.bothOf name).validate c.evaluator = .ok () := by
    have hfirst := Node.validate_static_span (e := c.evaluator)
      (Delimiters.pieces_placeholder_of_isName hname) (Mapping.parse_of_isName hname)
    have hsecond := Node.validate_static_span (e := c.evaluator)
      (Delimiters.pieces_placeholder_of_isName_parens hname) hparse
    exact bind_eq_ok_iff.mpr ⟨(), hfirst, bind_eq_ok_iff.mpr ⟨(), hsecond, rfl⟩⟩
  obtain ⟨d, log, hrun, hmappings, -, -⟩ := Node.run_bothOf hname hparse c .null
  obtain ⟨d', log', hrun', -, hscope, hplaceholders⟩ := Node.run_bothOf hname hparse c parameter
  have hstatic : (Node.bothOf name).isDynamic = false := rfl
  have hbuild := (Template.build_eq_ok_iff hstatic).mpr
    ⟨hvalid, _, Node.render_eq_ok_iff.mpr ⟨d, hrun.composes, rfl⟩, rfl⟩
  refine ⟨_, _, m, log', d'.scope, hbuild, rfl, hmappings, rfl, rfl, hexpression, hvalue,
    ⟨d', hrun'⟩, hplaceholders, ?_⟩
  rw [hscope]
  rfl

/-- A parameter without parts is the value of both. -/
theorem Template.values_of_name_string :
    ∃ t st, Template.build (Node.bothOf "x") {} = .ok t ∧ t.statement (.string "p") = .ok st ∧
      st.values .standard (.string "p") = .ok [.string "p", .string "p"] := by
  have hname : Expr.isName "x" = true := by decide +kernel
  have hfree : "x" ∉ Expr.reserved := by decide +kernel
  obtain ⟨t, st, m, log, scope, hbuild, hst, hmappings, hbindings, -, -, -, hlog, hplaceholders,
    hscope⟩ := exists_bothOf hname {} (.string "p")
  obtain ⟨first, second, v, w, hfirst, hsecond, hv, hw, hlookup, hsame, -⟩ :=
    values_of_name (i := 0) (j := 1) hbuild hst hlog hname hfree (by rw [hplaceholders]; rfl)
      hscope (by rw [hplaceholders]; rfl) hscope
  have hw' : w = .string "p" := by
    rw [hlookup, Statement.lookup_scope, hbindings]
    rfl
  have hv' : v = .string "p" := by
    rw [hsame, if_neg (fun h => absurd h.1 (by decide)), hw']
  have hvalues : st.mappings = [first, second] := by
    rw [hmappings] at hfirst hsecond ⊢
    rw [Option.some.inj hfirst, Option.some.inj hsecond]
  refine ⟨t, st, hbuild, hst, ?_⟩
  rw [Statement.values, hvalues, List.mapM_cons, hv, List.mapM_cons, hw, hv', hw']
  rfl

/-- The name of the database and a parameter without parts: the path gets the parameter and the
expression the database. -/
theorem Template.values_of_databaseName_string :
    ∃ t st, Template.build (Node.bothOf "_databaseId") { databaseId := some "SQLite" } = .ok t ∧
      t.statement (.string "p") = .ok st ∧
      st.values .standard (.string "p") = .ok [.string "p", .string "SQLite"] := by
  have hname : Expr.isName "_databaseId" = true := by decide +kernel
  have hfree : "_databaseId" ∉ Expr.reserved := by decide +kernel
  obtain ⟨t, st, m, log, scope, hbuild, hst, hmappings, hbindings, hdatabase, hexpression, hvalue,
    -⟩ := exists_bothOf hname { databaseId := some "SQLite" } (.string "p")
  refine ⟨t, st, hbuild, hst, ?_⟩
  rw [Statement.values, hmappings, List.mapM_cons, Statement.valueOf_name st _ hname,
    List.mapM_cons, Statement.valueOf_nameExpression st _ hname hfree hexpression hvalue,
    Statement.lookup_scope, hbindings]
  simp [Members.get?, Value.hasParts, Scope.inParameter?, Statement.scope, hdatabase,
    Configuration.databaseValue, databaseName, parameterName]
  rfl

end QueryTemplate
