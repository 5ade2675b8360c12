import Mathlib
import QueryTemplate.Proofs.Checked
import QueryTemplate.Proofs.Run.Mappings

/-!
# What checking a tree leaves open

`Node.validate` looks at every expression that a node evaluates itself and at the text of
every placeholder in which no value is written.  Two things stay unchecked: the text of a
placeholder in a static text in which the mark of a value stands, and the expression of a
placeholder.  For a tree without interpolated texts there is nothing else.

* `Template.marked_of_placeholder_fault`: a statement fails at the text of a placeholder
  only when the mark of a value stands in it.
* `Template.malformedPlaceholder_of_malformed`: a statement, its values and its arguments
  fail with a malformed expression only at that of a placeholder.
-/

namespace QueryTemplate

open Outcome

/-! ### Placeholders that cannot be read -/

def Error.isPlaceholderFault : Error → Bool
  | .badPlaceholder _ _ _ => true
  | .unknownAttribute _ _ => true
  | .badAttribute _ _ _ => true
  | _ => false

namespace Mapping

theorem isPlaceholderFault_of_valid {α : Type} {content name : String} {value : List Char}
    {reading : Option α} {set : α → Mapping} {e : Error}
    (h : (valid content name value reading >>= fun a => pure (set a)) = .error e) :
    e.isPlaceholderFault = true := by
  cases reading with
  | some a => cases h
  | none =>
    obtain rfl := Except.error.inj h
    rfl

theorem isPlaceholderFault_of_setAttribute_eq_error {content : String} {m : Mapping}
    {name value : List Char} {e : Error} (h : setAttribute content m name value = .error e) :
    e.isPlaceholderFault = true := by
  rw [setAttribute] at h
  split_ifs at h with hvalueType hjdbcType hmode hscale hresultMap htypeName hexpression
  · exact isPlaceholderFault_of_valid h
  · exact isPlaceholderFault_of_valid h
  · exact isPlaceholderFault_of_valid h
  · obtain rfl := Except.error.inj h
    rfl

theorem isPlaceholderFault_of_setAttributes_eq_error {content : String} {m : Mapping}
    {attributes : List (List Char × List Char)} {e : Error}
    (h : setAttributes content m attributes = .error e) : e.isPlaceholderFault = true := by
  induction attributes generalizing m with
  | nil => cases h
  | cons pair rest ih =>
    rcases bind_eq_error_iff.mp h with h | ⟨_, -, h⟩
    · exact isPlaceholderFault_of_setAttribute_eq_error h
    · exact ih h

theorem isPlaceholderFault_of_setTag_eq_error {content : String} {m : Mapping}
    {tag : Option (List Char)} {e : Error} (h : setTag content m tag = .error e) :
    e.isPlaceholderFault = true := by
  cases tag with
  | none => cases h
  | some tag => exact isPlaceholderFault_of_valid h

theorem isPlaceholderFault_of_parse_eq_error {content : String} {e : Error}
    (h : parse content = .error e) : e.isPlaceholderFault = true := by
  simp only [parse] at h
  split at h
  · obtain rfl := Except.error.inj h
    rfl
  · split at h
    · obtain rfl := Except.error.inj h
      rfl
    · rcases bind_eq_error_iff.mp h with h | ⟨tagged, -, h⟩
      · exact isPlaceholderFault_of_setTag_eq_error h
      · rcases bind_eq_error_iff.mp h with h | ⟨m, -, h⟩
        · exact isPlaceholderFault_of_setAttributes_eq_error h
        · split at h
          · obtain rfl := Except.error.inj h
            rfl
          · cases h

end Mapping

/-- No expression fails like the text of a placeholder. -/
theorem Configuration.Fails.not_placeholder_fault {c : Configuration} {expression : String}
    {e : Error} (h : c.Fails expression e) : e.isPlaceholderFault = false := by
  cases h with
  | value h => rfl
  | test h => rfl
  | @collection scope nullable e h => cases e <;> rfl

theorem Template.of_build {root : Node} {c : Configuration} {t : Template}
    (h : Template.build root c = .ok t) :
    root.validate c.evaluator = .ok () ∧ t.root = root ∧ t.configuration = c ∧
      ∀ out, t.fixed = some out → root.render c .null = .ok out := by
  obtain ⟨_, hvalid, h⟩ := bind_eq_ok_iff.mp h
  refine ⟨hvalid, ?_⟩
  split at h
  · obtain rfl := pure_eq_ok_iff.mp h
    exact ⟨rfl, rfl, fun out hout => by cases hout⟩
  · obtain ⟨out, hout, h⟩ := bind_eq_ok_iff.mp h
    obtain rfl := pure_eq_ok_iff.mp h
    refine ⟨rfl, rfl, fun out' hout' => ?_⟩
    obtain rfl := Option.some.inj hout'
    exact hout

theorem Template.compose_of_statement_eq_error {root : Node} {c : Configuration} {t : Template}
    (hbuild : Template.build root c = .ok t) {parameter : Value} {e : Error}
    (h : t.statement parameter = .error e) :
    root.compose c (Node.start c parameter) = .error e := by
  obtain ⟨-, rfl, rfl, -⟩ := of_build hbuild
  cases hfixed : t.fixed with
  | some out =>
    rw [statement, hfixed] at h
    cases h
  | none =>
    rw [statement_eq hfixed] at h
    cases hrender : t.root.render t.configuration parameter with
    | ok out =>
      rw [hrender] at h
      cases h
    | error e' =>
      rw [hrender] at h
      obtain rfl := Except.error.inj h
      rcases bind_eq_error_iff.mp hrender with hcompose | ⟨_, -, hdone⟩
      · exact hcompose
      · cases hdone

theorem Template.run_of_statement {root : Node} {c : Configuration} {t : Template}
    (hbuild : Template.build root c = .ok t) {parameter : Value} {st : Statement}
    (h : t.statement parameter = .ok st) :
    ∃ parameter' d log, Run c (.node root) (Node.start c parameter') d log ∧
      st.mappings = d.mappings := by
  obtain ⟨-, rfl, rfl, hout⟩ := of_build hbuild
  suffices hrender : ∃ parameter' out, t.root.render t.configuration parameter' = .ok out ∧
      st.mappings = out.mappings by
    obtain ⟨parameter', out, hrender, hmappings⟩ := hrender
    obtain ⟨d, hd, rfl⟩ := Node.render_eq_ok_iff.mp hrender
    obtain ⟨log, hrun⟩ := Node.compose_eq_ok_iff.mp hd
    exact ⟨parameter', d, log, hrun, hmappings⟩
  cases hfixed : t.fixed with
  | some out =>
    rw [statement, hfixed] at h
    obtain rfl := Except.ok.inj h
    exact ⟨.null, out, hout out hfixed, rfl⟩
  | none =>
    rw [statement_eq hfixed] at h
    cases hrender : t.root.render t.configuration parameter with
    | ok out =>
      rw [hrender] at h
      obtain rfl := Except.ok.inj h
      exact ⟨parameter, out, hrender, rfl⟩
    | error e =>
      rw [hrender] at h
      cases h

/-- **A statement fails at the text of a placeholder only when the mark of a value stands in
it**: all other placeholders of static texts were read when the template was built. -/
theorem Template.marked_of_placeholder_fault {root : Node} {c : Configuration} {t : Template}
    (hbuild : Template.build root c = .ok t) (hroot : ∀ text, .interpolated text ∉ root.parts)
    {parameter : Value} {e : Error} (h : t.statement parameter = .error e)
    (he : e.isPlaceholderFault = true) :
    ∃ text body, .static text ∈ root.parts ∧ body ∈ Delimiters.placeholder.bodies text ∧
      (Text.cut Delimiters.interpolation.opening.toList body.toList).isSome = true ∧
      Mapping.parse body = .error e := by
  obtain ⟨hvalid, -⟩ := of_build hbuild
  obtain ⟨n, hn, hfault⟩ := root.faultIn_of_compose (compose_of_statement_eq_error hbuild h)
  cases hfault with
  | expression hmem hfails => simp [hfails.not_placeholder_fault] at he
  | interpolated _ => exact absurd hn (hroot _)
  | @static text _ d hstatic =>
    obtain ⟨body, hbody, hparse | ⟨parsed, expression, -, -, hfails⟩⟩ :=
      Draft.exists_body_of_addStatic_eq_error hstatic
    · refine ⟨text, body, hn, hbody, ?_, hparse⟩
      cases hmark : Text.cut Delimiters.interpolation.opening.toList body.toList with
      | some _ => rfl
      | none =>
        obtain ⟨m, hm⟩ := Node.parse_of_validate_static
          (Node.validate_of_mem_parts root hvalid _ hn) hbody hmark
        cases hparse.symm.trans hm
    · simp [hfails.not_placeholder_fault] at he

def Node.escapedMark : Node :=
  .condition "flag" (.static "#\x7b\\$\x7bb, colour=red\x7d")

theorem Node.interpolated_notMem_escapedMark (text : String) :
    .interpolated text ∉ Node.escapedMark.parts := by
  simp [escapedMark, Node.parts]

theorem Template.build_escapedMark :
    Template.build .escapedMark {} = .ok ⟨.escapedMark, {}, none⟩ := by
  cbv

theorem Template.statement_escapedMark :
    Template.statement ⟨.escapedMark, {}, none⟩ (.object [("flag", .bool true)]) =
      .error (.unknownAttribute "colour" "\\$\x7bb, colour=red") := by
  cbv

theorem Template.marked_of_escapedMark :
    Template.build .escapedMark {} = .ok ⟨.escapedMark, {}, none⟩ ∧
      (∀ text, .interpolated text ∉ Node.escapedMark.parts) ∧
      Template.statement ⟨.escapedMark, {}, none⟩ (.object [("flag", .bool true)]) =
        .error (.unknownAttribute "colour" "\\$\x7bb, colour=red") ∧
      ∃ text body, .static text ∈ Node.escapedMark.parts ∧
        body ∈ Delimiters.placeholder.bodies text ∧
        (Text.cut Delimiters.interpolation.opening.toList body.toList).isSome = true ∧
        Mapping.parse body = .error (.unknownAttribute "colour" "\\$\x7bb, colour=red") :=
  ⟨build_escapedMark, Node.interpolated_notMem_escapedMark, statement_escapedMark,
    marked_of_placeholder_fault build_escapedMark Node.interpolated_notMem_escapedMark
      statement_escapedMark rfl⟩

/-- A checked tree without interpolated texts can fail at the text of a placeholder: the
mark in it is escaped, and no value is ever written there. -/
theorem Template.exists_placeholder_fault :
    ∃ root t, Template.build root {} = .ok t ∧ (∀ text, .interpolated text ∉ root.parts) ∧
      t.statement (.object [("flag", .bool true)]) =
        .error (.unknownAttribute "colour" "\\$\x7bb, colour=red") :=
  ⟨_, _, build_escapedMark, Node.interpolated_notMem_escapedMark, statement_escapedMark⟩

/-! ### Malformed expressions -/

namespace Evaluator

theorem parse_of_value_malformed {expression expression' : String} {position : Nat}
    {scope : String → Option Value}
    (h : standard.value expression scope = .error (.malformed expression' position)) :
    expression' = expression ∧ Expr.parse expression = .error position := by
  rcases bind_eq_error_iff.mp h with h | ⟨tree, -, h⟩
  · obtain ⟨position', hparse, heq⟩ := mapError_eq_error_iff.mp h
    obtain ⟨rfl, rfl⟩ := ExprError.malformed.inj heq
    exact ⟨rfl, hparse⟩
  · obtain ⟨fault, -, heq⟩ := mapError_eq_error_iff.mp h
    cases heq

theorem exists_parse_of_validate {expression : String}
    (h : standard.validate expression = .ok ()) : ∃ tree, Expr.parse expression = .ok tree := by
  obtain ⟨tree, htree, -⟩ := bind_eq_ok_iff.mp h
  exact ⟨tree, mapError_eq_ok_iff.mp htree⟩

/-- A value that is no collection is not malformed. -/
theorem entriesOf_ne_malformed {expression expression' : String} {nullable : Bool} {v : Value}
    {position : Nat} :
    entriesOf expression nullable v ≠ .error (.malformed expression' position) := by
  intro h
  cases v with
  | null => cases nullable <;> cases h
  | _ => cases h

end Evaluator

theorem Configuration.Fails.parse_of_malformed {c : Configuration} {expression expression' : String}
    {position : Nat} (hc : c.evaluator = .standard)
    (h : c.Fails expression (.expression (.malformed expression' position))) :
    expression' = expression ∧ Expr.parse expression = .error position := by
  generalize he : Error.expression (.malformed expression' position) = e at h
  cases h with
  | value h =>
    obtain rfl := Error.expression.inj he
    rw [hc] at h
    exact Evaluator.parse_of_value_malformed h
  | test h =>
    obtain rfl := Error.expression.inj he
    rw [hc] at h
    rcases bind_eq_error_iff.mp h with h | ⟨_, -, h⟩
    · exact Evaluator.parse_of_value_malformed h
    · cases h
  | @collection scope nullable error h =>
    obtain rfl : .malformed expression' position = error := by
      cases error <;> first | cases he; rfl | cases he
    rw [hc] at h
    rcases bind_eq_error_iff.mp h with h | ⟨value, -, h⟩
    · exact Evaluator.parse_of_value_malformed h
    · exact absurd h Evaluator.entriesOf_ne_malformed

/-- A checked expression does not fail as malformed. -/
theorem Configuration.not_malformed_of_validate {c : Configuration}
    {expression expression' : String} {position : Nat} (hc : c.evaluator = .standard)
    (h : c.evaluator.validate expression = .ok ()) :
    ¬ c.Fails expression (.expression (.malformed expression' position)) := by
  intro hfails
  obtain ⟨-, hparse⟩ := hfails.parse_of_malformed hc
  rw [hc] at h
  obtain ⟨tree, htree⟩ := Evaluator.exists_parse_of_validate h
  cases hparse.symm.trans htree

/-! ### The placeholders of a run -/

/-- The placeholder stands in a static text among the nodes, if no text among them is
interpolated. -/
def Node.Holds (nodes : List Node) (body : String) : Prop :=
  (∀ text, .interpolated text ∉ nodes) →
    ∃ text, .static text ∈ nodes ∧ body ∈ Delimiters.placeholder.bodies text

theorem Node.Holds.mono {nodes nodes' : List Node} {body : String} (h : Node.Holds nodes body)
    (hsub : nodes ⊆ nodes') : Node.Holds nodes' body := by
  intro hnodes
  obtain ⟨text, hmem, hbody⟩ := h fun text hmem => hnodes text (hsub hmem)
  exact ⟨text, hsub hmem, hbody⟩

/-- **A run meets the placeholders of its static texts**, if it interpolates no text. -/
theorem Run.holds_of_placeholder {c : Configuration} {job : Job} {d d' : Draft} {log : Log}
    (h : Run c job d d' log) {s : Scope} {body : String} (hmem : .placeholder s body ∈ log) :
    Node.Holds job.parts body := by
  -- A part of the job that the run does not reach adds nothing to the log.
  induction h with
  | @static text d d' h =>
    obtain ⟨piece, hpiece, heq⟩ := List.mem_map.mp hmem
    cases piece with
    | literal text => cases heq
    | span span =>
      obtain ⟨-, rfl⟩ := Event.placeholder.inj heq
      exact fun _ => ⟨text, List.mem_cons_self, Delimiters.mem_bodies_iff.mpr ⟨span, hpiece, rfl⟩⟩
  | interpolated hw h => exact fun hjob => absurd List.mem_cons_self (hjob _)
  | condition h ih =>
    exact (ih hmem).mono (by simp [Job.parts, Node.parts, Node.partsBranches, Node.partsFallback])
  | choice h ih => exact (ih hmem).mono (List.subset_cons_self _ _)
  | otherwise h ih => exact (ih hmem).mono (List.subset_cons_self _ _)
  | item h ih => exact (ih hmem).mono (List.subset_cons_self _ _)
  | group h ih => exact (ih hmem).mono (List.subset_cons_self _ _)
  | wrapped h ht ih => exact (ih hmem).mono (List.subset_cons_self _ _)
  | dropped h ht ih => exact (ih hmem).mono (List.subset_cons_self _ _)
  | forEach h ih => exact (ih hmem).mono (List.subset_cons_self _ _)
  | list ht h ih => exact (ih hmem).mono (List.subset_cons_self _ _)
  | listed ht hb h ih =>
    exact (ih (List.mem_of_ne_of_mem (by simp) hmem)).mono (List.subset_cons_self _ _)
  | unlisted ht hb => simp at hmem
  | bind hv => simp at hmem
  | sequence h ih => exact (ih hmem).mono (List.subset_cons_self _ _)
  | empty => cases hmem
  | nil => cases hmem
  | cons h hr ih ihr =>
    rcases List.mem_append.mp hmem with hmem | hmem
    · exact (ih hmem).mono (List.subset_append_left _ _)
    · exact (ihr hmem).mono (List.subset_append_right _ _)
  | chosen hb h ih =>
    refine (ih (List.mem_of_ne_of_mem (by simp) hmem)).mono ?_
    rw [Job.parts, Job.parts, Node.partsBranches, List.append_assoc]
    exact List.subset_append_left _ _
  | passed hb h ih =>
    refine (ih (List.mem_of_ne_of_mem (by simp) hmem)).mono ?_
    rw [Job.parts, Job.parts, Node.partsBranches, List.append_assoc]
    exact List.subset_append_right _ _
  | defaulted h ih => exact ih hmem
  | unchosen => cases hmem
  | iterate he h ih => exact ih (List.mem_of_ne_of_mem (by simp) hmem)
  | idle he h => simp at hmem
  | done => cases hmem
  | round h hr ih ihr =>
    rcases List.mem_append.mp hmem with hmem | hmem
    · exact ih hmem
    · exact ihr hmem

theorem Draft.expression_of_capture {c : Configuration} {scope : Scope} {m m' : Mapping}
    (h : Draft.capture c scope m = .ok m') : m'.expression = m.expression := by
  rw [capture] at h
  split at h
  · obtain rfl := Except.ok.inj h
    rfl
  · split at h
    · obtain ⟨value, -, h⟩ := bind_eq_ok_iff.mp h
      obtain rfl := pure_eq_ok_iff.mp h
      rfl
    · split at h
      split at h <;> obtain rfl := Except.ok.inj h <;> rfl

/-- A mapping of a run has the expression of a placeholder that the run meets. -/
theorem Run.exists_placeholder_of_mem_mappings {c : Configuration} {job : Job} {d d' : Draft}
    {log : Log} (h : Run c job d d' log) (hd : d.mappings = []) {m : Mapping}
    (hm : m ∈ d'.mappings) :
    ∃ s body parsed, .placeholder s body ∈ log ∧ Mapping.parse body = .ok parsed ∧
      m.expression = parsed.expression := by
  obtain ⟨new, hnew, hcaptured⟩ := h.mappings
  rw [hnew, hd, List.nil_append] at hm
  obtain ⟨i, hi, rfl⟩ := List.mem_iff_getElem.mp hm
  obtain ⟨parsed, hparsed, hcapture⟩ := hcaptured.get (hcaptured.length_eq ▸ hi) hi
  obtain ⟨event, hevent, hplace⟩ :=
    List.mem_filterMap.mp (List.get_mem log.placeholders ⟨i, hcaptured.length_eq ▸ hi⟩)
  cases event with
  | placeholder s body =>
    rw [← Option.some.inj hplace] at hparsed hcapture
    exact ⟨s, body, parsed, hevent, hparsed, Draft.expression_of_capture hcapture⟩
  | _ => cases hplace

/-- The values of a statement fail at the expression of a mapping. -/
theorem Statement.exists_of_values_eq_error {st : Statement} {c : Configuration}
    {parameter : Value} {e : Error} (h : st.values c.evaluator parameter = .error e) :
    ∃ m ∈ st.mappings, ∃ expression, m.expression = some expression ∧ c.Fails expression e := by
  obtain ⟨m, hm, h⟩ := exists_of_mapM_eq_error h
  refine ⟨m, hm, ?_⟩
  cases hvalue : m.value with
  | some value =>
    simp only [valueOf, hvalue] at h
    cases h
  | none =>
    cases hexpression : m.expression with
    | some expression =>
      simp only [valueOf, hvalue, hexpression] at h
      obtain ⟨e', he', rfl⟩ := mapError_eq_error_iff.mp h
      exact ⟨expression, rfl, .value he'⟩
    | none =>
      simp only [valueOf, hvalue, hexpression] at h
      split at h
      · cases h
      · cases parameter <;> cases h

theorem Statement.values_of_arguments_eq_error {st : Statement} {e : Evaluator}
    {parameter : Value} {error : Error} (h : st.arguments e parameter = .error error) :
    st.values e parameter = .error error := by
  rcases bind_eq_error_iff.mp h with h | ⟨_, -, h⟩
  · exact h
  · cases h

/-! ### Where malformed expressions stand -/

/-- The expression of a placeholder of a static text among the nodes is malformed there. -/
def Node.MalformedPlaceholder (nodes : List Node) (expression : String) (position : Nat) : Prop :=
  ∃ text body m, .static text ∈ nodes ∧ body ∈ Delimiters.placeholder.bodies text ∧
    Mapping.parse body = .ok m ∧ m.expression = some expression ∧
    Expr.parse expression = .error position

section Malformed

variable {root : Node} {c : Configuration} {t : Template} {expression : String} {position : Nat}

theorem Template.malformedPlaceholder_of_statement (hbuild : Template.build root c = .ok t)
    (hc : c.evaluator = .standard) (hroot : ∀ text, .interpolated text ∉ root.parts)
    {parameter : Value}
    (h : t.statement parameter = .error (.expression (.malformed expression position))) :
    Node.MalformedPlaceholder root.parts expression position := by
  obtain ⟨hvalid, -⟩ := of_build hbuild
  obtain ⟨n, hn, hfault⟩ := root.faultIn_of_compose (compose_of_statement_eq_error hbuild h)
  cases hfault with
  | @expression _ expression' _ hmem hfails =>
    have hchecked : c.evaluator.validate expression' = .ok () :=
      Node.validate_of_mem_expressions (Node.validate_of_mem_parts root hvalid n hn) _ hmem
    exact absurd hfails (Configuration.not_malformed_of_validate hc hchecked)
  | interpolated _ => exact absurd hn (hroot _)
  | @static text _ d hstatic =>
    obtain ⟨body, hbody, hparse | ⟨m, expression', hm, hexpression, hfails⟩⟩ :=
      Draft.exists_body_of_addStatic_eq_error hstatic
    · have hfault := Mapping.isPlaceholderFault_of_parse_eq_error hparse
      cases hfault
    · obtain ⟨rfl, hposition⟩ := hfails.parse_of_malformed hc
      exact ⟨text, body, m, hn, hbody, hm, hexpression, hposition⟩

theorem Template.malformedPlaceholder_of_values (hbuild : Template.build root c = .ok t)
    (hc : c.evaluator = .standard) (hroot : ∀ text, .interpolated text ∉ root.parts)
    {parameter parameter' : Value} {st : Statement} (hst : t.statement parameter = .ok st)
    (h : st.values c.evaluator parameter' =
      .error (.expression (.malformed expression position))) :
    Node.MalformedPlaceholder root.parts expression position := by
  obtain ⟨start, d, log, hrun, hmappings⟩ := run_of_statement hbuild hst
  obtain ⟨m, hm, expression', hexpression, hfails⟩ := Statement.exists_of_values_eq_error h
  obtain ⟨rfl, hposition⟩ := hfails.parse_of_malformed hc
  obtain ⟨s, body, parsed, hmem, hparsed, heq⟩ :=
    hrun.exists_placeholder_of_mem_mappings rfl (hmappings ▸ hm)
  obtain ⟨text, htext, hbody⟩ := hrun.holds_of_placeholder hmem hroot
  exact ⟨text, body, parsed, htext, hbody, hparsed, heq ▸ hexpression, hposition⟩

/-- **A template fails with a malformed expression only at that of a placeholder**, when a
statement is composed and when its values or arguments are asked for: all other expressions
were checked when the template was built. -/
theorem Template.malformedPlaceholder_of_malformed (hbuild : Template.build root c = .ok t)
    (hc : c.evaluator = .standard) (hroot : ∀ text, .interpolated text ∉ root.parts)
    {parameter parameter' : Value} {e : Error}
    (he : e = .expression (.malformed expression position))
    (h : t.statement parameter = .error e ∨ ∃ st, t.statement parameter = .ok st ∧
      (st.values c.evaluator parameter' = .error e ∨
        st.arguments c.evaluator parameter' = .error e)) :
    Node.MalformedPlaceholder root.parts expression position := by
  subst he
  rcases h with h | ⟨st, hst, h | h⟩
  · exact malformedPlaceholder_of_statement hbuild hc hroot h
  · exact malformedPlaceholder_of_values hbuild hc hroot hst h
  · exact malformedPlaceholder_of_values hbuild hc hroot hst
      (Statement.values_of_arguments_eq_error h)

end Malformed

def Node.malformedSum : Node :=
  .static "#\x7b(a +)\x7d"

theorem Node.interpolated_notMem_malformedSum (text : String) :
    .interpolated text ∉ Node.malformedSum.parts := by
  simp [malformedSum, Node.parts]

def Composed.ofMalformedSum : Composed :=
  { sql := "?", mappings := [{ property := "a +", expression := some "a +" }], bindings := [] }

theorem Template.build_malformedSum :
    Template.build .malformedSum {} = .ok ⟨.malformedSum, {}, some .ofMalformedSum⟩ := by
  cbv

theorem Template.values_malformedSum :
    ∃ st, Template.statement ⟨.malformedSum, {}, some .ofMalformedSum⟩ .null = .ok st ∧
      st.values .standard .null = .error (.expression (.malformed "a +" 3)) := by
  refine ⟨_, rfl, ?_⟩
  cbv

theorem Template.malformedPlaceholder_of_malformedSum :
    Template.build .malformedSum {} = .ok ⟨.malformedSum, {}, some .ofMalformedSum⟩ ∧
      (∀ text, .interpolated text ∉ Node.malformedSum.parts) ∧
      (∃ st, Template.statement ⟨.malformedSum, {}, some .ofMalformedSum⟩ .null = .ok st ∧
        st.values .standard .null = .error (.expression (.malformed "a +" 3))) ∧
      Node.MalformedPlaceholder Node.malformedSum.parts "a +" 3 := by
  refine ⟨build_malformedSum, Node.interpolated_notMem_malformedSum, values_malformedSum, ?_⟩
  obtain ⟨st, hst, hvalues⟩ := values_malformedSum
  exact malformedPlaceholder_of_malformed build_malformedSum rfl
    Node.interpolated_notMem_malformedSum rfl (.inr ⟨st, hst, .inl hvalues⟩)

/-- The values of a checked tree without interpolated texts can fail with a malformed
expression: that of a placeholder is never checked. -/
theorem Template.exists_malformed_values :
    ∃ root t st, Template.build root {} = .ok t ∧ (∀ text, .interpolated text ∉ root.parts) ∧
      t.statement .null = .ok st ∧
      st.values .standard .null = .error (.expression (.malformed "a +" 3)) := by
  obtain ⟨st, hst, hvalues⟩ := values_malformedSum
  exact ⟨_, _, st, build_malformedSum, Node.interpolated_notMem_malformedSum, hst, hvalues⟩

end QueryTemplate
