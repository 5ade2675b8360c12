import QueryTemplate.Proofs.Name
import QueryTemplate.Proofs.Run.Rounds
import QueryTemplate.Proofs.Run.Steps
import QueryTemplate.Proofs.Values

/-!
# Memberships

A membership writes a mark for each item of its collection.  Each mark comes from the same
placeholder, whose name stands for another item in each round; the item is fixed with the
mapping, so that nothing that a name means later can change it.

* `Draft.capture_of_scoped?`: a name that a nested scope binds is fixed with its value.
* `Membership.addStatic_fresh`: what one round of a membership adds.
* `Membership.compose_of_entries`: what a membership adds.
* `Node.values_of_membership`: what its marks stand for when the statement runs.
-/

namespace QueryTemplate

/-! ### Names that are bound in a nested scope -/

theorem Loop.get?_names {loop : Loop} {item : String} (h : loop.item = some item)
    (entry : Value × Value) : Members.get? (loop.names entry) item = some entry.2 := by
  rw [names, h]
  cases loop.index with
  | none => simp [Members.get?]
  | some index =>
    by_cases heq : index = item
    · simp [Members.get?, heq]
    · have hne : (item == index) = false := by simpa using Ne.symm heq
      simp [Members.get?, heq, List.lookup_cons, hne]

theorem Scope.scoped?_of_get? {s : Scope} {name : String} {value : Value}
    (hroot : s.isRoot = false) (h : Members.get? s.bindings name = some value) :
    s.scoped? name = some value := by
  obtain ⟨parameter, databaseId, bindings, enclosing⟩ := s
  cases enclosing with
  | nil => cases hroot
  | cons outer more => simp [scoped?, findIn?, frames, h]

/-- **A name that a nested scope binds is fixed with its value.** -/
theorem Draft.capture_of_scoped? {c : Configuration} {s : Scope} {name : String} {value : Value}
    (hname : Expr.isName name = true) (hroot : s.isRoot = false)
    (h : s.scoped? name = some value) :
    capture c s { property := name } = .ok { property := name, value := some value } := by
  rw [capture, hroot]
  simp only [Path.splitRoot_of_isName hname, h, Bool.false_eq_true, if_false]
  rw [propertyOf, Path.get?_empty, Option.getD_some]

namespace Membership

variable {c : Configuration} {m : Membership}

/-! ### The rounds of a membership -/

def mapping (m : Membership) (item : Value) : Mapping :=
  { property := m.item, value := some item }

/-- The parts of the rounds for the entries, behind a number of mappings. -/
def parts (c : Configuration) (m : Membership) : Nat → Entries → List Loop.Part
  | _, [] => []
  | k, entry :: rest => ⟨c.marker (k + 1), [m.mapping entry.2]⟩ :: parts c m (k + 1) rest

theorem texts_parts (k : Nat) (entries : Entries) :
    (parts c m k entries).map Loop.Part.text =
      (List.range' (k + 1) entries.length).map c.marker := by
  induction entries generalizing k with
  | nil => rfl
  | cons entry rest ih =>
    rw [parts, List.map_cons, ih, List.length_cons, List.range'_succ, List.map_cons]

theorem mappings_parts (k : Nat) (entries : Entries) :
    (parts c m k entries).flatMap Loop.Part.mappings =
      entries.map fun entry => m.mapping entry.2 := by
  induction entries generalizing k with
  | nil => rfl
  | cons entry rest ih => rw [parts, List.flatMap_cons, ih, List.map_cons, List.singleton_append]

/-- One round writes the next mark, for the item of its entry. -/
theorem addStatic_fresh (hitem : Expr.isName m.item = true) (scope : Scope)
    (mappings : List Mapping) (entry : Value × Value) :
    (m.loop.fresh scope mappings entry).addStatic c m.placeholder = .ok
      { m.loop.fresh scope mappings entry with
        sql := c.marker (mappings.length + 1)
        mappings := mappings ++ [m.mapping entry.2] } := by
  have hbound : Members.get? (m.loop.names entry) m.item = some entry.2 :=
    Loop.get?_names rfl entry
  have hscoped : (m.loop.fresh scope mappings entry).scope.scoped? m.item = some entry.2 :=
    Scope.scoped?_of_get? rfl hbound
  rw [placeholder, Draft.addStatic_placeholder (Delimiters.pieces_placeholder_of_isName hitem)
    (Mapping.parse_of_isName hitem) (Draft.capture_of_scoped? hitem rfl hscoped)]
  rw [Loop.fresh, String.empty_append]
  rfl

theorem parts_addStatic (hitem : Expr.isName m.item = true) (scope : Scope)
    (mappings : List Mapping) (entries : Entries) :
    m.loop.Parts (Draft.addStatic c m.placeholder) scope mappings entries
      (parts c m mappings.length entries) := by
  induction entries generalizing mappings with
  | nil => exact .nil
  | cons entry rest ih =>
    have hrest := ih (mappings ++ [m.mapping entry.2])
    rw [List.length_append, List.length_singleton] at hrest
    exact .cons (addStatic_fresh hitem scope mappings entry) rfl rfl hrest

/-- **What a membership adds:** a mark and a mapping for each item. -/
theorem compose_of_entries {d : Draft} {entry : Value × Value} {rest : Entries}
    (hitem : Expr.isName m.item = true) (hmarker : ∀ k, Text.isAllBlank (c.marker k) = false)
    (htest : ∀ test, m.test = some test → c.evaluator.holds test d.scope.lookup = .ok true)
    (hentries : m.loop.entries c d.scope = .ok (some (entry :: rest))) :
    m.compose c d = .ok { d with
      sql := d.sql ++ (" in (" ++ String.intercalate ","
        ((List.range' (d.mappings.length + 1) (rest.length + 1)).map c.marker) ++ ")")
      mappings := d.mappings ++ (entry :: rest).map fun e => m.mapping e.2 } := by
  have hchild : ∀ {d inner : Draft}, Draft.addStatic c m.placeholder d = .ok inner →
      d.mappings <+: inner.mappings :=
    fun h => (Run.static h).mappings_isPrefix
  have hshown : Loop.shown (parts c m d.mappings.length (entry :: rest)) =
      (List.range' (d.mappings.length + 1) (rest.length + 1)).map c.marker := by
    rw [Loop.shown, texts_parts, List.filter_eq_self.mpr]
    · rfl
    · intro text htext
      obtain ⟨k, -, rfl⟩ := List.mem_map.mp htext
      rw [hmarker, Bool.not_false]
  have hrounds : m.loop.rounds (Draft.addStatic c m.placeholder) d (entry :: rest) = .ok (_, _) :=
    (Loop.rounds_eq_ok_iff hchild).mpr
      ⟨_, parts_addStatic hitem d.scope d.mappings (entry :: rest), rfl, rfl⟩
  have hlist : ∀ marks, " in " ++ m.loop.written marks =
      " in (" ++ String.intercalate "," marks ++ ")" := by
    intro marks
    show " in " ++ ("(" ++ String.intercalate "," marks ++ ")") =
      " in " ++ "(" ++ String.intercalate "," marks ++ ")"
    simp only [String.append_assoc]
  rw [compose_of_holds htest, Loop.render_of_entries hentries, hrounds, hshown, mappings_parts]
  simp only [Except.map, Option.elim_some, hlist, Draft.append]

end Membership

/-! ### The values behind the marks -/

theorem Evaluator.map_snd_numbered (start : Nat) (items : List Value) :
    (numbered start items).map Prod.snd = items := by
  induction items generalizing start with
  | nil => rfl
  | cons item rest ih => rw [numbered, List.map_cons, ih]

/-- The entries of a collection hold the items of an array or the members of an object. -/
theorem Evaluator.items_of_entriesOf {expression : String} {nullable : Bool} {found : Value}
    {entries : Entries} (h : entriesOf expression nullable found = .ok (some entries)) :
    found = .array (entries.map Prod.snd) ∨
      ∃ members, found = .object members ∧ members.map Prod.snd = entries.map Prod.snd := by
  cases found with
  | array items =>
    obtain rfl := Option.some.inj (Except.ok.inj h)
    exact .inl (congrArg Value.array (map_snd_numbered 0 items).symm)
  | object members =>
    obtain rfl := Option.some.inj (Except.ok.inj h)
    exact .inr ⟨members, rfl, by rw [List.map_map]; rfl⟩
  | null =>
    rw [entriesOf] at h
    split at h <;> cases h
  | _ => cases h

/-- **The items of a collection are the values of the marks of a membership.**  The membership
adds a mark and a mapping for each item, wherever in a template it stands.  Whatever is
composed, added to the statement or passed to it afterwards, the values at those places are
the items. -/
theorem Node.values_of_membership {c : Configuration} {m : Membership} {d : Draft}
    {entry : Value × Value} {rest : Entries} (hitem : Expr.isName m.item = true)
    (hmarker : ∀ k, Text.isAllBlank (c.marker k) = false)
    (htest : ∀ test, m.test = some test → c.evaluator.holds test d.scope.lookup = .ok true)
    (hentries : m.loop.entries c d.scope = .ok (some (entry :: rest))) :
    ∃ d' new, (Node.membership m).compose c d = .ok d' ∧
      d' = { d with
        sql := d.sql ++ (" in (" ++ String.intercalate ","
          ((List.range' (d.mappings.length + 1) (rest.length + 1)).map c.marker) ++ ")")
        mappings := d.mappings ++ new } ∧
      new.length = rest.length + 1 ∧
      (∀ root parameter last t s,
        Composition.Inside c ⟨.node (.membership m), d, d'⟩
          ⟨.node root, Node.start c parameter, last⟩ →
        Template.build root c = .ok t → t.statement parameter = .ok s →
        ∀ s' : Statement, s.mappings <+: s'.mappings → ∀ (e : Evaluator) (later : Value) values,
          s'.values e later = .ok values → ∀ i item,
          ((entry :: rest).map Prod.snd)[i]? = some item →
          values[d.mappings.length + i]? = some item) ∧
      ∀ value validate found, c.evaluator = .ofValue value validate →
        value m.collection d.scope.lookup = .ok found →
        found = .array ((entry :: rest).map Prod.snd) ∨
          ∃ members, found = .object members ∧
            members.map Prod.snd = (entry :: rest).map Prod.snd := by
  have hcompose := Membership.compose_of_entries hitem hmarker htest hentries
  refine ⟨_, _, by rw [Node.compose, hcompose], rfl, by simp, ?_, ?_⟩
  · intro root parameter last t s hinside hbuild hs s' hfront e later values hvalues i item hi
    have hruns : Composition.Runs c ⟨.node (.membership m), d, _⟩ :=
      Node.compose_eq_ok_iff.mp (by rw [Node.compose, hcompose])
    have hmappings := (Template.mappings_of_inside hbuild hruns rfl hinside hs).trans hfront
    have hmapping : ((entry :: rest).map fun e => m.mapping e.2)[i]? = some (m.mapping item) := by
      rw [← Function.comp_def m.mapping, ← List.map_map, List.getElem?_map, hi]
      rfl
    exact Statement.getElem?_values hvalues hmappings hmapping rfl
  · intro value validate found hc hfound
    rw [Loop.entries_ofValue hc hfound] at hentries
    exact Evaluator.items_of_entriesOf hentries

theorem Composition.inside_of_item {c : Configuration} (connector : Connector) {a b : Node}
    {start mid d : Draft} {log log' : Log} (ha : Run c (.node a) start mid log)
    (hb : Run c (.node b) mid.nested d log') (n : Node) (d' : Draft) :
    Inside c ⟨.node n, d, d'⟩ ⟨.node (.sequence [a, .item connector (.sequence [b, n])]), start,
      (mid.resume d').append (connector.itemText d'.sql)⟩ := by
  have hpart : Inside c ⟨.node n, d, d'⟩ ⟨.node (.sequence [b, n]), mid.nested, d'⟩ :=
    ((Relation.ReflTransGen.single (.head .nil)).tail (.tail hb)).tail .sequence
  exact (((hpart.tail .item).tail (.head .nil)).tail (.tail ha)).tail .sequence

/-- A membership with the name of the index, in a connected part behind a placeholder of that
name. -/
theorem Node.values_of_membership_index :
    ∃ (c : Configuration) (m : Membership) (t : Template) (s : Statement) (values : List Value),
      m.item = "index" ∧
      Template.build (.sequence [.static "select #\x7bindex\x7d",
        .item .and (.sequence [.static "b", .membership m])]) c = .ok t ∧
      t.statement (.object [("index", .string "a"), ("ids", .array [.null, .array [.null]])]) =
        .ok s ∧
      s.sql = "select ? AND b in (?,?)" ∧
      s.values c.evaluator (.string "later") = .ok values ∧
      values[0]? = some (.string "later") ∧ values[1]? = some .null ∧
      values[2]? = some (.array [.null]) := by
  let c : Configuration := { evaluator := .lookup }
  let m : Membership := { collection := "ids", item := "index" }
  let select : Node := .static "select #\x7bindex\x7d"
  let root : Node := .sequence [select, .item .and (.sequence [.static "b", .membership m])]
  let parameter : Value :=
    .object [("index", .string "a"), ("ids", .array [.null, .array [.null]])]
  let first : Draft := { Node.start c parameter with
    sql := "select ?", mappings := [{ property := "index" }] }
  let d : Draft := { first.nested with sql := "b" }
  let mappings : List Mapping := [{ property := "index" },
    { property := "index", value := some .null },
    { property := "index", value := some (.array [.null]) }]
  let last : Draft := { d with sql := "b in (?,?)", mappings }
  have hentries : m.loop.entries c d.scope =
      .ok (some [(.ofNat 0, .null), (.ofNat 1, .array [.null])]) := by
    cbv
  have hcompose : (Node.membership m).compose c d = .ok last := by
    cbv
  obtain ⟨d', new, hd', -, -, hvalues, -⟩ := Node.values_of_membership (c := c) (m := m) (d := d)
    (by decide +kernel) (fun k => by cbv) (by rintro test ⟨⟩) hentries
  obtain rfl := Except.ok.inj (hcompose.symm.trans hd')
  have hselect : Run c (.node select) (Node.start c parameter) first _ := .static (by cbv)
  have hb : Run c (.node (.static "b")) first.nested d _ := .static (by cbv)
  have hbuild : Template.build root c = .ok { root, configuration := c, fixed := none } := by
    cbv
  have hinside := Composition.inside_of_item .and hselect hb (.membership m) last
  obtain ⟨log, hroot⟩ := hinside.runs (Node.compose_eq_ok_iff.mp hcompose)
  let s : Statement :=
    (((first.resume last).append (Connector.and.itemText last.sql)).composed c).statement c
  have hs : Template.statement { root, configuration := c, fixed := none } parameter = .ok s := by
    rw [Template.statement_eq rfl, Node.render_eq_ok_iff.mpr ⟨_, hroot.composes, rfl⟩]
    rfl
  have hpart : Connector.and.itemText "b in (?,?)" = " AND b in (?,?)" := by
    decide +kernel
  have hsql : s.sql = "select ? AND b in (?,?)" := by
    show "select ?" ++ Connector.and.itemText "b in (?,?)" = _
    rw [hpart]
    rfl
  have hlate : ∀ sql, Statement.values { sql, mappings, bindings := [] } c.evaluator
      (.string "later") = .ok [.string "later", .null, .array [.null]] := by
    intro sql
    cbv
  have hitems := hvalues root parameter _ _ s hinside hbuild hs s List.prefix_rfl _ _ _ (hlate _)
  exact ⟨c, m, _, s, _, rfl, hbuild, hs, hsql, hlate _, rfl, hitems 0 _ rfl, hitems 1 _ rfl⟩

end QueryTemplate
