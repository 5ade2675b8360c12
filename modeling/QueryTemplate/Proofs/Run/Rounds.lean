import QueryTemplate.Proofs.Run.Frame

/-!
# What the rounds of a loop add

Each round of a loop composes the child in a scope of its own, which knows the names of one
entry, behind the mappings of the rounds before it.  What the child adds there is the part of
that round (`Loop.Parts`).  The loop keeps a text, a list of texts and a list of mappings
while it goes on; all that comes of them is said by the parts alone.

* `Loop.enter_eq`: the draft that a round starts with.
* `Loop.rounds_eq_ok_iff`: the rounds of a loop are its parts, without the texts of blanks.
* `Loop.written_eq`: the texts stand in a row with separators between them, and nowhere else.
* `Node.compose_forEach_eq_ok_iff_parts`: a loop adds the parts of its rounds.
-/

namespace QueryTemplate

namespace Loop

open Outcome

/-! ### The names of an entry -/

/-- The names that a round for an entry knows: the one of the index and the one of the item,
and of two that are the same the one of the item. -/
def names (loop : Loop) (entry : Value × Value) : Members :=
  match loop.index, loop.item with
  | none, none => []
  | some index, none => [(index, entry.1)]
  | none, some item => [(item, entry.2)]
  | some index, some item =>
    if index = item then [(item, entry.2)] else [(index, entry.1), (item, entry.2)]

def fresh (loop : Loop) (scope : Scope) (mappings : List Mapping) (entry : Value × Value) :
    Draft where
  scope := { scope.nested with bindings := loop.names entry }
  sql := ""
  mappings := mappings

theorem enter_eq (loop : Loop) (d : Draft) (entry : Value × Value) :
    loop.enter d entry = loop.fresh d.scope d.mappings entry := by
  rw [enter, fresh, names]
  cases loop.index with
  | none => cases loop.item <;> rfl
  | some index =>
    cases loop.item with
    | none => rfl
    | some item =>
      -- the item comes after the index, in its place when the names are the same
      by_cases h : index = item
      · subst h
        simp [Draft.bind, Draft.nested, Scope.bind, Scope.nested, Members.insert]
      · simp [Draft.bind, Draft.nested, Scope.bind, Scope.nested, Members.insert, h, Ne.symm h]

/-! ### The parts of a loop -/

structure Part where
  text : String
  mappings : List Mapping

/-- Rounds for the entries, in a scope and behind some mappings, add the parts. -/
inductive Parts (loop : Loop) (child : Draft → Except Error Draft) (scope : Scope) :
    List Mapping → Entries → List Part → Prop
  | nil {before} : Parts loop child scope before [] []
  | cons {before entry rest part parts inner}
      (h : child (loop.fresh scope before entry) = .ok inner)
      (htext : inner.sql = part.text) (hmappings : inner.mappings = before ++ part.mappings)
      (hrest : Parts loop child scope (before ++ part.mappings) rest parts) :
      Parts loop child scope before (entry :: rest) (part :: parts)

def shown (parts : List Part) : List String :=
  (parts.map Part.text).filter fun text => !Text.isAllBlank text

def separated (separator : String) : List String → String
  | [] => ""
  | first :: more => first ++ String.join (more.map fun text => separator ++ text)

theorem shown_cons (part : Part) (parts : List Part) :
    shown (part :: parts) =
      if Text.isAllBlank part.text then shown parts else part.text :: shown parts := by
  rw [shown, shown, List.map_cons, List.filter_cons]
  cases Text.isAllBlank part.text <;> rfl

theorem intercalate_eq_separated (separator : String) (texts : List String) :
    String.intercalate separator texts = separated separator texts := by
  induction texts with
  | nil => rfl
  | cons first more ih =>
    cases more with
    | nil => simp [separated]
    | cons second rest =>
      rw [String.intercalate_cons_cons, ih, separated, separated, List.map_cons, String.join_cons]
      simp only [String.append_assoc]

/-- What a loop writes has separators between texts and nowhere else. -/
theorem written_eq (loop : Loop) (texts : List String) :
    loop.written texts = loop.opening ++ separated loop.separator texts ++ loop.closing := by
  rw [written, intercalate_eq_separated]

/-- **The rounds of a loop are its parts.**  The child may do anything but take mappings
away. -/
theorem rounds_eq_ok_iff {loop : Loop} {child : Draft → Except Error Draft}
    (hchild : ∀ {d inner : Draft}, child d = .ok inner → d.mappings <+: inner.mappings)
    {entries : Entries} {texts : List String} {d d' : Draft} :
    loop.rounds child d entries = .ok (d', texts) ↔
      ∃ parts, loop.Parts child d.scope d.mappings entries parts ∧ texts = shown parts ∧
        d' = { d with mappings := d.mappings ++ parts.flatMap Part.mappings } := by
  induction entries generalizing d d' texts with
  | nil =>
    constructor
    · intro h
      obtain ⟨rfl, rfl⟩ := Prod.mk.inj (Except.ok.inj h)
      exact ⟨[], .nil, rfl, by simp⟩
    · rintro ⟨parts, ⟨⟩, rfl, rfl⟩
      simp [rounds, shown]
  | cons entry rest ih =>
    rw [rounds, bind_eq_ok_iff]
    constructor
    · rintro ⟨inner, hinner, h⟩
      obtain ⟨⟨after, more⟩, hrest, h⟩ := bind_eq_ok_iff.mp h
      obtain ⟨rfl, rfl⟩ := Prod.mk.inj (pure_eq_ok_iff.mp h)
      -- the other rounds go on from the mappings that the child has left
      obtain ⟨parts, hparts, rfl, rfl⟩ := ih.mp hrest
      obtain ⟨new, hnew⟩ := hchild hinner
      rw [enter_mappings] at hnew
      rw [enter_eq] at hinner
      rw [Draft.resume, ← hnew] at hparts
      refine ⟨⟨inner.sql, new⟩ :: parts, .cons hinner rfl hnew.symm hparts, ?_, ?_⟩
      · rw [shown_cons]
      · simp [Draft.resume, ← hnew]
    · rintro ⟨parts, hparts, rfl, rfl⟩
      cases hparts with
      | @cons _ _ _ part parts inner hinner htext hmappings hrest =>
        rw [← enter_eq] at hinner
        rw [← hmappings] at hrest
        have hafter := (ih (d := d.resume inner)).mpr ⟨parts, hrest, rfl, rfl⟩
        refine ⟨inner, hinner, bind_eq_ok_iff.mpr ⟨_, hafter, ?_⟩⟩
        rw [pure_eq_ok_iff, shown_cons, htext, Draft.resume, hmappings]
        simp

end Loop

/-! ### Loops over values -/

namespace Evaluator

theorem numbered_eq (start : Nat) (items : List Value) :
    numbered start items = items.mapIdx fun k item => (Value.ofNat (start + k), item) := by
  induction items generalizing start with
  | nil => rfl
  | cons item rest ih =>
    rw [numbered, ih, List.mapIdx_cons]
    simp [Nat.add_assoc, Nat.add_comm 1]

end Evaluator

theorem Loop.entries_ofValue {c : Configuration} {loop : Loop} {scope : Scope}
    {value : String → (String → Option Value) → Except ExprError Value}
    {validate : String → Except ExprError Unit} (hc : c.evaluator = .ofValue value validate)
    {found : Value} (hfound : value loop.collection scope.lookup = .ok found) :
    loop.entries c scope =
      Evaluator.entriesOf loop.collection (loop.nullable.getD c.nullable) found := by
  rw [entries, hc]
  show (value loop.collection scope.lookup >>= _) = _
  rw [hfound]
  rfl

/-- **What a loop adds.**  Over some entries these are the texts of its rounds, without the
blank ones, with separators between them, and the mappings of all rounds; where there are no
entries the loop adds nothing.  An array has its positions for keys, and an object its
names. -/
theorem Node.compose_forEach_eq_ok_iff_parts (c : Configuration) (loop : Loop) (child : Node)
    (d : Draft) :
    (∀ d', (Node.forEach loop child).compose c d = .ok d' ↔
      (∃ entries, loop.entries c d.scope = .ok entries ∧ entries.getD [] = [] ∧ d' = d) ∨
      ∃ entry rest parts, loop.entries c d.scope = .ok (some (entry :: rest)) ∧
        loop.Parts (child.compose c) d.scope d.mappings (entry :: rest) parts ∧
        d' = { d with
          sql := d.sql ++ (loop.opening ++ Loop.separated loop.separator (Loop.shown parts) ++
            loop.closing)
          mappings := d.mappings ++ parts.flatMap Loop.Part.mappings }) ∧
    ∀ value validate, c.evaluator = .ofValue value validate → ∀ found,
      value loop.collection d.scope.lookup = .ok found →
      (∀ items, found = .array items → loop.entries c d.scope =
        .ok (some (items.mapIdx fun k item => (.ofNat k, item)))) ∧
      (∀ members, found = .object members → loop.entries c d.scope =
        .ok (some (members.map fun member => (.string member.1, member.2)))) ∧
      (found = .null → loop.nullable.getD c.nullable = true →
        loop.entries c d.scope = .ok none) := by
  have hchild : ∀ {d inner : Draft}, child.compose c d = .ok inner →
      d.mappings <+: inner.mappings := by
    intro d inner h
    obtain ⟨log, hrun⟩ := Node.compose_eq_ok_iff.mp h
    exact hrun.mappings_isPrefix
  constructor
  · intro d'
    rw [Node.compose_forEach_eq_ok_iff]
    constructor
    · rintro ⟨after, text, hr, rfl⟩
      rcases Loop.render_eq_ok_iff.mp hr with
        ⟨entries, he, hn, rfl, rfl⟩ | ⟨entry, rest, texts, he, hrounds, rfl⟩
      · exact .inl ⟨entries, he, hn, rfl⟩
      · obtain ⟨parts, hparts, rfl, rfl⟩ := (Loop.rounds_eq_ok_iff hchild).mp hrounds
        refine .inr ⟨entry, rest, parts, he, hparts, ?_⟩
        rw [Option.elim_some, Loop.written_eq, Draft.append]
    · rintro (⟨entries, he, hn, rfl⟩ | ⟨entry, rest, parts, he, hparts, rfl⟩)
      · exact ⟨d', none, Loop.render_eq_ok_iff.mpr (.inl ⟨entries, he, hn, rfl, rfl⟩), rfl⟩
      · have hrounds := (Loop.rounds_eq_ok_iff hchild).mpr ⟨parts, hparts, rfl, rfl⟩
        refine ⟨_, _, Loop.render_eq_ok_iff.mpr (.inr ⟨entry, rest, _, he, hrounds, rfl⟩), ?_⟩
        rw [Option.elim_some, Loop.written_eq, Draft.append]
  · rintro value validate hc found hfound
    have hentries := Loop.entries_ofValue hc hfound
    refine ⟨?_, ?_, ?_⟩
    · rintro items rfl
      rw [hentries, Evaluator.entriesOf, Evaluator.numbered_eq]
      simp
    · rintro members rfl
      rw [hentries, Evaluator.entriesOf]
    · rintro rfl hnullable
      rw [hentries, Evaluator.entriesOf, if_pos hnullable]

/-- A round in the middle that writes nothing gets no separator, and of an index and an item
with one name the item counts. -/
theorem Node.compose_forEach_eq_ok_iff_parts_blank_round :
    ∃ (c : Configuration) (loop : Loop) (child : Node) (d : Draft) (parts : List Loop.Part),
      loop.index = some "id" ∧ loop.item = some "id" ∧ loop.separator = ", " ∧
      d.scope.lookup "ids" = some (.array [.string "a", .null, .string "b"]) ∧
      parts.map Loop.Part.text = ["?", "", "?"] ∧
      loop.Parts (child.compose c) d.scope d.mappings
        [(.ofNat 0, .string "a"), (.ofNat 1, .null), (.ofNat 2, .string "b")] parts ∧
      (Node.forEach loop child).compose c d = .ok { d with
        sql := "in(?, ?)"
        mappings := [{ property := "old" }, { property := "id", value := some (.string "a") },
          { property := "id", value := some (.string "b") }] } := by
  let c : Configuration := { evaluator := .lookup }
  let loop : Loop :=
    { collection := "ids", index := some "id", item := some "id", opening := "("
      separator := ", ", closing := ")" }
  let child : Node := .condition "id" (.static "#\x7bid\x7d")
  let found : Value := .array [.string "a", .null, .string "b"]
  let d : Draft :=
    { scope := { parameter := .object [("ids", found)] }, sql := "in"
      mappings := [{ property := "old" }] }
  let parts : List Loop.Part :=
    [⟨"?", [{ property := "id", value := some (.string "a") }]⟩, ⟨"", []⟩,
      ⟨"?", [{ property := "id", value := some (.string "b") }]⟩]
  have hparts : loop.Parts (child.compose c) d.scope d.mappings
      [(.ofNat 0, .string "a"), (.ofNat 1, .null), (.ofNat 2, .string "b")] parts :=
    .cons (by cbv) rfl rfl (.cons (by cbv) rfl rfl (.cons (by cbv) rfl rfl .nil))
  obtain ⟨hcompose, hentries⟩ := Node.compose_forEach_eq_ok_iff_parts c loop child d
  have hloop := (hentries _ _ rfl found rfl).1 _ rfl
  exact ⟨c, loop, child, d, parts, rfl, rfl, rfl, rfl, rfl, hparts,
    (hcompose _).mpr (.inr ⟨_, _, parts, hloop, hparts, by cbv⟩)⟩

end QueryTemplate
