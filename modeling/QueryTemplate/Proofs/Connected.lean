import QueryTemplate.Proofs.Clause

/-!
# Connected parts

The children of a condition stand behind connectors.  A child that writes something
contributes its connector and its content; the content of a group is what it contributes
itself, in parentheses.  `Node.contributions` says which parts a list of children
contributes, without a word about how a text is put together and its front is taken off
again.

* `Connector.strip_connected`, `Clause.core_whereClause`: a group and a `WHERE` clause take the
  connector in front of a trimmed text off and nothing else.
* `Node.composeAll_eq_contributions`: connected children write the parts that they
  contribute.
* `Node.compose_connected`: what a `WHERE` clause and a group over connected children add.
-/

namespace QueryTemplate

/-! ### Parts in a row -/

namespace Connector

structure Part where
  connector : Connector
  content : String

def Part.text (p : Part) : String :=
  " " ++ p.connector.word ++ " " ++ p.content

/-- Parts in a row, each behind its connector. -/
def written (parts : List Part) : String :=
  String.join (parts.map Part.text)

/-- Parts in a row, each but the first behind its connector. -/
def joined : List Part → String
  | [] => ""
  | first :: rest => first.content ++ written rest

def Part.IsTrimmed (p : Part) : Prop :=
  p.content ≠ "" ∧ Text.isTrimmed p.content.toList = true

@[simp] theorem written_nil : written [] = "" := rfl

theorem written_cons (p : Part) (parts : List Part) :
    written (p :: parts) = p.text ++ written parts := by
  simp [written, String.join_cons]

theorem written_append (parts more : List Part) :
    written (parts ++ more) = written parts ++ written more := by
  induction parts with
  | nil => simp
  | cons p parts ih => rw [List.cons_append, written_cons, written_cons, ih, String.append_assoc]

theorem getLast?_written {parts : List Part} (h : ∀ p ∈ parts, p.IsTrimmed) :
    (written parts).toList.getLast?.any Text.isBlank = false := by
  induction parts with
  | nil => rfl
  | cons p parts ih =>
    obtain ⟨⟨hne, htrim⟩, hrest⟩ := List.forall_mem_cons.mp h
    have hlast := (Text.isTrimmed_iff.mp htrim).2
    have hsome : p.content.toList.getLast? ≠ none := by
      simpa using hne
    rw [written_cons, Part.text, String.toList_append, String.toList_append,
      List.getLast?_append, List.getLast?_append]
    cases hw : (written parts).toList.getLast? with
    | some c => simpa [hw] using ih hrest
    | none =>
      cases hp : p.content.toList.getLast? with
      | none => exact absurd hp hsome
      | some c => simpa [hp] using hlast

theorem isTrimmed_joined {parts : List Part} (h : ∀ p ∈ parts, p.IsTrimmed) :
    Text.isTrimmed (joined parts).toList = true := by
  cases parts with
  | nil => rfl
  | cons p parts =>
    obtain ⟨⟨hne, htrim⟩, hrest⟩ := List.forall_mem_cons.mp h
    obtain ⟨hhead, hlast⟩ := Text.isTrimmed_iff.mp htrim
    rw [joined, String.toList_append, Text.isTrimmed_iff]
    constructor
    · cases hp : p.content.toList with
      | nil => exact absurd (by simpa using hp) hne
      | cons c s =>
        rw [hp] at hhead
        exact hhead
    · have hmore := getLast?_written hrest
      rw [List.getLast?_append]
      cases hw : (written parts).toList.getLast? with
      | some c => simpa [hw] using hmore
      | none => simpa using hlast

theorem joined_eq_empty_iff {parts : List Part} (h : ∀ p ∈ parts, p.IsTrimmed) :
    joined parts = "" ↔ parts = [] := by
  cases parts with
  | nil => simp [joined]
  | cons p parts =>
    have hne := (List.forall_mem_cons.mp h).1.1
    simp [joined, hne]

theorem written_eq_joined (p : Part) (parts : List Part) :
    (written (p :: parts)).toList =
      ' ' :: (p.connector.word.toList ++ ' ' :: (joined (p :: parts)).toList) := by
  simp [written_cons, joined, Part.text]

theorem isTrimmed_connected (word : Connector) {s : List Char} (hs : Text.isTrimmed s = true)
    (hne : s ≠ []) : Text.isTrimmed (word.word.toList ++ ' ' :: s) = true := by
  rw [Text.isTrimmed_iff]
  constructor
  · cases word <;> rfl
  · have hlast := (Text.isTrimmed_iff.mp hs).2
    cases h : s.getLast? with
    | none => exact absurd (List.getLast?_eq_none_iff.mp h) hne
    | some c =>
      rw [h] at hlast
      simpa [List.getLast?_append, List.getLast?_cons, h] using hlast

theorem trim_written {p : Part} {parts : List Part} (h : ∀ q ∈ p :: parts, q.IsTrimmed) :
    Text.trim (written (p :: parts)).toList =
      p.connector.word.toList ++ ' ' :: (joined (p :: parts)).toList := by
  have hne : (joined (p :: parts)).toList ≠ [] := by
    simpa using mt (joined_eq_empty_iff h).mp
  have hspace : ∀ c ∈ [' '], Text.isBlank c = true := List.forall_mem_singleton.mpr rfl
  have hnil : ∀ c ∈ ([] : List Char), Text.isBlank c = true := List.forall_mem_nil _
  have htrim := Text.trim_append hspace
    (isTrimmed_connected p.connector (isTrimmed_joined h) hne) hnil
  rw [List.append_nil] at htrim
  rw [written_eq_joined]
  exact htrim

/-- **A group takes a connector in front of a trimmed text off**, and nothing of the text. -/
theorem strip_connected (word : Connector) {s : List Char} (hs : Text.isTrimmed s = true) :
    strip (word.word.toList ++ ' ' :: s) = s := by
  cases word with
  | and =>
    have hand : stripOne? .and ("AND".toList ++ ' ' :: s) = some (Text.trimStart s) := rfl
    rw [strip, word, hand]
    exact Text.trimStart_of_isTrimmed hs
  | or =>
    have hand : stripOne? .and ("OR".toList ++ ' ' :: s) = none := rfl
    have hor : stripOne? .or ("OR".toList ++ ' ' :: s) = some (Text.trimStart s) := rfl
    rw [strip, word, hand, hor]
    exact Text.trimStart_of_isTrimmed hs

theorem groupText_written (word : Connector) {parts : List Part}
    (h : ∀ p ∈ parts, p.IsTrimmed) :
    word.groupText (written parts) =
      if parts = [] then "" else " " ++ word.word ++ " (" ++ joined parts ++ ")" := by
  cases parts with
  | nil => rfl
  | cons p parts =>
    have hne : (joined (p :: parts)).toList ≠ [] := by
      simpa using mt (joined_eq_empty_iff h).mp
    rw [groupText, trim_written h, strip_connected _ (isTrimmed_joined h)]
    simp [hne]

end Connector

namespace Clause

theorem leadOverrides_whereClause : whereClause.leadOverrides =
    ["AND ", "AND\n", "AND\r", "AND\t", "OR ", "OR\n", "OR\r", "OR\t"] := by
  cbv

/-- **A `WHERE` clause takes a connector in front of a trimmed text off**, and nothing of the
text. -/
theorem core_whereClause (word : Connector) {s : List Char} (hs : Text.isTrimmed s = true)
    (hne : s ≠ []) : whereClause.core (word.word.toList ++ ' ' :: s) = s := by
  have htrail : ∀ body, stripTrail whereClause.trailOverrides body = body := fun _ => rfl
  rw [core, htrail, Text.trim_of_isTrimmed (Connector.isTrimmed_connected word hs hne), stripLead,
    leadOverrides_whereClause]
  cases word with
  | and =>
    show Text.trimStart s = s
    exact Text.trimStart_of_isTrimmed hs
  | or =>
    show Text.trimStart s = s
    exact Text.trimStart_of_isTrimmed hs

theorem wrap?_whereClause {parts : List Connector.Part} (h : ∀ p ∈ parts, p.IsTrimmed) :
    whereClause.wrap? (Connector.written parts) =
      if parts = [] then none else some ("WHERE " ++ Connector.joined parts) := by
  rw [wrap?_eq]
  cases parts with
  | nil => rw [if_pos (core_of_trim_eq_nil whereClause rfl), if_pos rfl]
  | cons p parts =>
    have htrimmed := Connector.isTrimmed_joined h
    have hne : (Connector.joined (p :: parts)).toList ≠ [] := by
      simpa using mt (Connector.joined_eq_empty_iff h).mp
    have hcore : whereClause.core (Connector.written (p :: parts)).toList =
        (Connector.joined (p :: parts)).toList := by
      have htrim : ∀ body, whereClause.core (Text.trim body) = whereClause.core body := by
        intro body
        rw [core, core, Text.trim_of_isTrimmed (Text.isTrimmed_trim body)]
      rw [← htrim, Connector.trim_written h, core_whereClause _ htrimmed hne]
    rw [hcore, if_neg hne, if_neg (by simp), String.ofList_toList]
    show some ("WHERE " ++ Connector.joined (p :: parts) ++ "") = _
    rw [String.append_empty]

end Clause

/-! ### What connected nodes contribute -/

/-- Of a nested draft the mappings count, and not the text. -/
theorem Draft.resume_append (d inner : Draft) (text : String) :
    d.resume (inner.append text) = d.resume inner :=
  rfl

namespace Node

def isConnected : Node → Bool
  | .item _ _ => true
  | .group _ _ => true
  | _ => false

def partOf (connector : Connector) (content : String) : List Connector.Part :=
  if content = "" then [] else [⟨connector, content⟩]

def groupOf (connector : Connector) (content : String) : List Connector.Part :=
  if content = "" then [] else [⟨connector, "(" ++ content ++ ")"⟩]

mutual

/-- What a connected node contributes, and the draft with its mappings.  The content of a part
is what its child writes, without blanks at the ends; the content of a group is what its
children contribute when all of them are connected, and otherwise what they write, without a
connector at the front. -/
def contribution (c : Configuration) : Node → Draft → Except Error (Draft × List Connector.Part)
  | .item connector child, d => do
    let inner ← compose c child d.nested
    return (d.resume inner, partOf connector (Text.trimmed inner.sql))
  | .group connector children, d => do
    if children.all isConnected then
      let (inner, parts) ← contributions c children d.nested
      return (d.resume inner, groupOf connector (Connector.joined parts))
    else
      let inner ← composeAll c children d.nested
      return (d.resume inner,
        groupOf connector (String.ofList (Connector.strip (Text.trim inner.sql.toList))))
  | _, d => .ok (d, [])

def contributions (c : Configuration) :
    List Node → Draft → Except Error (Draft × List Connector.Part)
  | [], d => .ok (d, [])
  | child :: rest, d => do
    let (mid, parts) ← contribution c child d
    let (after, more) ← contributions c rest mid
    return (after, parts ++ more)

end

/-! ### Parts and the texts that are written -/

section Parts

variable {c : Configuration}

theorem itemText_eq (connector : Connector) (body : String) :
    connector.itemText body = Connector.written (partOf connector (Text.trimmed body)) := by
  have hblank : Text.trimmed body = "" ↔ Text.isAllBlank body = true := by
    rw [Text.trimmed, String.ofList_eq_empty_iff, Text.trim_eq_nil_iff, Text.isAllBlank,
      List.all_eq_true]
  rw [Connector.itemText, partOf]
  by_cases h : Text.isAllBlank body = true
  · rw [if_pos h, if_pos (hblank.mpr h)]
    rfl
  · rw [if_neg h, if_neg (mt hblank.mp h), Connector.written_cons, Connector.Part.text]
    simp

theorem written_groupOf (connector : Connector) (content : String) :
    Connector.written (groupOf connector content) =
      if content = "" then "" else " " ++ connector.word ++ " (" ++ content ++ ")" := by
  rw [groupOf]
  split
  · rfl
  · rw [Connector.written_cons, Connector.written_nil, String.append_empty, Connector.Part.text]
    show " " ++ connector.word ++ " " ++ ("(" ++ content ++ ")") =
      " " ++ connector.word ++ (" " ++ "(") ++ content ++ ")"
    simp only [String.append_assoc]

theorem isTrimmed_partOf {connector : Connector} {body : String} :
    ∀ p ∈ partOf connector (Text.trimmed body), p.IsTrimmed := by
  intro p hp
  rw [partOf] at hp
  split at hp
  · cases hp
  · next hne =>
    obtain rfl := List.mem_singleton.mp hp
    refine ⟨hne, ?_⟩
    rw [Text.toList_trimmed]
    exact Text.isTrimmed_trim _

theorem isTrimmed_groupOf {connector : Connector} {content : String} :
    ∀ p ∈ groupOf connector content, p.IsTrimmed := by
  intro p hp
  rw [groupOf] at hp
  split at hp
  · cases hp
  · obtain rfl := List.mem_singleton.mp hp
    refine ⟨by simp, ?_⟩
    rw [Text.isTrimmed_iff]
    constructor
    · rw [String.append_assoc, String.toList_append]
      rfl
    · rw [String.toList_append, List.getLast?_append]
      rfl

theorem groupText_joined (connector : Connector) {parts : List Connector.Part}
    (h : ∀ p ∈ parts, p.IsTrimmed) :
    connector.groupText (Connector.written parts) =
      Connector.written (groupOf connector (Connector.joined parts)) := by
  rw [Connector.groupText_written connector h, written_groupOf]
  simp only [Connector.joined_eq_empty_iff h]

theorem groupText_eq (connector : Connector) (body : String) :
    connector.groupText body = Connector.written
      (groupOf connector (String.ofList (Connector.strip (Text.trim body.toList)))) := by
  rw [written_groupOf, Connector.groupText]
  simp only [List.isEmpty_iff, String.ofList_eq_empty_iff]

end Parts

/-! ### Connected nodes write what they contribute -/

section Contributions

open Outcome

variable {c : Configuration} {d after : Draft} {parts : List Connector.Part}

/-- The parts of a connected node are trimmed, and the draft is left alone but for its
mappings. -/
theorem contribution_frame {n : Node} (h : contribution c n d = .ok (after, parts)) :
    (∀ p ∈ parts, p.IsTrimmed) ∧ after = d.resume after := by
  cases n with
  | item connector child =>
    rw [contribution] at h
    obtain ⟨inner, -, h⟩ := bind_eq_ok_iff.mp h
    obtain ⟨rfl, rfl⟩ := Prod.mk.inj (pure_eq_ok_iff.mp h)
    exact ⟨isTrimmed_partOf, rfl⟩
  | group connector children =>
    rw [contribution] at h
    split at h
    · obtain ⟨⟨inner, inside⟩, -, h⟩ := bind_eq_ok_iff.mp h
      obtain ⟨rfl, rfl⟩ := Prod.mk.inj (pure_eq_ok_iff.mp h)
      exact ⟨isTrimmed_groupOf, rfl⟩
    · obtain ⟨inner, -, h⟩ := bind_eq_ok_iff.mp h
      obtain ⟨rfl, rfl⟩ := Prod.mk.inj (pure_eq_ok_iff.mp h)
      exact ⟨isTrimmed_groupOf, rfl⟩
  | _ =>
    obtain ⟨rfl, rfl⟩ := Prod.mk.inj (Except.ok.inj h)
    exact ⟨List.forall_mem_nil _, rfl⟩

theorem contributions_frame {children : List Node}
    (h : contributions c children d = .ok (after, parts)) :
    (∀ p ∈ parts, p.IsTrimmed) ∧ after = d.resume after := by
  induction children generalizing d parts with
  | nil =>
    obtain ⟨rfl, rfl⟩ := Prod.mk.inj (Except.ok.inj h)
    exact ⟨List.forall_mem_nil _, rfl⟩
  | cons child rest ih =>
    rw [contributions] at h
    obtain ⟨⟨mid, first⟩, hfirst, h⟩ := bind_eq_ok_iff.mp h
    obtain ⟨⟨last, more⟩, hmore, h⟩ := bind_eq_ok_iff.mp h
    obtain ⟨rfl, rfl⟩ := Prod.mk.inj (pure_eq_ok_iff.mp h)
    obtain ⟨htrimmed, hmid⟩ := contribution_frame hfirst
    obtain ⟨hrest, hlast⟩ := ih hmore
    refine ⟨List.forall_mem_append.mpr ⟨htrimmed, hrest⟩, ?_⟩
    rw [hlast, hmid]
    rfl

/-- Of what nodes contribute in a nested draft, the text is all that the draft has. -/
theorem sql_of_contributions {children : List Node}
    (h : contributions c children d.nested = .ok (after, parts)) :
    (after.append (Connector.written parts)).sql = Connector.written parts := by
  rw [(contributions_frame h).2]
  exact String.empty_append

/-- What a node contributes does not depend on the text in front of it. -/
theorem contribution_append (n : Node) (d : Draft) (text : String) :
    contribution c n (d.append text) =
      (contribution c n d).map fun r => (r.1.append text, r.2) := by
  have hnested : (d.append text).nested = d.nested := rfl
  have hresume : ∀ inner, (d.append text).resume inner = (d.resume inner).append text :=
    fun _ => rfl
  cases n with
  | item connector child =>
    rw [contribution, contribution, hnested]
    cases compose c child d.nested <;>
      simp only [Bind.bind, Except.bind, pure, Except.pure, Except.map, hresume]
  | group connector children =>
    rw [contribution, contribution, hnested]
    split
    · cases contributions c children d.nested <;>
        simp only [Bind.bind, Except.bind, pure, Except.pure, Except.map, hresume]
    · cases composeAll c children d.nested <;>
        simp only [Bind.bind, Except.bind, pure, Except.pure, Except.map, hresume]
  | _ => rfl

theorem contributions_append (children : List Node) (d : Draft) (text : String) :
    contributions c children (d.append text) =
      (contributions c children d).map fun r => (r.1.append text, r.2) := by
  induction children generalizing d with
  | nil => rfl
  | cons child rest ih =>
    rw [contributions, contributions, contribution_append]
    cases contribution c child d with
    | error e => rfl
    | ok r =>
      obtain ⟨mid, parts⟩ := r
      simp only [Bind.bind, Except.bind, pure, Except.pure, Except.map, ih]
      cases contributions c rest mid <;> rfl

mutual

/-- **A connected node writes what it contributes**, or fails as its children do. -/
theorem compose_eq_contribution : (n : Node) → n.isConnected = true → ∀ d : Draft,
    n.compose c d = (contribution c n d).map fun r => r.1.append (Connector.written r.2)
  | .item connector child, _, d => by
    rw [compose, contribution]
    cases compose c child d.nested with
    | error e => rfl
    | ok inner =>
      simp only [Bind.bind, Except.bind, pure, Except.pure, Except.map, itemText_eq]
  | .group connector children, _, d => by
    rw [compose, contribution]
    -- a group takes the connector off a joined text; of parts it is the one of the first part
    split
    · next hall =>
      rw [composeAll_eq_contributions children (List.all_eq_true.mp hall)]
      cases hparts : contributions c children d.nested with
      | error e => rfl
      | ok r =>
        simp only [Bind.bind, Except.bind, pure, Except.pure, Except.map, Draft.resume_append,
          sql_of_contributions hparts, groupText_joined connector (contributions_frame hparts).1]
    · cases composeAll c children d.nested with
      | error e => rfl
      | ok inner =>
        simp only [Bind.bind, Except.bind, pure, Except.pure, Except.map, groupText_eq]

theorem composeAll_eq_contributions : (children : List Node) →
    (∀ n ∈ children, n.isConnected = true) → ∀ d : Draft,
    composeAll c children d =
      (contributions c children d).map fun r => r.1.append (Connector.written r.2)
  | [], _, d => by
    rw [composeAll, contributions]
    show Except.ok d = Except.ok (d.append "")
    rw [Draft.append, String.append_empty]
  | child :: rest, h, d => by
    obtain ⟨hchild, hrest⟩ := List.forall_mem_cons.mp h
    rw [composeAll, contributions, compose_eq_contribution child hchild]
    rcases contribution c child d with e | ⟨mid, parts⟩
    · rfl
    -- the rest starts behind what the child wrote, and contributes the same there
    · show composeAll c rest (mid.append (Connector.written parts)) =
        Except.map _ (contributions c rest mid >>= fun r => _)
      rw [composeAll_eq_contributions rest hrest, contributions_append]
      rcases contributions c rest mid with e | ⟨after, more⟩
      · rfl
      · show Except.ok ((after.append (Connector.written parts)).append (Connector.written more)) =
          Except.ok (after.append (Connector.written (parts ++ more)))
        rw [Connector.written_append, Draft.append, Draft.append, Draft.append,
          String.append_assoc]

end

end Contributions

/-- **What a `WHERE` clause and a group add over connected children:** the parts that the
children contribute, each but the first behind its connector, and nothing when there are none.
The outcome is the same where composing fails. -/
theorem compose_connected {children : List Node} (h : ∀ n ∈ children, n.isConnected = true)
    (c : Configuration) (d : Draft) :
    ((whereClause (.sequence children)).compose c d =
      (contributions c children d.nested).map fun r =>
        if r.2 = [] then d.resume r.1
        else (d.resume r.1).appendClause ("WHERE " ++ Connector.joined r.2)) ∧
    ∀ connector, (Node.group connector children).compose c d =
      (contributions c children d.nested).map fun r =>
        if r.2 = [] then d.resume r.1
        else (d.resume r.1).append
          (" " ++ connector.word ++ " (" ++ Connector.joined r.2 ++ ")") := by
  cases hparts : contributions c children d.nested with
  | error e =>
    constructor
    · rw [whereClause, compose, compose, composeAll_eq_contributions children h, hparts]
      rfl
    · intro connector
      rw [compose, composeAll_eq_contributions children h, hparts]
      rfl
  | ok r =>
    obtain ⟨inner, parts⟩ := r
    have htrimmed := (contributions_frame hparts).1
    constructor
    · have hsequence : (Node.sequence children).compose c d.nested =
          .ok (inner.append (Connector.written parts)) := by
        rw [compose, composeAll_eq_contributions children h, hparts]
        rfl
      rw [whereClause, compose_trim hsequence, sql_of_contributions hparts,
        Clause.wrap?_whereClause htrimmed, Draft.resume_append]
      by_cases hnone : parts = []
      · simp only [Except.map, hnone, if_true, Option.elim_none]
      · simp only [Except.map, hnone, if_false, Option.elim_some]
    · intro connector
      rw [compose_eq_contribution _ rfl, contribution, if_pos (List.all_eq_true.mpr h), hparts]
      simp only [Bind.bind, Except.bind, pure, Except.pure, Except.map,
        ← groupText_joined connector htrimmed, Connector.groupText_written connector htrimmed]
      by_cases hnone : parts = []
      · simp only [hnone, if_true]
        rw [Draft.append, String.append_empty]
      · simp only [hnone, if_false]

/-- Connectors in the contents stay, also those at an end of a content. -/
theorem compose_connected_nested_groups :
    ∃ (children : List Node) (d : Draft), (∀ n ∈ children, n.isConnected = true) ∧
      children.length = 3 ∧ d.sql = "select" ∧
      (whereClause (.sequence children)).compose {} d =
        .ok { d with sql := "select WHERE or a = 1 and AND (and OR (b))" } ∧
      (Node.group .or children).compose {} d =
        .ok { d with sql := "select OR (or a = 1 and AND (and OR (b)))" } := by
  let children : List Node :=
    [.item .or (.static " or a = 1 and "), .item .and (.static "\t"),
      .group .and [.item .or (.static "and"), .group .or [.item .and (.static "b")]]]
  let d : Draft := { scope := { parameter := .null }, sql := "select" }
  have hparts : contributions {} children d.nested =
      .ok (d.nested, [⟨.or, "or a = 1 and"⟩, ⟨.and, "(and OR (b))"⟩]) := by
    cbv
  have hconnected : ∀ n ∈ children, n.isConnected = true := by
    simp [children, isConnected]
  obtain ⟨hwhere, hgroup⟩ := compose_connected hconnected {} d
  rw [hparts] at hwhere
  refine ⟨children, d, hconnected, rfl, rfl, hwhere.trans ?_, (hgroup .or).trans ?_⟩
  · cbv
  · rw [hparts]
    cbv

end Node

end QueryTemplate
