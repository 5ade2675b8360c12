import Mathlib
import QueryTemplate.Proofs.Run.Mappings
import QueryTemplate.Proofs.Run.Scopes

/-!
# What a run leaves alone

Composing only adds to a draft: a text behind its text and mappings behind its mappings.
What is added depends on the text before it in one way only, the space in front of a
clause, and names are bound in no other scope than the one that a bind stands in.

* `Run.adds`: a run adds a text, and adds the same one behind every other text that wants
  the same gap.
* `Run.get?_bindings`: names that a job does not bind in the scope it stands in keep their
  bindings.
* `Run.scope_of_opensScope`: nodes that compose in a scope of their own leave the bindings
  around them as they are.
* `Loop.forall₂_of_rounds`: each round of a loop starts in the scope of the loop, with the
  names of its own entry and nothing of the other rounds.
* `Node.frame_of_compose`: all this about composing a node.
-/

namespace QueryTemplate

/-! ### The gap in front of a clause -/

namespace Draft

/-- Whether a clause behind the text is set off by a space: the text is not empty and does
not end in a blank. -/
def needsGap (sql : String) : Bool :=
  sql.toList.getLast?.any fun c => !Text.isBlank c

theorem gap_eq (sql : String) : gap sql = if needsGap sql then " " else "" := by
  rw [gap, needsGap]
  cases sql.toList.getLast? with
  | none => rfl
  | some c => cases hb : Text.isBlank c <;> simp [hb]

/-- Texts that want the same gap still do with one more text behind them. -/
theorem needsGap_append {s t : String} (h : needsGap s = needsGap t) (text : String) :
    needsGap (s ++ text) = needsGap (t ++ text) := by
  simp only [needsGap, String.toList_append, List.getLast?_append] at h ⊢
  cases text.toList.getLast? with
  | none => exact h
  | some c => rfl

end Draft

/-! ### Texts that are added -/

/-- The run of a job adds a text, and adds the same text behind every other text that wants
the same gap. -/
def Job.Adds (c : Configuration) (job : Job) (d d' : Draft) (log : Log) : Prop :=
  ∃ text, d'.sql = d.sql ++ text ∧
    ∀ sql, Draft.needsGap sql = Draft.needsGap d.sql →
      Run c job { d with sql } { d' with sql := sql ++ text } log

namespace Job.Adds

variable {c : Configuration} {job job' : Job} {d d' : Draft} {log log' : Log}

theorem nothing (hsql : d'.sql = d.sql)
    (h : ∀ sql, Run c job { d with sql } { d' with sql } log) : job.Adds c d d' log := by
  refine ⟨"", by rw [hsql, String.append_empty], fun sql _ => ?_⟩
  rw [String.append_empty]
  exact h sql

theorem always (text : String) (hsql : d'.sql = d.sql ++ text)
    (h : ∀ sql, Run c job { d with sql } { d' with sql := sql ++ text } log) :
    job.Adds c d d' log :=
  ⟨text, hsql, fun sql _ => h sql⟩

theorem map (h : job.Adds c d d' log)
    (hrule : ∀ sql sql', Run c job { d with sql } { d' with sql := sql' } log →
      Run c job' { d with sql } { d' with sql := sql' } log') : job'.Adds c d d' log' := by
  obtain ⟨text, hsql, hrun⟩ := h
  exact ⟨text, hsql, fun sql hgap => hrule _ _ (hrun sql hgap)⟩

end Job.Adds

namespace Run

variable {c : Configuration} {job : Job} {d d' : Draft} {log : Log}

theorem adds (h : Run c job d d' log) : job.Adds c d d' log := by
  induction h with
  | static h =>
    obtain ⟨mappings, text, hc, rfl⟩ := Draft.addStatic_eq_ok_iff.mp h
    exact .always text rfl fun sql =>
      .static (Draft.addStatic_eq_ok_iff.mpr ⟨_, _, hc, rfl⟩)
  | interpolated hw h =>
    obtain ⟨mappings, text, hc, rfl⟩ := Draft.addStatic_eq_ok_iff.mp h
    exact .always text rfl fun sql =>
      .interpolated hw (Draft.addStatic_eq_ok_iff.mpr ⟨_, _, hc, rfl⟩)
  | condition h ih => exact ih.map fun _ _ => .condition
  | choice h ih => exact ih.map fun _ _ => .choice
  | otherwise h ih => exact ih.map fun _ _ => .otherwise
  | item h ih => exact .always _ rfl fun sql => .item h
  | group h ih => exact .always _ rfl fun sql => .group h
  | @wrapped clause child d inner text log h ht ih =>
    -- the one rule that looks at the text: a clause is set off by a gap
    refine ⟨Draft.gap d.sql ++ text, String.append_assoc, fun sql hgap => ?_⟩
    have hrun : Run c (.node (.trim clause child)) { d with sql } _ log := .wrapped h ht
    have hsame : Draft.gap sql = Draft.gap d.sql := by
      rw [Draft.gap_eq, Draft.gap_eq, hgap]
    rw [← hsame, ← String.append_assoc]
    exact hrun
  | @dropped clause child d inner log h ht ih =>
    refine .nothing rfl fun sql => ?_
    have hrun : Run c (.node (.trim clause child)) { d with sql } _ log := .dropped h ht
    exact hrun
  | forEach h ih => exact ih.map fun _ _ => .forEach
  | list ht h ih => exact ih.map fun _ _ => .list ht
  | listed ht hb h ih => exact ih.map fun _ _ => .listed ht hb
  | unlisted ht hb => exact .nothing rfl fun _ => .unlisted ht hb
  | bind hv => exact .nothing rfl fun _ => .bind hv
  | sequence h ih => exact ih.map fun _ _ => .sequence
  | empty => exact .nothing rfl fun _ => .empty
  | nil => exact .nothing rfl fun _ => .nil
  | cons h hr ih ihr =>
    obtain ⟨first, hfirst, hrun⟩ := ih
    obtain ⟨second, hsecond, hrest⟩ := ihr
    refine ⟨first ++ second, by rw [hsecond, hfirst, String.append_assoc], fun sql hgap => ?_⟩
    rw [← String.append_assoc]
    refine .cons (hrun sql hgap) (hrest (sql ++ first) ?_)
    rw [hfirst]
    exact Draft.needsGap_append hgap first
  | chosen hb h ih => exact ih.map fun _ _ => .chosen hb
  | passed hb h ih => exact ih.map fun _ _ => .passed hb
  | defaulted h ih => exact ih.map fun _ _ => .defaulted
  | unchosen => exact .nothing rfl fun _ => .unchosen
  | @iterate lead loop child entry rest parts d d' log he h ih =>
    obtain ⟨text, hsql, hrun⟩ := ih
    refine ⟨text ++ (lead ++ loop.written parts), ?_, fun sql hgap => ?_⟩
    · rw [Draft.append, hsql, String.append_assoc]
    · have hloop : loop.entries c { d with sql }.scope = .ok (some (entry :: rest)) := he
      rw [← String.append_assoc]
      exact .iterate hloop (hrun sql hgap)
  | idle he h => exact .nothing rfl fun _ => .idle he h
  | done => exact .nothing rfl fun _ => .done
  | round h hr ih ihr =>
    -- a round starts with an empty text wherever the loop stands
    obtain ⟨text, hsql, hrest⟩ := ihr
    exact ⟨text, hsql, fun sql hgap => .round h (hrest sql hgap)⟩

end Run

/-! ### Names that are bound -/

namespace Node

mutual

def binds : Node → List String
  | .condition _ child => binds child
  | .choice branches fallback => bindsBranches branches ++ bindsFallback fallback
  | .otherwise child => binds child
  | .bind name _ => [name]
  | .sequence children => bindsAll children
  | _ => []

def bindsAll : List Node → List String
  | [] => []
  | child :: rest => binds child ++ bindsAll rest

def bindsBranches : List (String × Node) → List String
  | [] => []
  | (_, child) :: rest => binds child ++ bindsBranches rest

def bindsFallback : Option Node → List String
  | none => []
  | some child => binds child

end

/-- Whether a node composes what is below it in a scope of its own. -/
def opensScope : Node → Bool
  | .item _ _ => true
  | .group _ _ => true
  | .trim _ _ => true
  | .forEach _ _ => true
  | .membership _ => true
  | _ => false

end Node

def Job.binds : Job → List String
  | .node n => n.binds
  | .all children => Node.bindsAll children
  | .first branches fallback => Node.bindsBranches branches ++ Node.bindsFallback fallback
  | .iterate _ _ _ => []
  | .rounds _ _ _ _ => []

namespace Run

variable {c : Configuration} {job : Job} {d d' : Draft} {log : Log}

theorem scope_of_iterate {lead : String} {loop : Loop} {child : Node}
    (h : Run c (.iterate lead loop child) d d' log) : d'.scope = d.scope := by
  cases h with
  | iterate he h => exact (Loop.rounds_frame h.composes).1
  | idle he h => rfl

/-- **A node that composes in a scope of its own leaves the scope around it as it is.** -/
theorem scope_of_opensScope {n : Node} (h : Run c (.node n) d d' log)
    (hn : n.opensScope = true) : d'.scope = d.scope := by
  cases h with
  | item h => rfl
  | group h => rfl
  | wrapped h ht => rfl
  | dropped h ht => rfl
  | forEach h => exact h.scope_of_iterate
  | list ht h => exact h.scope_of_iterate
  | listed ht hb h => exact h.scope_of_iterate
  | unlisted ht hb => rfl
  | static h => cases hn
  | interpolated hw h => cases hn
  | condition h => cases hn
  | choice h => cases hn
  | otherwise h => cases hn
  | bind hv => cases hn
  | sequence h => cases hn
  | empty => cases hn

/-- **A name keeps its binding over a job that does not bind it** in the scope that the job
stands in. -/
theorem get?_bindings (h : Run c job d d' log) {name : String} (hname : name ∉ job.binds) :
    Members.get? d'.scope.bindings name = Members.get? d.scope.bindings name := by
  induction h with
  | static h =>
    obtain ⟨mappings, text, -, rfl⟩ := Draft.addStatic_eq_ok_iff.mp h
    rfl
  | interpolated hw h =>
    obtain ⟨mappings, text, -, rfl⟩ := Draft.addStatic_eq_ok_iff.mp h
    rfl
  | condition h ih =>
    refine ih ?_
    simpa [Job.binds, Node.binds, Node.bindsBranches, Node.bindsFallback] using hname
  | choice h ih => exact ih hname
  | otherwise h ih => exact ih hname
  | item h ih => rfl
  | group h ih => rfl
  | wrapped h ht ih => rfl
  | dropped h ht ih => rfl
  | forEach h ih => rw [h.scope_of_iterate]
  | list ht h ih => rw [h.scope_of_iterate]
  | listed ht hb h ih => rw [h.scope_of_iterate]
  | unlisted ht hb => rfl
  | bind hv =>
    rw [Draft.bind, Scope.bind, Members.get?_insert, if_neg]
    exact fun heq => hname (List.mem_singleton.mpr heq)
  | sequence h ih => exact ih hname
  | empty => rfl
  | nil => rfl
  | cons h hr ih ihr =>
    rw [ihr fun hm => hname (List.mem_append_right _ hm)]
    exact ih fun hm => hname (List.mem_append_left _ hm)
  | chosen hb h ih =>
    exact ih fun hm => hname (List.mem_append_left _ (List.mem_append_left _ hm))
  | passed hb h ih =>
    refine ih fun hm => hname ?_
    rw [Job.binds, Node.bindsBranches, List.append_assoc]
    exact List.mem_append_right _ hm
  | defaulted h ih => exact ih hname
  | unchosen => rfl
  | iterate he h ih => exact ih hname
  | idle he h => rfl
  | done => rfl
  | round h hr ih ihr => exact ihr hname

end Run

/-! ### The rounds of a loop -/

namespace Loop

variable {loop : Loop} {child : Draft → Except Error Draft} {d after : Draft}

/-- A round for an entry ends in a draft.  It started in the scope of the loop with the names
of the entry alone, behind some mappings. -/
def Round (loop : Loop) (child : Draft → Except Error Draft) (d : Draft) (entry : Value × Value)
    (inner : Draft) : Prop :=
  ∃ mappings, child { loop.enter d entry with mappings } = .ok inner

def texts (inners : List Draft) : List String :=
  (inners.map Draft.sql).filter fun text => !Text.isAllBlank text

/-- A round does not see what is written or bound in the rounds before it. -/
theorem enter_resume (inner : Draft) (entry : Value × Value) :
    loop.enter (d.resume inner) entry =
      { loop.enter d entry with mappings := inner.mappings } := by
  rw [enter, enter]
  cases loop.index <;> cases loop.item <;> rfl

theorem Round.of_resume {outer inner : Draft} {entry : Value × Value}
    (h : loop.Round child (d.resume outer) entry inner) : loop.Round child d entry inner := by
  obtain ⟨mappings, h⟩ := h
  rw [enter_resume] at h
  exact ⟨mappings, h⟩

/-- **Each round of a loop starts from the scope of the loop**, whatever the rounds before it
did. -/
theorem forall₂_of_rounds {entries : Entries} {parts : List String}
    (h : loop.rounds child d entries = .ok (after, parts)) :
    ∃ inners, List.Forall₂ (loop.Round child d) entries inners ∧ parts = texts inners := by
  induction entries generalizing d after parts with
  | nil =>
    obtain ⟨-, rfl⟩ := Prod.mk.inj (Except.ok.inj h)
    exact ⟨[], .nil, rfl⟩
  | cons entry rest ih =>
    obtain ⟨inner, hinner, h⟩ := Outcome.bind_eq_ok_iff.mp h
    obtain ⟨⟨after', more⟩, hrest, h⟩ := Outcome.bind_eq_ok_iff.mp h
    obtain ⟨-, rfl⟩ := Prod.mk.inj (Outcome.pure_eq_ok_iff.mp h)
    obtain ⟨inners, hinners, rfl⟩ := ih hrest
    refine ⟨inner :: inners, .cons ⟨_, hinner⟩ (hinners.imp fun _ _ hr => hr.of_resume), ?_⟩
    rw [texts, texts, List.map_cons, List.filter_cons]
    cases Text.isAllBlank inner.sql <;> rfl

end Loop

/-- What a loop adds, by its rounds. -/
theorem Node.rounds_of_compose_forEach {c : Configuration} {loop : Loop} {child : Node}
    {d d' : Draft} (h : (Node.forEach loop child).compose c d = .ok d') :
    ∃ entries inners, loop.entries c d.scope = .ok entries ∧
      List.Forall₂ (loop.Round (child.compose c) d) (entries.getD []) inners ∧
      d'.sql = d.sql ++ if inners = [] then "" else loop.written (Loop.texts inners) := by
  obtain ⟨after, text, hr, rfl⟩ := Node.compose_forEach_eq_ok_iff.mp h
  rcases Loop.render_eq_ok_iff.mp hr with
    ⟨entries, he, hn, rfl, rfl⟩ | ⟨entry, rest, parts, he, hrounds, rfl⟩
  · refine ⟨entries, [], he, ?_, ?_⟩
    · rw [hn]
      exact .nil
    · rw [if_pos rfl, String.append_empty]
      rfl
  · obtain ⟨inners, hinners, rfl⟩ := Loop.forall₂_of_rounds hrounds
    refine ⟨_, inners, he, hinners, ?_⟩
    have hne : inners ≠ [] := by
      rintro rfl
      cases hinners
    rw [if_neg hne, Option.elim_some, Draft.append, (Loop.rounds_frame hrounds).2]

/-- **Composing a node only adds to a draft, and what it adds depends on the text of the
draft by the gap alone.**  It binds names in the scope that it stands in and in no other
one; a node that opens a scope binds none there, and the rounds of a loop start from one
scope. -/
theorem Node.frame_of_compose {c : Configuration} {n : Node} {d d' : Draft}
    (h : n.compose c d = .ok d') :
    (∃ text new, d'.sql = d.sql ++ text ∧ d'.mappings = d.mappings ++ new ∧
      ∀ sql, Draft.needsGap sql = Draft.needsGap d.sql →
        n.compose c { d with sql } = .ok { d' with sql := sql ++ text }) ∧
    d'.scope = { d.scope with bindings := d'.scope.bindings } ∧
    (∀ name, name ∉ n.binds →
      Members.get? d'.scope.bindings name = Members.get? d.scope.bindings name) ∧
    (n.opensScope = true → d'.scope = d.scope) ∧
    ∀ loop child, n = .forEach loop child →
      ∃ entries inners, loop.entries c d.scope = .ok entries ∧
        List.Forall₂ (loop.Round (child.compose c) d) (entries.getD []) inners ∧
        d'.sql = d.sql ++ if inners = [] then "" else loop.written (Loop.texts inners) := by
  obtain ⟨log, hrun⟩ := Node.compose_eq_ok_iff.mp h
  obtain ⟨text, hsql, hsame⟩ := hrun.adds
  obtain ⟨new, hnew, -⟩ := hrun.mappings
  refine ⟨⟨text, new, hsql, hnew, fun sql hgap => (hsame sql hgap).composes⟩, hrun.scope_eq,
    fun name hname => hrun.get?_bindings hname, fun hn => hrun.scope_of_opensScope hn, ?_⟩
  rintro loop child rfl
  exact Node.rounds_of_compose_forEach h

/-- Two rounds that bind a name: the text behind another one is the same, and the name of
the scope around the loop keeps its value. -/
theorem Node.frame_of_compose_two_rounds :
    ∃ (c : Configuration) (loop : Loop) (child : Node) (d d' : Draft) (inners : List Draft),
      "x" ∈ child.binds ∧ (Node.forEach loop child).compose c d = .ok d' ∧
      d'.sql = "in" ++ "(?, ?)" ∧
      (Node.forEach loop child).compose c { d with sql := "or" } =
        .ok { d' with sql := "or" ++ "(?, ?)" } ∧
      Members.get? d'.scope.bindings "x" = some (.string "outer") ∧ inners.length = 2 ∧
      List.Forall₂ (loop.Round (child.compose c) d)
        [(.ofNat 0, .string "a"), (.ofNat 1, .string "b")] inners := by
  let c : Configuration := { evaluator := .lookup }
  let loop : Loop :=
    { collection := "ids", item := some "id", opening := "(", separator := ", ", closing := ")" }
  let child : Node := .sequence [.bind "x" "id", .static "#\x7bx\x7d"]
  let parameter : Value := .object [("ids", .array [.string "a", .string "b"])]
  let d : Draft :=
    { scope := { parameter, bindings := [("x", .string "outer")] }, sql := "in" }
  let mappings : List Mapping :=
    [{ property := "x", value := some (.string "a") },
      { property := "x", value := some (.string "b") }]
  have h : (Node.forEach loop child).compose c d =
      .ok { d with sql := "in(?, ?)", mappings } := by
    cbv
  obtain ⟨⟨text, new, htext, -, hsame⟩, -, -, hscope, hrounds⟩ := Node.frame_of_compose h
  obtain ⟨entries, inners, hentries, hinners, -⟩ := hrounds loop child rfl
  have hloop : loop.entries c d.scope =
      .ok (some [(.ofNat 0, .string "a"), (.ofNat 1, .string "b")]) := by
    cbv
  obtain rfl := Except.ok.inj (hloop.symm.trans hentries)
  obtain rfl : "(?, ?)" = text := (String.append_right_inj "in").mp htext
  refine ⟨c, loop, child, d, _, inners, by decide, h, rfl, hsame "or" (by decide), ?_,
    hinners.length_eq.symm, hinners⟩
  rw [hscope rfl]
  rfl

end QueryTemplate
