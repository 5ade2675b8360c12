import Mathlib
import QueryTemplate.Proofs.Alike.Basic

/-!
# Templates without values written into them

The text of a statement shows a value only where a value is written into a text.  A
template that does not do this gives the same statement for any two parameters that
its tests and loops answer alike: the text is the same, and the mappings differ in
the values that are fixed with them and in nothing else.

Two runs are taken side by side (`Run.alike`).  They stay at the same node as long as
they take the same decisions (`Log.decisions`), and their drafts stay alike.
-/

namespace QueryTemplate

/-! ### Decisions -/

def Event.isDecision : Event → Bool
  | .tested _ => true
  | .counted _ => true
  | _ => false

/-- The answers to the tests and the numbers of entries of the collections that a run
meets, in order. -/
def Log.decisions (log : Log) : Log :=
  log.filter Event.isDecision

namespace Log

@[simp] theorem decisions_append (log log' : Log) :
    (log ++ log').decisions = log.decisions ++ log'.decisions :=
  List.filter_append log log'

@[simp] theorem decisions_tested (answer : Bool) (log : Log) :
    decisions (.tested answer :: log) = .tested answer :: log.decisions := rfl

@[simp] theorem decisions_counted (entries : Nat) (log : Log) :
    decisions (.counted entries :: log) = .counted entries :: log.decisions := rfl

@[simp] theorem decisions_reading (scope : Scope) (text : String) :
    (reading scope text).decisions = [] := by
  refine List.filter_eq_nil_iff.mpr fun e he => ?_
  obtain ⟨piece, -, rfl⟩ := List.mem_map.mp he
  cases piece <;> simp [Event.ofPiece, Event.isDecision]

end Log

/-! ### Two runs -/

/-- The two jobs are one.  Rounds of a loop are one when there are as many of them; they
may run over other entries, and what they write is not given. -/
def Job.Twin : Job → Job → Prop
  | .rounds loop child entries _, job' =>
    ∃ entries' parts', entries'.length = entries.length ∧
      job' = .rounds loop child entries' parts'
  | job, job' => job' = job

def Job.output : Job → List String
  | .rounds _ _ _ parts => parts
  | _ => []

/-- Whether a clause is written or left out, its body is run first. -/
theorem Run.exists_inner_of_trim {c : Configuration} {clause : Clause} {child : Node}
    {d d' : Draft} {log : Log} (h : Run c (.node (.trim clause child)) d d' log) :
    ∃ inner, Run c (.node child) d.nested inner log ∧
      d' = (clause.wrap? inner.sql).elim (d.resume inner) (d.resume inner).appendClause := by
  cases h with
  | wrapped h ht => exact ⟨_, h, by rw [ht]; rfl⟩
  | dropped h ht => exact ⟨_, h, by rw [ht]; rfl⟩

/-- **Two runs that take the same decisions write the same**, when no value is written into
a text.  The logs may go on with the decisions of later runs. -/
theorem Run.alike {c : Configuration} {job job' : Job} {d d' e e' : Draft} {log log' : Log}
    (h : Run c job d d' log) (h' : Run c job' e e' log') (hjob : job.Twin job')
    (hparts : ∀ text, .interpolated text ∉ job.parts) (hd : d.Alike e) {rest rest' : Log}
    (hlog : log.decisions ++ rest = log'.decisions ++ rest') :
    d'.Alike e' ∧ job.output = job'.output ∧ rest = rest' := by
  induction h generalizing job' e e' log' rest rest' with
  | static h =>
    obtain rfl := hjob
    cases h' with
    | static h' => exact ⟨hd.addStatic h h', rfl, by simpa using hlog⟩
  | @interpolated text written d d' hw h => exact absurd List.mem_cons_self (hparts text)
  | condition h ih =>
    obtain rfl := hjob
    cases h' with
    | condition h' =>
      refine ih h' rfl (fun text ht => hparts text (List.mem_cons_of_mem _ ?_)) hd hlog
      simpa [Job.parts, Node.partsBranches, Node.partsFallback] using ht
  | choice h ih =>
    obtain rfl := hjob
    cases h' with
    | choice h' => exact ih h' rfl (fun text ht => hparts text (List.mem_cons_of_mem _ ht)) hd hlog
  | otherwise h ih =>
    obtain rfl := hjob
    cases h' with
    | otherwise h' =>
      exact ih h' rfl (fun text ht => hparts text (List.mem_cons_of_mem _ ht)) hd hlog
  | @item connector child d inner log h ih =>
    obtain rfl := hjob
    cases h' with
    | item h' =>
      obtain ⟨hinner, -, hrest⟩ :=
        ih h' rfl (fun text ht => hparts text (List.mem_cons_of_mem _ ht)) hd.nested hlog
      rw [← hinner.sql]
      exact ⟨(hd.resume hinner).append _, rfl, hrest⟩
  | @group connector children d inner log h ih =>
    obtain rfl := hjob
    cases h' with
    | group h' =>
      obtain ⟨hinner, -, hrest⟩ :=
        ih h' rfl (fun text ht => hparts text (List.mem_cons_of_mem _ ht)) hd.nested hlog
      rw [← hinner.sql]
      exact ⟨(hd.resume hinner).append _, rfl, hrest⟩
  | wrapped h ht ih =>
    obtain rfl := hjob
    obtain ⟨inner', hrun, rfl⟩ := h'.exists_inner_of_trim
    obtain ⟨hinner, -, hrest⟩ :=
      ih hrun rfl (fun text ht => hparts text (List.mem_cons_of_mem _ ht)) hd.nested hlog
    rw [← hinner.sql, ht]
    exact ⟨(hd.resume hinner).appendClause _, rfl, hrest⟩
  | dropped h ht ih =>
    obtain rfl := hjob
    obtain ⟨inner', hrun, rfl⟩ := h'.exists_inner_of_trim
    obtain ⟨hinner, -, hrest⟩ :=
      ih hrun rfl (fun text ht => hparts text (List.mem_cons_of_mem _ ht)) hd.nested hlog
    rw [← hinner.sql, ht]
    exact ⟨hd.resume hinner, rfl, hrest⟩
  | forEach h ih =>
    obtain rfl := hjob
    cases h' with
    | forEach h' => exact ih h' rfl (fun text ht => hparts text (List.mem_cons_of_mem _ ht)) hd hlog
  | list ht h ih =>
    obtain rfl := hjob
    cases h' with
    | list ht' h' =>
      exact ih h' rfl (fun text ht => hparts text (List.mem_cons_of_mem _ ht)) hd hlog
    | listed ht' hb' h' => simp [ht] at ht'
    | unlisted ht' hb' => simp [ht] at ht'
  | listed ht hb h ih =>
    obtain rfl := hjob
    cases h' with
    | list ht' h' => simp [ht] at ht'
    | listed ht' hb' h' =>
      exact ih h' rfl (fun text ht => hparts text (List.mem_cons_of_mem _ ht)) hd
        (List.cons.inj hlog).2
    | unlisted ht' hb' => simp at hlog
  | unlisted ht hb =>
    obtain rfl := hjob
    cases h' with
    | list ht' h' => simp [ht] at ht'
    | listed ht' hb' h' => simp at hlog
    | unlisted ht' hb' => exact ⟨hd, rfl, (List.cons.inj hlog).2⟩
  | bind hv =>
    obtain rfl := hjob
    cases h' with
    | bind hv' => exact ⟨hd.bind _ _ _, rfl, hlog⟩
  | sequence h ih =>
    obtain rfl := hjob
    cases h' with
    | sequence h' =>
      exact ih h' rfl (fun text ht => hparts text (List.mem_cons_of_mem _ ht)) hd hlog
  | empty =>
    obtain rfl := hjob
    cases h' with
    | empty => exact ⟨hd, rfl, hlog⟩
  | nil =>
    obtain rfl := hjob
    cases h' with
    | nil => exact ⟨hd, rfl, hlog⟩
  | cons h hr ih ihr =>
    -- What the logs go on with after the first child are the decisions of the others.
    obtain rfl := hjob
    cases h' with
    | cons h' hr' =>
      rw [Log.decisions_append, Log.decisions_append, List.append_assoc, List.append_assoc] at hlog
      obtain ⟨hmid, -, hlog'⟩ :=
        ih h' rfl (fun text ht => hparts text (List.mem_append_left _ ht)) hd hlog
      exact ihr hr' rfl (fun text ht => hparts text (List.mem_append_right _ ht)) hmid hlog'
  | chosen hb h ih =>
    -- Both logs begin with the answer to this test, so the other run takes the branch too.
    obtain rfl := hjob
    cases h' with
    | chosen hb' h' =>
      refine ih h' rfl (fun text ht => hparts text ?_) hd (List.cons.inj hlog).2
      exact List.mem_append_left _ (List.mem_append_left _ ht)
    | passed hb' h' => simp at hlog
  | passed hb h ih =>
    obtain rfl := hjob
    cases h' with
    | chosen hb' h' => simp at hlog
    | passed hb' h' =>
      refine ih h' rfl (fun text ht => hparts text ?_) hd (List.cons.inj hlog).2
      simp only [Job.parts, Node.partsBranches, List.append_assoc]
      exact List.mem_append_right _ ht
  | defaulted h ih =>
    obtain rfl := hjob
    cases h' with
    | defaulted h' => exact ih h' rfl hparts hd hlog
  | unchosen =>
    obtain rfl := hjob
    cases h' with
    | unchosen => exact ⟨hd, rfl, hlog⟩
  | @iterate lead loop child entry entries parts d d' log he h ih =>
    -- The entries are others, but the logs say that there are as many.
    obtain rfl := hjob
    cases h' with
    | @iterate _ _ _ entry' entries' parts' _ _ _ he' h' =>
      obtain ⟨hcount, hlog⟩ := List.cons.inj hlog
      have hlength : entries'.length = entries.length := by
        simpa using (Event.counted.inj hcount).symm
      obtain ⟨hafter, houtput, hrest⟩ :=
        ih h' ⟨entry' :: entries', parts', by simp [hlength], rfl⟩ hparts hd hlog
      obtain rfl : parts = parts' := houtput
      exact ⟨hafter.append _, rfl, hrest⟩
    | idle he' hn' => simp at hlog
  | idle he hn =>
    obtain rfl := hjob
    cases h' with
    | iterate he' h' => simp at hlog
    | idle he' hn' => exact ⟨hd, rfl, (List.cons.inj hlog).2⟩
  | done =>
    obtain ⟨entries', parts', hlength, rfl⟩ := hjob
    obtain rfl := List.length_eq_zero_iff.mp hlength
    cases h' with
    | done => exact ⟨hd, rfl, hlog⟩
  | @round loop child entry entries parts d inner d' log log' h hr ih ihr =>
    obtain ⟨entries', parts', hlength, rfl⟩ := hjob
    cases h' with
    | done => simp at hlength
    | @round _ _ entry' rest' parts' _ inner' _ _ _ h' hr' =>
      rw [Log.decisions_append, Log.decisions_append, List.append_assoc, List.append_assoc] at hlog
      obtain ⟨hinner, -, hlog⟩ := ih h' rfl hparts (hd.enter loop entry entry') hlog
      obtain ⟨hafter, houtput, hrest⟩ :=
        ihr hr' ⟨rest', parts', by simpa using hlength, rfl⟩ hparts (hd.resume hinner) hlog
      refine ⟨hafter, ?_, hrest⟩
      obtain rfl : parts = parts' := houtput
      show (if Text.isAllBlank inner.sql then parts else inner.sql :: parts) =
        if Text.isAllBlank inner'.sql then parts else inner'.sql :: parts
      rw [hinner.sql]

/-- **Values do not reach the text of a template that writes none into it.** -/
theorem Node.alike_of_render {c : Configuration} {root : Node} {p q : Value} {out out' : Composed}
    {log log' : Log} (hroot : ∀ text, .interpolated text ∉ root.parts)
    (h : root.render c p = .ok out) (h' : root.render c q = .ok out')
    (hlog : root.Logs c p log) (hlog' : root.Logs c q log')
    (hdecisions : log.decisions = log'.decisions) :
    out.sql = out'.sql ∧ List.Forall₂ Mapping.Alike out.mappings out'.mappings := by
  obtain ⟨d, hrun, rfl⟩ := hlog.run h
  obtain ⟨e, hrun', rfl⟩ := hlog'.run h'
  have hstart : (Node.start c p).Alike (Node.start c q) := ⟨rfl, .nil, rfl⟩
  obtain ⟨halike, -, -⟩ := hrun.alike hrun' rfl hroot hstart (congrArg (· ++ []) hdecisions)
  refine ⟨?_, halike.mappings⟩
  simp only [Draft.composed, halike.sql]

theorem Draft.addStatic_scoped {d : Draft} {value : Value} (hd : d.scope.isRoot = false)
    (hi : d.scope.scoped? "i" = some value) :
    d.addStatic {} "#\x7bi\x7d" = .ok { d with
      sql := d.sql ++ "?",
      mappings := d.mappings ++ [{ property := "i", value := some value }] } := by
  have hpieces : Delimiters.placeholder.pieces "#\x7bi\x7d" = [.literal [], .span "i".toList] := by
    decide +kernel
  have hparse : Mapping.parse "i" = .ok { property := "i" } := by cbv
  have hsplit : Path.splitRoot "i" = ("i", "") := by decide +kernel
  have hcapture : Draft.capture {} d.scope { property := "i" } =
      .ok { property := "i", value := some value } := by
    simp [Draft.capture, hd, hsplit, hi, Draft.propertyOf]
  exact Draft.addStatic_placeholder hpieces hparse hcapture

theorem Run.forEach_singleton (v : String) : ∃ d log,
    Run {} (.node (.forEach { collection := "ids", item := some "i" } (.static "#\x7bi\x7d")))
      (Node.start {} (.object [("ids", .array [.string v])])) d log ∧
      log.decisions = [.counted 1] ∧
      d.mappings = [{ property := "i", value := some (.string v) }] := by
  have hentries : Loop.entries { collection := "ids", item := some "i" } {}
      (Node.start {} (.object [("ids", .array [.string v])])).scope =
        .ok (some [(.ofNat 0, .string v)]) := by
    cbv
  have hitem : (Loop.enter { collection := "ids", item := some "i" }
      (Node.start {} (.object [("ids", .array [.string v])])) (.ofNat 0, .string v)).scope.scoped?
        "i" = some (.string v) := rfl
  have hrounds := Run.round (.static (Draft.addStatic_scoped rfl hitem)) .done
  exact ⟨_, _, .forEach (.iterate hentries hrounds), by simp, rfl⟩

/-- Two strings in a list give one text, and each its own values. -/
theorem Node.alike_of_two_lists :
    ∃ out out', Node.render {}
        (.forEach { collection := "ids", item := some "i" } (.static "#\x7bi\x7d"))
        (.object [("ids", .array [.string "u"])]) = .ok out ∧
      Node.render {} (.forEach { collection := "ids", item := some "i" } (.static "#\x7bi\x7d"))
        (.object [("ids", .array [.string "v"])]) = .ok out' ∧
      out.mappings = [{ property := "i", value := some (.string "u") }] ∧
      out'.mappings = [{ property := "i", value := some (.string "v") }] ∧ out.sql = out'.sql := by
  obtain ⟨d, log, hrun, hdecisions, hd⟩ := Run.forEach_singleton "u"
  obtain ⟨e, log', hrun', hdecisions', he⟩ := Run.forEach_singleton "v"
  have h := Node.render_eq_ok_iff.mpr ⟨d, hrun.composes, rfl⟩
  have h' := Node.render_eq_ok_iff.mpr ⟨e, hrun'.composes, rfl⟩
  have halike := Node.alike_of_render (by simp [Node.parts]) h h' ⟨d, hrun⟩ ⟨e, hrun'⟩
    (hdecisions.trans hdecisions'.symm)
  exact ⟨_, _, h, h', hd, he, halike.1⟩

end QueryTemplate
