import QueryTemplate.Proofs.Marks.Text
import QueryTemplate.Proofs.Run.Basic

/-!
# The marks of a composed statement

The mappings of a statement and the marks in its text belong together: the `n`-th mark
stands for the `n`-th mapping, and there is no other.

The invariant of a run is that the text of a draft holds the marks of the mappings
that were put in while the text was written (`Run.marks`).  A nested text starts
empty, at the mappings of the draft around it.

* `Node.holdsMarks_of_render`: what this says about a composed template.
-/

namespace QueryTemplate

/-- What a node may hold when the marks have the sign `k`. -/
def Node.ClearOf (c : Configuration) (k : Char) : Node → Prop
  | .trim clause _ => clause.ClearOf c k
  | .forEach loop _ => loop.ClearOf k
  | _ => True

def Job.ClearOf (k : Char) : Job → Prop
  | .iterate lead loop _ => k ∉ lead.toList ∧ loop.ClearOf k
  | _ => True

/-- A job keeps what the text of a draft says about its mappings.  The rounds of a loop
write texts of their own. -/
def Job.KeepsMarks (c : Configuration) (k : Char) : Job → Draft → Draft → Prop
  | .rounds _ _ _ parts, d, d' =>
    AllMarked (fun n => (c.marker n).toList) k d.mappings.length d'.mappings.length
      (parts.map String.toList)
  | _, d, d' =>
    ∀ i, HoldsMarks c k i d.mappings.length d.sql → HoldsMarks c k i d'.mappings.length d'.sql

section

variable {c : Configuration} {k : Char}

theorem Membership.clearOf_loop (hk : Sign c k) (m : Membership) : m.loop.ClearOf k :=
  ⟨hk.not_mem (s := "(") rfl, hk.not_mem (s := ")") rfl, hk.not_mem (s := ",") rfl⟩

theorem Draft.holdsMarks_of_collect {scope : Scope} {pieces : List Piece}
    {mappings after : List Mapping} {sql : String}
    (h : Draft.collect c scope mappings pieces = .ok (after, sql))
    (hfree : ∀ text, .literal text ∈ pieces → k ∉ text) :
    HoldsMarks c k mappings.length after.length sql := by
  induction pieces generalizing mappings sql with
  | nil =>
    obtain ⟨rfl, rfl⟩ := Prod.mk.inj (Except.ok.inj h)
    exact .free (by simp)
  | cons piece rest ih =>
    cases piece with
    | literal text =>
      obtain ⟨tail, htail, rfl⟩ := Draft.collect_literal_eq_ok_iff.mp h
      have hrest := ih htail fun t ht => hfree t (List.mem_cons_of_mem _ ht)
      refine (HoldsMarks.free ?_).append hrest
      rw [String.toList_ofList]
      exact hfree text List.mem_cons_self
    | span body =>
      obtain ⟨parsed, mapping, tail, -, -, htail, rfl⟩ := Draft.collect_span_eq_ok_iff.mp h
      have hrest := ih htail fun t ht => hfree t (List.mem_cons_of_mem _ ht)
      rw [List.length_append, List.length_singleton] at hrest
      rw [HoldsMarks, String.toList_append]
      exact Marked.mark (t := []) List.not_mem_nil hrest

theorem Draft.keepsMarks_of_addStatic {text : String} {d d' : Draft}
    (h : d.addStatic c text = .ok d')
    (hfree : ∀ t, .copied t ∈ Log.reading d.scope text → k ∉ t.toList) {i : Nat}
    (hd : HoldsMarks c k i d.mappings.length d.sql) :
    HoldsMarks c k i d'.mappings.length d'.sql := by
  obtain ⟨mappings, sql, hc, rfl⟩ := Draft.addStatic_eq_ok_iff.mp h
  refine hd.append (Draft.holdsMarks_of_collect hc fun t ht => ?_)
  have hcopied : .copied (String.ofList t) ∈ Log.reading d.scope text :=
    List.mem_map.mpr ⟨.literal t, ht, rfl⟩
  have := hfree _ hcopied
  rwa [String.toList_ofList] at this

/-- What is written beside a draft and then added to it keeps its marks. -/
theorem Draft.keepsMarks_of_resume {d inner : Draft} {text : String}
    (hinner : HoldsMarks c k d.mappings.length inner.mappings.length text) {i : Nat}
    (hd : HoldsMarks c k i d.mappings.length d.sql) :
    HoldsMarks c k i ((d.resume inner).append text).mappings.length
      ((d.resume inner).append text).sql :=
  hd.append hinner

theorem Run.marks (hk : Sign c k) {job : Job} {d d' : Draft} {log : Log}
    (h : Run c job d d' log) (hcopied : ∀ text, .copied text ∈ log → k ∉ text.toList)
    (hparts : ∀ n ∈ job.parts, n.ClearOf c k) (hjob : job.ClearOf k) :
    job.KeepsMarks c k d d' := by
  induction h with
  | static h => exact fun i => Draft.keepsMarks_of_addStatic h hcopied
  | interpolated hw h =>
    exact fun i => Draft.keepsMarks_of_addStatic h fun t ht =>
      hcopied t (List.mem_append_right _ ht)
  | condition h ih =>
    refine ih hcopied (fun n hn => hparts n (List.mem_cons_of_mem _ ?_)) trivial
    simpa [Job.parts, Node.partsBranches, Node.partsFallback] using hn
  | choice h ih => exact ih hcopied (fun n hn => hparts n (List.mem_cons_of_mem _ hn)) trivial
  | otherwise h ih => exact ih hcopied (fun n hn => hparts n (List.mem_cons_of_mem _ hn)) trivial
  | @item connector child d inner log h ih =>
    have hinner := ih hcopied (fun n hn => hparts n (List.mem_cons_of_mem _ hn)) trivial
      d.mappings.length (.free (by simp [Draft.nested]))
    exact fun i => Draft.keepsMarks_of_resume (hinner.itemText hk connector)
  | @group connector children d inner log h ih =>
    have hinner := ih hcopied (fun n hn => hparts n (List.mem_cons_of_mem _ hn)) trivial
      d.mappings.length (.free (by simp [Draft.nested]))
    exact fun i => Draft.keepsMarks_of_resume (hinner.groupText hk connector)
  | @wrapped clause child d inner text log h ht ih =>
    have hinner := ih hcopied (fun n hn => hparts n (List.mem_cons_of_mem _ hn)) trivial
      d.mappings.length (.free (by simp [Draft.nested]))
    have hclear : clause.ClearOf c k := hparts _ List.mem_cons_self
    intro i hi
    exact (hi.append (.free (gap_not_mem hk d.sql))).append (hinner.wrap hk hclear ht)
  | @dropped clause child d inner log h ht ih =>
    have hinner := ih hcopied (fun n hn => hparts n (List.mem_cons_of_mem _ hn)) trivial
      d.mappings.length (.free (by simp [Draft.nested]))
    have hclear : clause.ClearOf c k := hparts _ List.mem_cons_self
    intro i hi
    show HoldsMarks c k i inner.mappings.length d.sql
    rw [← hinner.eq_of_wrap_eq_none hk hclear ht]
    exact hi
  | @forEach loop child d d' log h ih =>
    have hclear : loop.ClearOf k := hparts _ List.mem_cons_self
    exact ih hcopied (fun n hn => hparts n (List.mem_cons_of_mem _ hn)) ⟨by simp, hclear⟩
  | @list m d d' log ht h ih =>
    exact ih hcopied (fun n hn => hparts n (List.mem_cons_of_mem _ hn))
      ⟨hk.not_mem rfl, m.clearOf_loop hk⟩
  | @listed m test d d' log ht hb h ih =>
    exact ih (fun t ht => hcopied t (List.mem_cons_of_mem _ ht))
      (fun n hn => hparts n (List.mem_cons_of_mem _ hn)) ⟨hk.not_mem rfl, m.clearOf_loop hk⟩
  | unlisted ht hb => exact fun i hi => hi
  | bind hv => exact fun i hi => hi
  | sequence h ih => exact ih hcopied (fun n hn => hparts n (List.mem_cons_of_mem _ hn)) trivial
  | empty => exact fun i hi => hi
  | nil => exact fun i hi => hi
  | cons h hr ih ihr =>
    have hfirst := ih (fun t ht => hcopied t (List.mem_append_left _ ht))
      (fun n hn => hparts n (List.mem_append_left _ hn)) trivial
    have hrest := ihr (fun t ht => hcopied t (List.mem_append_right _ ht))
      (fun n hn => hparts n (List.mem_append_right _ hn)) trivial
    exact fun i hi => hrest i (hfirst i hi)
  | chosen hb h ih =>
    refine ih (fun t ht => hcopied t (List.mem_cons_of_mem _ ht)) (fun n hn => hparts n ?_) trivial
    exact List.mem_append_left _ (List.mem_append_left _ hn)
  | passed hb h ih =>
    refine ih (fun t ht => hcopied t (List.mem_cons_of_mem _ ht)) (fun n hn => hparts n ?_) trivial
    simp only [Job.parts, Node.partsBranches, List.append_assoc]
    exact List.mem_append_right _ hn
  | defaulted h ih => exact ih hcopied hparts trivial
  | unchosen => exact fun i hi => hi
  | @iterate lead loop child entry rest parts d d' log he h ih =>
    have hrounds := ih (fun t ht => hcopied t (List.mem_cons_of_mem _ ht)) hparts trivial
    intro i hi
    show HoldsMarks c k i d'.mappings.length (d'.sql ++ (lead ++ loop.written parts))
    rw [(Loop.rounds_frame h.composes).2]
    exact hi.append ((HoldsMarks.free hjob.1).append (HoldsMarks.written hjob.2 hrounds))
  | idle he h => exact fun i hi => hi
  | done => exact .nil
  | @round loop child entry rest parts d inner d' log log' h hr ih ihr =>
    have hstart : HoldsMarks c k d.mappings.length (loop.enter d entry).mappings.length
        (loop.enter d entry).sql := by
      rw [Loop.enter_mappings, Loop.enter_sql]
      exact .free (by simp)
    have hinner := ih (fun t ht => hcopied t (List.mem_append_left _ ht)) hparts trivial
      d.mappings.length hstart
    have hrest := ihr (fun t ht => hcopied t (List.mem_append_right _ ht)) hparts trivial
    show AllMarked _ k d.mappings.length d'.mappings.length _
    by_cases hb : Text.isAllBlank inner.sql = true
    · rw [if_pos hb, HoldsMarks.eq_of_isAllBlank hk hinner hb]
      exact hrest
    · rw [if_neg hb]
      exact .cons hinner hrest

/-- The text of a composed template holds the marks of all its mappings. -/
theorem Node.holdsMarks_of_render (hk : Sign c k) {root : Node} {parameter : Value}
    {out : Composed} {log : Log} (h : root.render c parameter = .ok out)
    (hlog : root.Logs c parameter log) (hparts : ∀ n ∈ root.parts, n.ClearOf c k)
    (hcopied : ∀ text, .copied text ∈ log → k ∉ text.toList) :
    HoldsMarks c k 0 out.mappings.length out.sql := by
  obtain ⟨d, hrun, rfl⟩ := hlog.run h
  have hd : HoldsMarks c k 0 d.mappings.length d.sql :=
    hrun.marks hk hcopied hparts trivial 0 (.free (by simp [Node.start]))
  show HoldsMarks c k 0 d.mappings.length (if c.shrinks then Text.collapsed d.sql else d.sql)
  by_cases hs : c.shrinks = true
  · rw [if_pos hs]
    exact hd.collapsed hk
  · rw [if_neg hs]
    exact hd

/-- **The marks of a composed template are those of its mappings**: all of them, in their
order, and nothing else in the text holds the sign of a mark. -/
theorem Node.marks_of_render (hk : Sign c k) {root : Node} {parameter : Value}
    {out : Composed} {log : Log} (h : root.render c parameter = .ok out)
    (hlog : root.Logs c parameter log) (hparts : ∀ n ∈ root.parts, n.ClearOf c k)
    (hcopied : ∀ text, .copied text ∈ log → k ∉ text.toList) :
    (∃ gap : Nat → String, (∀ j, k ∉ (gap j).toList) ∧
      out.sql = gap 0 ++ String.join
        ((List.range out.mappings.length).map fun j => c.marker (j + 1) ++ gap (j + 1))) ∧
    out.sql.toList.count k = out.mappings.length := by
  have hmarks := Node.holdsMarks_of_render hk h hlog hparts hcopied
  constructor
  · obtain ⟨n, t, hn, hfree, hsql⟩ := Marked.exists_gaps hmarks
    rw [Nat.zero_add] at hn
    refine ⟨fun j => String.ofList (t j), fun j => ?_, ?_⟩
    · rw [String.toList_ofList]
      exact hfree j
    · rw [← String.toList_inj, hsql, hn]
      simp [List.flatMap_def, Function.comp_def]
  · have hcount := Marked.count_eq hk.once hmarks
    rwa [Nat.zero_add] at hcount

/-- The marks of two assignments stay when the comma behind them goes. -/
theorem Node.marks_of_render_two_assignments :
    ∃ out, (Node.setClause (.static "a = #\x7ba\x7d,b = #\x7bb\x7d,")).render {} .null = .ok out ∧
      out.sql = "SET a = ?,b = ?" ∧ out.mappings.length = 2 ∧ out.sql.toList.count '?' = 2 := by
  have hsign : Sign {} '?' := by
    refine ⟨fun i => ?_, fun i x hx => ?_, rfl, by decide⟩
    · show "?".toList.count '?' = 1
      decide
    · obtain rfl : x = '?' := by simpa [Configuration.marker] using hx
      decide
  have hstatic : (Node.start {} .null).nested.addStatic {} "a = #\x7ba\x7d,b = #\x7bb\x7d," =
      .ok { (Node.start {} .null).nested with
        sql := "a = ?,b = ?,", mappings := [{ property := "a" }, { property := "b" }] } := by
    cbv
  have hwrap : Clause.setClause.wrap? "a = ?,b = ?," = some "SET a = ?,b = ?" := by
    decide +kernel
  have hrun := Run.wrapped (.static hstatic) hwrap
  have h := Node.render_eq_ok_iff.mpr ⟨_, hrun.composes, rfl⟩
  have hmarks := Node.marks_of_render hsign h ⟨_, hrun⟩ ?_ ?_
  · exact ⟨_, h, rfl, rfl, hmarks.2⟩
  · intro n hn
    simp only [Node.parts, List.mem_cons, List.not_mem_nil, or_false] at hn
    rcases hn with rfl | rfl
    · refine ⟨by decide, by decide, fun o ho x hx n y hy => ?_⟩
      obtain rfl : o = "," := by simpa [Clause.setClause] using ho
      obtain rfl : x = ',' := by simpa using hx
      obtain rfl : y = '?' := by simpa [Configuration.marker] using hy
      decide
    · trivial
  · have hpieces : Delimiters.placeholder.pieces "a = #\x7ba\x7d,b = #\x7bb\x7d," =
        [.literal "a = ".toList, .span "a".toList, .literal ",b = ".toList, .span "b".toList,
          .literal ",".toList] := by
      decide +kernel
    intro text ht
    rw [Log.reading, hpieces] at ht
    simp only [List.map_cons, List.map_nil, Event.ofPiece, List.mem_cons, Event.copied.injEq,
      String.ofList_toList, reduceCtorEq, List.not_mem_nil, or_false, false_or] at ht
    rcases ht with rfl | rfl | rfl <;> decide

end

end QueryTemplate
