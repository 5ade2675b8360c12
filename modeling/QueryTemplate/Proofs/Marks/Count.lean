import QueryTemplate.Proofs.Marks.Statement
import QueryTemplate.Template

/-!
# The marks of a counted statement

A statement may mark its parameters by any text.  Counting leaves a part of the statement out,
the blanks and the outer order at its end, and looks for `?` and `$` there to find out whether
a parameter is marked.  So a mark is lost only if it can stand in such a part (`Mark.IsLosable`:
it has neither of these signs, or its end has none and starts like the part) and it, or an end
of it, does stand there (`Statement.LeavesOut`).

* `Configuration.exists_markedText`: a marked text without an end in which no such mark stands.
* `Statement.count_marked`: all other marks are kept, and the texts between them.
-/

namespace QueryTemplate

/-! ### Marks that can be lost -/

/-- The mark, or its end, could stand in what counting leaves out of a statement. -/
def Mark.IsLosable (mark : List Char) : Prop :=
  ∃ front back, mark = front ++ back ∧ (∀ x ∈ back, x ≠ '?' ∧ x ≠ '$') ∧
    (front = [] ∨ ∃ x, back.head? = some x ∧ (Text.isBlank x = true ∨ x.toUpper = 'O'))

/-- A mark behind a text can be lost if a cut through the two leaves such a part behind it. -/
theorem Mark.isLosable_of_append_eq {text mark kept lost : List Char} {x : Char}
    (h : text ++ mark = kept ++ x :: lost) (hfree : ∀ y ∈ x :: lost, y ≠ '?' ∧ y ≠ '$')
    (hstart : Text.isBlank x = true ∨ x.toUpper = 'O') : Mark.IsLosable mark := by
  rcases List.append_eq_append_iff.mp h with ⟨front, -, hend⟩ | ⟨more, -, hwhole⟩
  · exact ⟨front, x :: lost, hend, hfree, .inr ⟨x, rfl, hstart⟩⟩
  · refine ⟨[], mark, rfl, fun y hy => hfree y ?_, .inl rfl⟩
    rw [hwhole]
    exact List.mem_append_right _ hy

/-- No mark of a dialect can be lost. -/
theorem Dialect.not_isLosable (d : Dialect) (i : Nat) : ¬ Mark.IsLosable (d.marks i) := by
  rintro ⟨front, back, hmark, hback, rfl | ⟨x, hx, hstart⟩⟩
  · have hsign : d.sign ∈ back := by
      rw [← List.nil_append back, ← hmark]
      exact d.sign_ofDialect.mem i
    have hneither := hback _ hsign
    cases d with
    | postgreSQL => exact hneither.2 rfl
    | mySQL | sqlite => exact hneither.1 rfl
  · have hmem : x ∈ d.marks i := by
      rw [hmark]
      exact List.mem_append_right front (List.mem_of_head? hx)
    rcases hstart with hblank | hupper
    · exact d.sign_ofDialect.blank_not_mem hblank i hmem
    · exact Statement.not_mem_marks_of_toUpper hupper i hmem

namespace Configuration

/-! ### Marked texts -/

/-- The marks from the first to the one with a number, and the texts between them. -/
def markedText (c : Configuration) (gap : Nat → String) : Nat → String
  | 0 => gap 0
  | n + 1 => c.markedText gap n ++ c.marker (n + 1) ++ gap (n + 1)

section

variable {c : Configuration} {gap gap' : Nat → String}

theorem markedText_congr {n : Nat} (h : ∀ j ≤ n, gap j = gap' j) :
    c.markedText gap n = c.markedText gap' n := by
  induction n with
  | zero => exact h 0 (Nat.le_refl 0)
  | succ n ih =>
    rw [markedText, markedText, ih fun j hj => h j (by omega), h (n + 1) (Nat.le_refl _)]

theorem append_markedText (front : String) (n : Nat) :
    front ++ c.markedText gap n = c.markedText (Function.update gap 0 (front ++ gap 0)) n := by
  induction n with
  | zero => simp [markedText]
  | succ n ih =>
    rw [markedText, markedText, ← ih, Function.update_of_ne (by omega)]
    simp [String.append_assoc]

theorem markedText_append (n : Nat) (back : String) :
    c.markedText gap n ++ back = c.markedText (Function.update gap n (gap n ++ back)) n := by
  cases n with
  | zero => simp [markedText]
  | succ n =>
    have hsame : c.markedText gap n =
        c.markedText (Function.update gap (n + 1) (gap (n + 1) ++ back)) n :=
      markedText_congr fun j hj => (Function.update_of_ne (by omega) _ _).symm
    rw [markedText, markedText, ← hsame, Function.update_self]
    simp [String.append_assoc]

/-- **A marked text keeps its marks without an end that holds no sign**, where the marks that
can be lost stand in front of that end. -/
theorem exists_markedText {n : Nat} {kept dropped : List Char}
    (h : kept ++ dropped = (c.markedText gap n).toList)
    (hfree : ∀ x ∈ dropped, x ≠ '?' ∧ x ≠ '$')
    (hstart : ∀ x, dropped.head? = some x → Text.isBlank x = true ∨ x.toUpper = 'O')
    (hmark : ∀ i, 1 ≤ i → i ≤ n → Mark.IsLosable (c.marker i).toList →
      (c.markedText (Function.update gap i "") i).length ≤ kept.length) :
    ∃ last, kept = (c.markedText (Function.update gap n last) n).toList := by
  cases n with
  | zero => exact ⟨String.ofList kept, by simp [markedText]⟩
  | succ n =>
    have hfront : ∀ last, c.markedText (Function.update gap (n + 1) last) n = c.markedText gap n :=
      fun last => markedText_congr fun j hj => Function.update_of_ne (by omega) _ _
    have hlast := hmark (n + 1) (by omega) (Nat.le_refl _)
    rw [markedText, String.toList_append, String.toList_append] at h
    rcases List.append_eq_append_iff.mp h with ⟨lost, hkept, hdropped⟩ | ⟨more, hkept, hgap⟩
    · cases lost with
      | nil =>
        refine ⟨"", ?_⟩
        rw [List.append_nil] at hkept
        rw [markedText, hfront, Function.update_self, ← hkept]
        simp
      | cons x lost =>
        -- what is lost in front of the last gap is the last mark or an end of it
        have hlost : ∀ y ∈ x :: lost, y ≠ '?' ∧ y ≠ '$' := by
          intro y hy
          refine hfree y ?_
          rw [hdropped]
          exact List.mem_append_left _ hy
        have hx : dropped.head? = some x := by
          rw [hdropped]
          rfl
        have hinside := hlast (Mark.isLosable_of_append_eq hkept hlost (hstart x hx))
        have hlength := congrArg List.length hkept
        rw [markedText, hfront, Function.update_self, String.append_empty,
          ← String.length_toList, String.toList_append] at hinside
        rw [hlength, List.length_append, List.length_cons] at hinside
        omega
    · refine ⟨String.ofList more, ?_⟩
      rw [markedText, hfront, Function.update_self, hkept]
      simp

end

end Configuration

def Configuration.colon : Configuration :=
  { marker? := some fun i => ":" ++ Decimal.natText i }

/-! ### Counting -/

namespace Statement

/-- The mark with the number `i`, or an end of it, stands in what counting leaves out of the
statement, and neither `?` nor `$` does: the part that is counted ends before the mark does. -/
def LeavesOut (s : Statement) (c : Configuration) (gap : Nat → String) (i : Nat) : Prop :=
  ∃ dropped, (countedBody s.sql).toList ++ dropped = s.sql.toList ∧
    (∀ x ∈ dropped, x ≠ '?' ∧ x ≠ '$') ∧
    (countedBody s.sql).length < (c.markedText (Function.update gap i "") i).length

/-- **Counting keeps the marks of all mappings**, in order and with the same texts between them,
unless a mark that can be lost stands in what it leaves out. -/
theorem count_marked {c : Configuration} {s : Statement} {gap : Nat → String}
    (hsql : s.sql = c.markedText gap s.mappings.length)
    (hmark : ∀ i, 1 ≤ i → i ≤ s.mappings.length → Mark.IsLosable (c.marker i).toList →
      ¬ s.LeavesOut c gap i) :
    s.count.mappings = s.mappings ∧
      ∃ gap', s.count.sql = c.markedText gap' s.count.mappings.length ∧
        ∀ j, 0 < j → j < s.mappings.length → gap' j = gap j := by
  refine ⟨rfl, ?_⟩
  obtain ⟨dropped, hdropped, hfree, hstart⟩ := exists_dropped s.sql
  have hlist : (countedBody s.sql).toList ++ dropped =
      (c.markedText gap s.mappings.length).toList := by
    rw [hdropped, hsql]
  have hinside : ∀ i, 1 ≤ i → i ≤ s.mappings.length → Mark.IsLosable (c.marker i).toList →
      (c.markedText (Function.update gap i "") i).length ≤ (countedBody s.sql).toList.length := by
    intro i hfirst hlast hlosable
    rw [String.length_toList]
    exact Nat.le_of_not_lt fun hcut =>
      hmark i hfirst hlast hlosable ⟨dropped, hdropped, hfree, hcut⟩
  obtain ⟨last, hbody⟩ := Configuration.exists_markedText hlist hfree hstart hinside
  have hcount : s.count.sql = "select count(1) from (" ++
      c.markedText (Function.update gap s.mappings.length last) s.mappings.length ++ ") t" := by
    rw [← String.toList_inj.mp hbody]
    rfl
  rw [Configuration.append_markedText, Configuration.markedText_append] at hcount
  refine ⟨_, hcount, fun j hfirst hlast => ?_⟩
  rw [Function.update_of_ne (by omega), Function.update_of_ne (by omega),
    Function.update_of_ne (by omega)]

/-- An outer order without marks is cut off behind the last of two marks: of the marks of a
dialect, which cannot be lost, and of marks of a colon and a number, which could. -/
theorem count_marked_two :
    (let s : Statement :=
      { sql := "select a, $1 from t where b = $2 order by a", bindings := [],
        mappings := [{ property := "a" }, { property := "b" }] }
    s.count.sql = "select count(1) from (select a, $1 from t where b = $2) t" ∧
      ∃ gap', s.count.sql = (Configuration.ofDialect .postgreSQL).markedText gap' 2 ∧
        gap' 1 = " from t where b = ") ∧
    let s : Statement :=
      { sql := "select a, :1 from t where b = :2 order by a", bindings := [],
        mappings := [{ property := "a" }, { property := "b" }] }
    Mark.IsLosable (Configuration.colon.marker 2).toList ∧
      s.count.sql = "select count(1) from (select a, :1 from t where b = :2) t" ∧
      ∃ gap', s.count.sql = Configuration.colon.markedText gap' 2 ∧
        gap' 1 = " from t where b = " := by
  let gap : Nat → String := fun
    | 0 => "select a, "
    | 1 => " from t where b = "
    | _ => " order by a"
  refine ⟨?_, ?_⟩
  · intro s
    have hsql : s.sql = (Configuration.ofDialect .postgreSQL).markedText gap s.mappings.length := by
      decide +kernel
    obtain ⟨-, gap', hcount, hgap⟩ := count_marked hsql fun i _ _ h =>
      absurd h (Dialect.not_isLosable .postgreSQL i)
    exact ⟨by decide +kernel, gap', hcount, hgap 1 (by decide) (by decide)⟩
  · intro s
    have hsql : s.sql = Configuration.colon.markedText gap s.mappings.length := by
      decide +kernel
    have hlosable : Mark.IsLosable (Configuration.colon.marker 2).toList :=
      ⟨[], [':', '2'], by decide +kernel, by simp, .inl rfl⟩
    have hinside : ∀ i, 1 ≤ i → i ≤ s.mappings.length →
        Mark.IsLosable (Configuration.colon.marker i).toList →
        ¬ s.LeavesOut Configuration.colon gap i := by
      rintro i hfirst hlast - ⟨-, -, -, hcut⟩
      have hlast : i ≤ 2 := hlast
      interval_cases i <;> exact absurd hcut (by decide +kernel)
    obtain ⟨-, gap', hcount, hgap⟩ := count_marked hsql hinside
    exact ⟨hlosable, by decide +kernel, gap', hcount, hgap 1 (by decide) (by decide)⟩

end Statement

def Statement.ofMarkedOrder : Statement :=
  { sql := "select a from t order by :1", mappings := [{ property := "a" }], bindings := [] }

/-- **A mark of a colon and a number is lost**: it is not recognized in an outer order. -/
theorem Template.exists_lost_mark :
    ∃ t, Template.build (.static "select a from t order by #\x7ba\x7d") .colon = .ok t ∧
      t.statement (.object [("a", .ofInt 1)]) = .ok .ofMarkedOrder ∧
      Statement.ofMarkedOrder.sql = Configuration.colon.markedText
        (fun j => if j = 0 then "select a from t order by " else "") 1 ∧
      Statement.ofMarkedOrder.count.sql = "select count(1) from (select a from t) t" ∧
      ∀ gap, Statement.ofMarkedOrder.count.sql ≠ Configuration.colon.markedText gap 1 := by
  have hcount : Statement.ofMarkedOrder.count.sql = "select count(1) from (select a from t) t" := by
    decide +kernel
  refine ⟨_, by cbv, by cbv, by decide +kernel, hcount, fun gap heq => ?_⟩
  have hcolon : ':' ∈ (Configuration.colon.markedText gap 1).toList := by
    simp [Configuration.markedText, Configuration.marker, Configuration.colon]
  rw [← heq, hcount] at hcolon
  revert hcolon
  decide

end QueryTemplate
