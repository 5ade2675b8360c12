import QueryTemplate.Proofs.Digits
import QueryTemplate.Proofs.Marks.Text
import QueryTemplate.Proofs.Sql.Body

/-!
# The marks of a rewritten statement

A statement is consistent for a dialect when its text holds the dialect's marks of all
its mappings, in order, and neither `?` nor `$` stands anywhere else in it.  Counting and
paging keep this, however often and in whatever order they are done.

* `Dialect.sign_ofDialect`, `Statement.consistent_iff`: the marks of a dialect have a sign,
  so a consistent statement is a marked text.
* `Statement.Holds.countedBody`: what counting leaves out of a statement starts with a character
  that stands in no mark.
* `Statement.Consistent.count`, `Statement.Consistent.page`: one step.
* `Statement.consistent_rewrite`: any number of steps.
-/

namespace QueryTemplate

/-! ### The marks of a dialect -/

namespace Dialect

def sign : Dialect → Char
  | .postgreSQL => '$'
  | .mySQL => '?'
  | .sqlite => '?'

def otherSign : Dialect → Char
  | .postgreSQL => '?'
  | .mySQL => '$'
  | .sqlite => '$'

abbrev marks (d : Dialect) (n : Nat) : List Char :=
  (d.marker n).toList

theorem free_iff {d : Dialect} {s : List Char} :
    '?' ∉ s ∧ '$' ∉ s ↔ d.sign ∉ s ∧ d.otherSign ∉ s := by
  cases d with
  | postgreSQL => exact and_comm
  | mySQL => exact Iff.rfl
  | sqlite => exact Iff.rfl

theorem marks_eq (d : Dialect) (n : Nat) :
    ∃ digits, d.marks n = d.sign :: digits ∧ ∀ x ∈ digits, x.isDigit = true := by
  cases d with
  | postgreSQL =>
    refine ⟨Decimal.digitsOf n, ?_, fun _ => Decimal.isDigit_of_mem_digitsOf⟩
    simp [marks, marker, Decimal.natText, sign]
  | mySQL => exact ⟨[], by simp [marks, marker, sign], by simp⟩
  | sqlite => exact ⟨[], by simp [marks, marker, sign], by simp⟩

theorem not_mem_marks {d : Dialect} {x : Char} (hsign : x ≠ d.sign) (hdigit : x.isDigit = false)
    (n : Nat) : x ∉ d.marks n := by
  obtain ⟨digits, hmark, hdigits⟩ := d.marks_eq n
  rw [hmark]
  intro hx
  rcases List.mem_cons.mp hx with rfl | hx
  · exact hsign rfl
  · rw [hdigits x hx] at hdigit
    cases hdigit

theorem otherSign_not_mem (d : Dialect) (n : Nat) : d.otherSign ∉ d.marks n := by
  refine not_mem_marks ?_ ?_ n
  · cases d <;> decide
  · cases d <;> rfl

theorem sign_ofDialect (d : Dialect) : Sign (Configuration.ofDialect d) d.sign := by
  have hdigit : d.sign.isDigit = false := by cases d <;> rfl
  have hblank : Text.isBlank d.sign = false := by cases d <;> rfl
  refine ⟨fun n => ?_, fun n x hx => ?_, by cases d <;> rfl, by cases d <;> decide⟩
  · show (d.marks n).count d.sign = 1
    obtain ⟨digits, hmark, hdigits⟩ := d.marks_eq n
    have hnot : d.sign ∉ digits := by
      intro hm
      rw [hdigits _ hm] at hdigit
      cases hdigit
    rw [hmark, List.count_cons_self, List.count_eq_zero.mpr hnot]
  · obtain ⟨digits, hmark, hdigits⟩ := d.marks_eq n
    have hx' : x ∈ d.sign :: digits := hmark ▸ hx
    rcases List.mem_cons.mp hx' with rfl | hx'
    · exact hblank
    · exact Text.isBlank_of_isDigit (hdigits x hx')

end Dialect

namespace Statement

/-- The text of the statement holds the marks of all its mappings, in order, and neither `?`
nor `$` stands anywhere else in it. -/
def Consistent (d : Dialect) (s : Statement) : Prop :=
  ∃ gap : Nat → String,
    (∀ j ≤ s.mappings.length, '?' ∉ (gap j).toList ∧ '$' ∉ (gap j).toList) ∧
    s.sql = gap 0 ++ String.join
      ((List.range s.mappings.length).map fun j => d.marker (j + 1) ++ gap (j + 1))

structure Holds (d : Dialect) (i j : Nat) (text : String) : Prop where
  marked : HoldsMarks (Configuration.ofDialect d) d.sign i j text
  otherSign : d.otherSign ∉ text.toList

section

variable {d : Dialect} {i j : Nat}

theorem Holds.of_free {text : String} (h : '?' ∉ text.toList ∧ '$' ∉ text.toList) :
    Holds d i i text := by
  obtain ⟨hsign, hother⟩ := d.free_iff.mp h
  exact ⟨.free hsign, hother⟩

theorem Holds.append {l : Nat} {s t : String} (h : Holds d i j s) (ht : Holds d j l t) :
    Holds d i l (s ++ t) := by
  refine ⟨h.marked.append ht.marked, ?_⟩
  rw [String.toList_append, List.mem_append, not_or]
  exact ⟨h.otherSign, ht.otherSign⟩

theorem Holds.marker (d : Dialect) (i : Nat) : Holds d i (i + 1) (d.marker (i + 1)) := by
  constructor
  · have hmark : Marked d.marks d.sign i (i + 1) ([] ++ d.marks (i + 1) ++ []) :=
      .mark List.not_mem_nil (.free List.not_mem_nil)
    rw [List.nil_append, List.append_nil] at hmark
    exact hmark
  · exact d.otherSign_not_mem (i + 1)

/-- A consistent statement is a text with marks and without the sign of other dialects. -/
theorem consistent_iff {s : Statement} : s.Consistent d ↔ Holds d 0 s.mappings.length s.sql := by
  constructor
  · rintro ⟨gap, hfree, hsql⟩
    have hgap : ∀ j ≤ s.mappings.length, d.sign ∉ (gap j).toList ∧ d.otherSign ∉ (gap j).toList :=
      fun j hj => d.free_iff.mp (hfree j hj)
    have hlist : s.sql.toList = (gap 0).toList ++
        ((List.range s.mappings.length).map fun m =>
          d.marks (0 + m + 1) ++ (gap (m + 1)).toList).flatten := by
      rw [hsql]
      simp [List.flatMap_def, Function.comp_def]
    constructor
    · have hmarked : Marked d.marks d.sign 0 (0 + s.mappings.length) _ :=
        Marked.of_gaps fun m hm => (hgap m hm).1
      rw [Nat.zero_add] at hmarked
      rw [HoldsMarks, hlist]
      exact hmarked
    · rw [hlist]
      simp only [List.mem_append, List.mem_flatten, List.mem_map, List.mem_range, not_or]
      refine ⟨(hgap 0 (Nat.zero_le _)).2, ?_⟩
      rintro ⟨piece, ⟨m, hm, rfl⟩, hmem⟩
      rcases List.mem_append.mp hmem with hmem | hmem
      · exact d.otherSign_not_mem _ hmem
      · exact (hgap (m + 1) hm).2 hmem
  · rintro ⟨hmarked, hother⟩
    obtain ⟨n, t, hn, hfree, hlist⟩ := Marked.exists_gaps hmarked
    rw [Nat.zero_add] at hn
    refine ⟨fun j => String.ofList (t j), fun j hj => ?_, ?_⟩
    · have hsub : ∀ x ∈ t j, x ∈ s.sql.toList := by
        intro x hx
        rw [hlist]
        cases j with
        | zero => exact List.mem_append_left _ hx
        | succ m =>
          refine List.mem_append_right _ (List.mem_flatten.mpr ⟨_, List.mem_map.mpr ⟨m, ?_, rfl⟩,
            List.mem_append_right _ hx⟩)
          exact List.mem_range.mpr (by omega)
      rw [String.toList_ofList]
      exact d.free_iff.mpr ⟨hfree j, fun hm => hother (hsub _ hm)⟩
    · rw [← String.toList_inj, hlist, hn]
      simp [List.flatMap_def, Function.comp_def, Configuration.ofDialect, Configuration.marker]

end

end Statement

/-! ### Counting and paging -/

inductive Rewriting
  | count
  | page (size number : Int)
deriving DecidableEq, Repr

def Rewriting.added : Rewriting → Nat
  | .count => 0
  | .page _ _ => 2

namespace Statement

def rewrite (d : Dialect) (s : Statement) : Rewriting → Statement
  | .count => s.count
  | .page size number => s.page d size number

section

variable {d : Dialect} {i j : Nat}

/-- The letter that an outer order starts with stands in no mark. -/
theorem not_mem_marks_of_toUpper {x : Char} (hx : x.toUpper = 'O') (n : Nat) : x ∉ d.marks n := by
  have halpha : x.isAlpha = true := by
    rw [← Char.isAlpha_toUpper_eq_isAlpha, hx]
    rfl
  refine Dialect.not_mem_marks ?_ (Text.isDigit_of_isAlpha halpha) n
  rintro rfl
  cases d <;> cases halpha

theorem Holds.countedBody {sql : String} (h : Holds d i j sql) :
    Holds d i j (countedBody sql) := by
  obtain ⟨dropped, hdropped, hfree, hstart⟩ := exists_dropped sql
  have hsign := d.sign_ofDialect
  have hbody : Marked d.marks d.sign i j (Statement.countedBody sql).toList := by
    have hmarked : Marked d.marks d.sign i j sql.toList := h.marked
    rw [← hdropped] at hmarked
    cases dropped with
    | nil => rwa [List.append_nil] at hmarked
    | cons x rest =>
      have hx : ∀ n, x ∉ d.marks n := by
        intro n
        rcases hstart x rfl with hblank | hupper
        · exact hsign.blank_not_mem hblank n
        · exact not_mem_marks_of_toUpper hupper n
      have hrest : d.sign ∉ rest := by
        have hneither : '?' ∉ rest ∧ '$' ∉ rest :=
          ⟨fun hm => (hfree _ (List.mem_cons_of_mem x hm)).1 rfl,
            fun hm => (hfree _ (List.mem_cons_of_mem x hm)).2 rfl⟩
        exact (d.free_iff.mp hneither).1
      -- the cut is in front of a character that stands in no mark
      obtain ⟨m, hm, hmore⟩ := hmarked.split hsign.mem hx
      obtain rfl := hmore.eq_of_free hsign.mem hrest
      exact hm
  refine ⟨hbody, fun hmem => h.otherSign ?_⟩
  rw [← hdropped]
  exact List.mem_append_left dropped hmem

/-- **Counting keeps a statement consistent.** -/
theorem Consistent.count {s : Statement} (h : s.Consistent d) : s.count.Consistent d := by
  rw [consistent_iff] at h ⊢
  exact ((Holds.of_free (by decide)).append h.countedBody).append (Holds.of_free (by decide))

theorem Consistent.addWindow {s : Statement} (h : s.Consistent d) {keyword : String}
    (hkeyword : '?' ∉ keyword.toList ∧ '$' ∉ keyword.toList) (value : Int) :
    (s.addWindow d keyword value).Consistent d := by
  rw [consistent_iff] at h ⊢
  have hspace : Holds d s.mappings.length s.mappings.length " " := Holds.of_free (by decide)
  have hmarked := (((h.append hspace).append (Holds.of_free hkeyword)).append hspace).append
    (Holds.marker d s.mappings.length)
  show Holds d 0 (s.mappings ++ [_]).length _
  rw [List.length_append, List.length_singleton]
  exact hmarked

/-- **Paging keeps a statement consistent.** -/
theorem Consistent.page {s : Statement} (h : s.Consistent d) (size number : Int) :
    (s.page d size number).Consistent d :=
  (h.addWindow (by decide) _).addWindow (by decide) _

theorem mappings_rewrite (s : Statement) (r : Rewriting) :
    ∃ new, (s.rewrite d r).mappings = s.mappings ++ new ∧ new.length = r.added := by
  cases r with
  | count => exact ⟨[], (List.append_nil _).symm, rfl⟩
  | page size number => exact ⟨[_, _], List.append_assoc _ _ _, rfl⟩

/-- **A consistent statement stays consistent however often it is counted and paged**: its
mappings stay in front, and each paging adds two while counting adds none. -/
theorem consistent_rewrite {s : Statement} (h : s.Consistent d) (steps : List Rewriting) :
    (steps.foldl (rewrite d) s).Consistent d ∧
      s.mappings <+: (steps.foldl (rewrite d) s).mappings ∧
      (steps.foldl (rewrite d) s).mappings.length =
        s.mappings.length + (steps.map Rewriting.added).sum := by
  induction steps generalizing s with
  | nil => exact ⟨h, List.prefix_rfl, rfl⟩
  | cons r rest ih =>
    have hstep : (s.rewrite d r).Consistent d := by
      cases r with
      | count => exact h.count
      | page size number => exact h.page size number
    obtain ⟨new, hnew, hlength⟩ := mappings_rewrite (d := d) s r
    obtain ⟨hconsistent, hprefix, hcount⟩ := ih hstep
    refine ⟨hconsistent, List.IsPrefix.trans ⟨new, hnew.symm⟩ hprefix, ?_⟩
    rw [List.foldl_cons, hcount, hnew, List.length_append, hlength, List.map_cons, List.sum_cons,
      Nat.add_assoc]

/-- A statement with an outer order that is counted, paged and counted again. -/
theorem consistent_rewrite_count_page_count :
    let s : Statement :=
      { sql := "select a from t where b = $1 order by a", mappings := [{ property := "b" }],
        bindings := [] }
    let r := [Rewriting.count, .page 10 3, .count].foldl (rewrite .postgreSQL) s
    s.Consistent .postgreSQL ∧ r.Consistent .postgreSQL ∧ s.mappings <+: r.mappings ∧
      r.mappings.length = 3 ∧
      r.sql = "select count(1) from (select count(1) from (select a from t where b = $1) t" ++
        " limit $2 offset $3) t" := by
  intro s r
  have hs : s.Consistent .postgreSQL := by
    refine ⟨fun j => if j = 0 then "select a from t where b = " else " order by a",
      fun j _ => ?_, by decide +kernel⟩
    by_cases hj : j = 0
    · simp only [if_pos hj]
      decide
    · simp only [if_neg hj]
      decide
  obtain ⟨hr, hprefix, hlength⟩ := consistent_rewrite hs [.count, .page 10 3, .count]
  exact ⟨hs, hr, hprefix, hlength, by decide +kernel⟩

end

end Statement

end QueryTemplate
