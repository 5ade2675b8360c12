import QueryTemplate.Proofs.Sql.Body
import QueryTemplate.Proofs.Sql.Closed

/-!
# Counting a closed statement

Counting puts a closed statement into parentheses, and the result is closed too, with one
exception: when only blanks are left between a line comment and the place where the statement is
cut (`Sql.LineBeforeCut`), trimming takes the end of the line away, and the closing parenthesis
falls into the comment.

* `Statement.closed_countedBody`: what is counted is closed, unless it ends in a line comment.
* `Statement.lexes_count`: the tokens of a counted statement.
* `Statement.closed_count_iff`: a counted statement is closed exactly when it has no line
  comment before the cut, and then its last parenthesis is the partner of the one in front of
  what is counted.
-/

namespace QueryTemplate

namespace Sql

/-- No parameter is marked in what is cut off the statement, and apart from blanks what stays
of it ends in a line comment. -/
def LineBeforeCut (sql : String) : Prop :=
  (∀ c ∈ (splitOrderBy sql).2, c ≠ '?' ∧ c ≠ '$') ∧
    ∃ (front : List Token) (text gap : List Char),
      Lexes (splitOrderBy sql).1
        (front ++ .comment ('-' :: '-' :: text) :: gap.map Token.symbol) ∧
        ∀ c ∈ gap, Text.isBlank c = true

theorem exists_lexes_kept {sql : String} (h : Closed sql.toList) :
    ∃ ts, Lexes (splitOrderBy sql).1 ts ∧ IsLevel ts ∧
      ∀ t, ts.getLast? = some t → t.IsClosed ∨ t.IsLine := by
  obtain ⟨ts, hsql, hclosed, hlevel⟩ := h
  rw [← toList_cutOrderBy]
  by_cases hexists : HasOuterOrder ts
  · obtain ⟨before, w, after, rfl, horder⟩ := hexists
    refine ⟨before, horder.lexes_cutOrderBy hsql, hlevel.of_append_left horder.outer,
      fun t ht => ?_⟩
    obtain ⟨front, rfl⟩ := List.getLast?_eq_some_iff.mp ht
    have hword : w ≠ [] := by
      cases hsql.of_append_right.fits with
      | word hne => exact hne
    rw [List.append_assoc] at hsql
    exact hsql.of_append_right.fits.isClosed_or_line (by simp [Token.text, hword])
  · rw [cutOrderBy_of_not_hasOuterOrder hsql hexists]
    exact ⟨ts, hsql, hlevel, fun t ht => .inl (hclosed t ht)⟩

end Sql

/-! ### Counting -/

namespace Statement

open Sql

theorem closed_countedBody {sql : String} (h : Closed sql.toList) (hline : ¬ LineBeforeCut sql) :
    Closed (countedBody sql).toList := by
  by_cases hmarked : ∀ c ∈ (splitOrderBy sql).2, c ≠ '?' ∧ c ≠ '$'
  · rw [countedBody_of_unmarked hmarked, String.toList_ofList]
    obtain ⟨ts, hkept, hlevel, hlast⟩ := exists_lexes_kept h
    refine hkept.trimEnd_closed hlast ?_ hlevel
    rintro front text gap rfl hgap
    exact hline ⟨hmarked, front, text, gap, hkept, hgap⟩
  · rw [countedBody_of_marked hmarked]
    exact h

def countTokens : List Token :=
  [.word "select".toList, .symbol ' ', .word "count".toList, .opening, .word ['1'], .closing,
    .symbol ' ', .word "from".toList, .symbol ' ']

theorem isLevel_countTokens : IsLevel countTokens := by
  have hone : IsLevel [Token.word ['1']] := isLevel_of_forall (by decide)
  have hfront : IsLevel [.word "select".toList, .symbol ' ', .word "count".toList] :=
    isLevel_of_forall (by decide)
  have hback : IsLevel [.symbol ' ', .word "from".toList, .symbol ' '] :=
    isLevel_of_forall (by decide)
  exact (hfront.append hone.parens).append hback

theorem toList_count (s : Statement) :
    s.count.sql.toList =
      flatten countTokens ++ '(' :: ((countedBody s.sql).toList ++ ')' :: " t".toList) := by
  have hfront : ("select count(1) from (" : String).toList = flatten countTokens ++ ['('] := by
    decide
  have hback : (") t" : String).toList = ')' :: " t".toList := by
    decide
  have hcount : s.count.sql = "select count(1) from (" ++ countedBody s.sql ++ ") t" := rfl
  rw [hcount]
  generalize countedBody s.sql = body
  rw [String.toList_append, String.toList_append, hfront, hback, List.append_assoc,
    List.append_assoc, List.singleton_append]

/-- The tokens of a counted statement are those of the words around it and its own. -/
theorem lexes_count {s : Statement} {ts : List Token}
    (h : Lexes ((countedBody s.sql).toList ++ ')' :: " t".toList) ts) :
    Lexes s.count.sql.toList (countTokens ++ .opening :: ts) := by
  have hfront : Lexes "select count(1) from (".toList (countTokens ++ [.opening]) :=
    lexes_iff.mpr (by decide +kernel)
  have hback : Lexes ('(' :: ((countedBody s.sql).toList ++ ')' :: " t".toList)) (.opening :: ts) :=
    h.opening
  rw [toList_count]
  refine hfront.replace hback ?_
  intro d hd
  rwa [flatten_cons, Token.text, List.singleton_append]

/-- A counted statement is not closed when a line comment is left before the cut. -/
theorem not_closed_count {s : Statement} (hline : LineBeforeCut s.sql) :
    ¬ Closed s.count.sql.toList := by
  obtain ⟨hmarked, front, text, gap, hkept, hgap⟩ := hline
  have hbody : Lexes (countedBody s.sql).toList
      (front ++ [.comment ('-' :: '-' :: Text.trimEnd text)]) := by
    rw [countedBody_of_unmarked hmarked, String.toList_ofList]
    exact hkept.trimEnd_line hgap
  have hfree : '\n' ∉ Text.trimEnd text ++ ')' :: " t".toList := by
    rw [List.mem_append, not_or]
    exact ⟨hbody.of_append_right.fits.newline_not_mem, by decide⟩
  have hwhole := hbody.replace (lexes_line hfree) fun d hd => hd
  have htext : flatten front ++ '-' :: '-' :: (Text.trimEnd text ++ ')' :: " t".toList) =
      (countedBody s.sql).toList ++ ')' :: " t".toList := by
    rw [← hbody.flatten_eq]
    simp [Token.text]
  rw [htext] at hwhole
  rintro ⟨ts, hts, hclosed, -⟩
  have hend := (lexes_iff.mp hts).trans (lexes_iff.mp (lexes_count hwhole)).symm
  have hcomment : (Token.comment
      ('-' :: '-' :: (Text.trimEnd text ++ ')' :: " t".toList))).IsClosed := by
    refine hclosed _ ?_
    rw [hend, ← List.cons_append, ← List.append_assoc, List.getLast?_concat]
  obtain ⟨body, heq⟩ := hcomment
  cases (List.cons.inj heq).1

/-- **A counted statement is closed exactly when no line comment is left before the cut**, if
the statement is closed.  Its last parenthesis is then the partner of the one in front of what
is counted. -/
theorem closed_count_iff {s : Statement} (h : Closed s.sql.toList) :
    (Closed s.count.sql.toList ↔ ¬ LineBeforeCut s.sql) ∧
      (¬ LineBeforeCut s.sql → ∃ inner, flatten inner = (countedBody s.sql).toList ∧
        IsLevel inner ∧ Lexes s.count.sql.toList
          (countTokens ++ .opening :: (inner ++ [.closing, .symbol ' ', .word ['t']]))) := by
  have hend : Lexes (')' :: " t".toList) [.closing, .symbol ' ', .word ['t']] :=
    lexes_iff.mpr (by decide +kernel)
  have hcount : ¬ LineBeforeCut s.sql → ∃ inner, flatten inner = (countedBody s.sql).toList ∧
      IsLevel inner ∧ Lexes s.count.sql.toList
        (countTokens ++ .opening :: (inner ++ [.closing, .symbol ' ', .word ['t']])) := by
    intro hline
    obtain ⟨inner, hbody, hclosed, hlevel⟩ := closed_countedBody h hline
    exact ⟨inner, hbody.flatten_eq, hlevel, lexes_count (hbody.append_closing hclosed hend)⟩
  refine ⟨⟨fun hclosed hline => not_closed_count hline hclosed, fun hline => ?_⟩, hcount⟩
  obtain ⟨inner, -, hlevel, htokens⟩ := hcount hline
  have hshape : countTokens ++ .opening :: (inner ++ [.closing, .symbol ' ', .word ['t']]) =
      countTokens ++ (.opening :: (inner ++ [.closing])) ++ [.symbol ' ', .word ['t']] := by
    simp
  rw [hshape] at htokens
  refine ⟨_, htokens, fun t ht => ?_, ?_⟩
  · rw [List.getLast?_append] at ht
    obtain rfl : Token.word ['t'] = t := Option.some.inj ht
    exact trivial
  · exact (isLevel_countTokens.append hlevel.parens).append (isLevel_of_forall (by decide))

/-- A parenthesis in a comment and an outer order. -/
theorem closed_count_iff_block :
    let s : Statement :=
      { sql := "select a from t /* ( */ order by a", mappings := [], bindings := [] }
    Closed s.sql.toList ∧ ¬ LineBeforeCut s.sql ∧ Closed s.count.sql.toList ∧
      s.count.sql = "select count(1) from (select a from t /* ( */) t" := by
  intro s
  have htokens : tokens s.sql.toList =
      [.word "select".toList, .symbol ' ', .word "a".toList, .symbol ' ', .word "from".toList,
        .symbol ' ', .word "t".toList, .symbol ' ', .comment "/* ( */".toList, .symbol ' ',
        .word "order".toList, .symbol ' ', .word "by".toList, .symbol ' ', .word "a".toList] := by
    decide +kernel
  have hkept : tokens (splitOrderBy s.sql).1 = (tokens s.sql.toList).take 10 := by
    decide +kernel
  have hclosed : Closed s.sql.toList := by
    refine ⟨tokens s.sql.toList, lexes_tokens _, ?_, ?_⟩
    · intro t ht
      rw [htokens] at ht
      obtain rfl := Option.some.inj ht
      exact trivial
    · rw [htokens]
      exact isLevel_of_forall (by decide)
  have hline : ¬ LineBeforeCut s.sql := by
    rintro ⟨-, front, text, gap, hlexes, -⟩
    have hmem : Token.comment ('-' :: '-' :: text) ∈ tokens (splitOrderBy s.sql).1 := by
      rw [← lexes_iff.mp hlexes]
      simp
    rw [hkept, htokens] at hmem
    simp at hmem
  exact ⟨hclosed, hline, (closed_count_iff hclosed).1.mpr hline, by decide +kernel⟩

/-- **The closing parenthesis can fall into a comment**: trimming takes the end of the line
away that closes the comment of a closed statement. -/
theorem exists_closed_not_closed_count :
    let s : Statement :=
      { sql := "select a from t -- all rows\n", mappings := [], bindings := [] }
    Closed s.sql.toList ∧ s.count.sql = "select count(1) from (select a from t -- all rows) t" ∧
      ¬ Closed s.count.sql.toList := by
  intro s
  have htokens : tokens s.sql.toList =
      [.word "select".toList, .symbol ' ', .word "a".toList, .symbol ' ', .word "from".toList,
        .symbol ' ', .word "t".toList, .symbol ' ', .comment "-- all rows".toList,
        .symbol '\n'] := by
    decide +kernel
  refine ⟨⟨tokens s.sql.toList, lexes_tokens _, ?_, ?_⟩, by decide +kernel, ?_⟩
  · intro t ht
    rw [htokens] at ht
    obtain rfl := Option.some.inj ht
    exact trivial
  · rw [htokens]
    exact isLevel_of_forall (by decide)
  · have hcut : (splitOrderBy s.sql).2 = [] := by
      decide +kernel
    refine not_closed_count ⟨fun c hc => ?_, (tokens s.sql.toList).take 8, " all rows".toList,
      ['\n'], lexes_iff.mpr (by decide +kernel), List.forall_mem_singleton.mpr rfl⟩
    rw [hcut] at hc
    cases hc

end Statement

end QueryTemplate
