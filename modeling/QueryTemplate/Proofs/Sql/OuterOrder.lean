import QueryTemplate.Proofs.Sql.Outline
import QueryTemplate.Proofs.Text

/-!
# Where a statement is cut

`Sql.OuterOrder before w after` says that the word `w` starts the outer order of a statement:
it is `ORDER` outside all parentheses, `BY` follows it, and no word of a clause stands outside
all parentheses behind it.

* `Sql.orderStart?_eq_some_iff`: the place where a statement is cut is the place of such a
  word.
* `Sql.OuterOrder.of_outline_eq`: which word it is can be seen from the outline.
* `Sql.cutOrderBy_iff`: a statement is cut in front of its outer order, and stays as it is
  without one.
-/

namespace QueryTemplate.Sql

open Text (InAnyCase)

def IsClauseWord (text : List Char) : Prop :=
  ∃ word ∈ ["ORDER", "HAVING", "GROUP", "AND", "OR", "WHERE", "FROM"], InAnyCase word.toList text

/-- The text starts with blanks, or none, and the word `BY` in any case. -/
def FollowedByBy (text : List Char) : Prop :=
  ∃ gap w tail, text = gap ++ (w ++ tail) ∧ (∀ c ∈ gap, Text.isBlank c = true) ∧
    InAnyCase "BY".toList w ∧ tail.head?.any isWordChar = false

/-- The word between the tokens starts the outer order. -/
structure OuterOrder (before : List Token) (w : List Char) (after : List Token) : Prop where
  order : InAnyCase "ORDER".toList w
  outer : depthAfter before = 0
  followed : FollowedByBy (flatten after)
  last : ∀ between v rest, after = between ++ .word v :: rest →
    depthAfter (before ++ .word w :: between) = 0 → ¬ IsClauseWord v

def HasOuterOrder (ts : List Token) : Prop :=
  ∃ before w after, ts = before ++ .word w :: after ∧ OuterOrder before w after

section

variable {t : Token} {ts before after us : List Token} {w v : List Char} {depth : Int}

/-! ### The last word of a clause -/

theorem isWord_iff {word : String} (hword : Text.asciiUppercase word.toList = word.toList) :
    isWord v word = true ↔ InAnyCase word.toList v := by
  rw [isWord, Text.eqIgnoreCase_comm]
  exact Text.eqIgnoreCase_iff_inAnyCase hword

theorem asciiUppercase_clauseWords :
    ∀ word ∈ clauseWords, Text.asciiUppercase word.toList = word.toList := by
  decide

theorem clauseWord?_eq_some_iff : t.clauseWord? = some w ↔ t = .word w ∧ IsClauseWord w := by
  have hany : ∀ text, clauseWords.any (isWord text) = true ↔ IsClauseWord text := by
    intro text
    rw [List.any_eq_true]
    constructor
    · rintro ⟨word, hmem, h⟩
      exact ⟨word, hmem, (isWord_iff (asciiUppercase_clauseWords word hmem)).mp h⟩
    · rintro ⟨word, hmem, h⟩
      exact ⟨word, hmem, (isWord_iff (asciiUppercase_clauseWords word hmem)).mpr h⟩
  cases t with
  | word text =>
    rw [Token.clauseWord?, Option.ite_none_right_eq_some, hany, Token.word.injEq]
    constructor
    · rintro ⟨h, heq⟩
      obtain rfl := Option.some.inj heq
      exact ⟨rfl, h⟩
    · rintro ⟨rfl, h⟩
      exact ⟨h, rfl⟩
  | quoted | comment | opening | closing | symbol =>
    constructor
    · intro h
      cases h
    · rintro ⟨h, -⟩
      cases h

def NoClauseWord (depth : Int) (ts : List Token) : Prop :=
  ∀ v, .word v ∈ outline depth ts → ¬ IsClauseWord v

theorem noClauseWord_cons :
    NoClauseWord depth (t :: ts) ↔
      (depth = 0 → t.clauseWord? = none) ∧ NoClauseWord (depth + t.depthChange) ts := by
  have hhead : t.clauseWord? = none ↔ ∀ v, .word v = t.shell → ¬ IsClauseWord v := by
    rw [Option.eq_none_iff_forall_ne_some]
    constructor
    · exact fun h v hv hclause =>
        h v (clauseWord?_eq_some_iff.mpr ⟨Token.shell_eq_word hv.symm, hclause⟩)
    · intro h v hv
      obtain ⟨rfl, hclause⟩ := clauseWord?_eq_some_iff.mp hv
      exact h v rfl hclause
  rw [NoClauseWord, outline, hhead]
  by_cases hd : depth = 0
  · simp only [if_pos hd, List.mem_cons, or_imp, forall_and]
    exact ⟨fun h => ⟨fun _ => h.1, h.2⟩, fun h => ⟨h.1 hd, h.2⟩⟩
  · rw [if_neg hd]
    exact ⟨fun h => ⟨fun h0 => absurd h0 hd, h⟩, fun h => h.2⟩

theorem lastClauseWord?_eq_none_iff : lastClauseWord? depth ts = none ↔ NoClauseWord depth ts := by
  induction ts generalizing depth with
  | nil => exact ⟨fun _ v hv => absurd hv List.not_mem_nil, fun _ => rfl⟩
  | cons t ts ih =>
    rw [noClauseWord_cons, ← ih, lastClauseWord?]
    cases lastClauseWord? (depth + t.depthChange) ts with
    | some p => simp
    | none => simp [ite_eq_right_iff]

/-- The last word of a clause outside all parentheses is one with none behind it. -/
theorem lastClauseWord?_eq_some_iff {n : Nat} :
    lastClauseWord? depth ts = some (n, w) ↔
      ∃ before after, ts = before ++ .word w :: after ∧ before.length = n ∧
        depth + depthAfter before = 0 ∧ IsClauseWord w ∧ NoClauseWord 0 after := by
  induction ts generalizing depth n with
  | nil =>
    constructor
    · intro h
      cases h
    · rintro ⟨before, after, h, -⟩
      simp at h
  | cons t ts ih =>
    rw [lastClauseWord?]
    constructor
    · intro h
      cases hl : lastClauseWord? (depth + t.depthChange) ts with
      | some p =>
        rw [hl] at h
        obtain ⟨rfl, rfl⟩ := Prod.mk.inj (Option.some.inj h)
        obtain ⟨before, after, rfl, hlength, hdepth, hclause, hfree⟩ := ih.mp hl
        exact ⟨t :: before, after, rfl, congrArg (· + 1) hlength,
          by rw [depthAfter_cons, ← Int.add_assoc, hdepth], hclause, hfree⟩
      | none =>
        rw [hl] at h
        simp only [Option.ite_none_right_eq_some] at h
        obtain ⟨hd, hmap⟩ := h
        obtain ⟨v, hv, heq⟩ := Option.map_eq_some_iff.mp hmap
        obtain ⟨rfl, rfl⟩ := Prod.mk.inj heq
        obtain ⟨rfl, hclause⟩ := clauseWord?_eq_some_iff.mp hv
        refine ⟨[], ts, rfl, rfl, by simpa using hd, hclause, ?_⟩
        rw [hd] at hl
        exact lastClauseWord?_eq_none_iff.mp hl
    · rintro ⟨before, after, heq, rfl, hdepth, hclause, hfree⟩
      cases before with
      | nil =>
        obtain ⟨rfl, rfl⟩ := List.cons.inj heq
        have hd : depth = 0 := by simpa using hdepth
        have hl : lastClauseWord? (depth + (Token.word w).depthChange) ts = none := by
          rw [hd]
          exact lastClauseWord?_eq_none_iff.mpr hfree
        have hw : (Token.word w).clauseWord? = some w := clauseWord?_eq_some_iff.mpr ⟨rfl, hclause⟩
        rw [hl]
        simp [hd, hw]
      | cons u before =>
        obtain ⟨rfl, hts⟩ := List.cons.inj heq
        rw [depthAfter_cons, ← Int.add_assoc] at hdepth
        rw [ih.mpr ⟨before, after, hts, rfl, hdepth, hclause, hfree⟩]
        rfl

/-! ### `BY` behind `ORDER` -/

theorem isWordChar_of_inAnyCase_by (h : InAnyCase "BY".toList w) :
    ∃ c d, w = [c, d] ∧ isWordChar c = true ∧ isWordChar d = true ∧ Text.isBlank c = false := by
  cases h with
  | cons hb h =>
    cases h with
    | cons hy h =>
      cases h
      refine ⟨_, _, rfl, ?_, ?_, ?_⟩
      · rcases hb with rfl | rfl <;> decide
      · rcases hy with rfl | rfl <;> decide
      · rcases hb with rfl | rfl <;> decide

theorem startsWithBy_iff {s : List Char} : startsWithBy s = true ↔ FollowedByBy s := by
  have hby : ∀ text, isWord text "BY" = true ↔ InAnyCase "BY".toList text :=
    fun text => isWord_iff (by decide)
  have hstart : startsWithBy s = true ↔ InAnyCase "BY".toList ((Text.trimStart s).take 2) ∧
      ((Text.trimStart s).drop 2).head?.any isWordChar = false := by
    rw [startsWithBy, Bool.and_eq_true, hby, Bool.not_eq_true']
  rw [hstart]
  constructor
  · rintro ⟨hword, htail⟩
    refine ⟨s.takeWhile Text.isBlank, _, _, ?_, fun c hc => List.mem_takeWhile_imp hc, hword, htail⟩
    rw [List.take_append_drop]
    exact List.takeWhile_append_dropWhile.symm
  · rintro ⟨gap, w, tail, rfl, hgap, hword, htail⟩
    obtain ⟨c, d, rfl, -, -, hblank⟩ := isWordChar_of_inAnyCase_by hword
    have htrim : Text.trimStart (gap ++ ([c, d] ++ tail)) = c :: d :: tail := by
      rw [Text.trimStart_append hgap]
      exact List.dropWhile_cons_of_neg (by simp [hblank])
    rw [htrim]
    exact ⟨hword, htail⟩

theorem Lexes.followedByBy_iff {s : List Char} (h : Lexes s ts) :
    FollowedByBy s ↔ ∃ (gap w : List Char) (rest : List Token),
      ts = gap.map Token.symbol ++ .word w :: rest ∧ (∀ c ∈ gap, Text.isBlank c = true) ∧
        InAnyCase "BY".toList w := by
  constructor
  · rintro ⟨gap, w, tail, rfl, hgap, hword, htail⟩
    refine ⟨gap, w, tokens tail, ?_, hgap, hword⟩
    obtain ⟨c, d, rfl, hc, hd, -⟩ := isWordChar_of_inAnyCase_by hword
    have hw : ∀ x ∈ [c, d], isWordChar x = true := by
      intro x hx
      simp only [List.mem_cons, List.not_mem_nil, or_false] at hx
      rcases hx with rfl | rfl
      · exact hc
      · exact hd
    have hbody : Lexes ([c, d] ++ tail) (.word [c, d] :: tokens tail) :=
      .cons (.word (List.cons_ne_nil _ _) hw htail) (lexes_tokens tail)
    rw [lexes_iff.mp h, lexes_iff.mp (lexes_blanks hgap hbody)]
  · rintro ⟨gap, w, rest, rfl, hgap, hword⟩
    refine ⟨gap, w, flatten rest, ?_, hgap, hword, ?_⟩
    · rw [← h.flatten_eq, flatten_append, flatten_cons, flatten_blanks]
      rfl
    · cases h.of_append_right.fits with
      | word hne hw hhead => exact hhead

theorem Lexes.followedByBy_of_outline_eq {s s' : List Char} (h : Lexes s ts) (h' : Lexes s' us)
    (heq : outline 0 us = outline 0 ts) (hby : FollowedByBy s) : FollowedByBy s' := by
  obtain ⟨gap, w, rest, rfl, hgap, hword⟩ := h.followedByBy_iff.mp hby
  rw [outline_word _ w rest (by rw [depthAfter_blanks, Int.zero_add]),
    outline_eq_blanks_iff.mpr rfl] at heq
  obtain ⟨before, after, rfl, -, hbefore, -⟩ := exists_of_outline_eq heq
  obtain rfl := outline_eq_blanks_iff.mp hbefore
  exact h'.followedByBy_iff.mpr ⟨gap, w, after, rfl, hgap, hword⟩

/-! ### Where the outer order starts -/

theorem outerOrder_iff :
    OuterOrder before w after ↔ InAnyCase "ORDER".toList w ∧ depthAfter before = 0 ∧
      FollowedByBy (flatten after) ∧ NoClauseWord 0 after := by
  constructor
  · rintro ⟨horder, houter, hfollowed, hlast⟩
    refine ⟨horder, houter, hfollowed, fun v hv => ?_⟩
    obtain ⟨between, rest, hafter, hdepth⟩ := word_mem_outline_iff.mp hv
    refine hlast between v rest hafter ?_
    rw [depthAfter_append, houter, depthAfter_word]
    exact hdepth
  · rintro ⟨horder, houter, hfollowed, hfree⟩
    refine ⟨horder, houter, hfollowed, fun between v rest hafter hdepth => ?_⟩
    rw [depthAfter_append, houter, depthAfter_word] at hdepth
    exact hfree v (word_mem_outline_iff.mpr ⟨between, rest, hafter, hdepth⟩)

theorem drop_word (before : List Token) (w : List Char) (after : List Token) :
    (before ++ .word w :: after).drop (before.length + 1) = after := by
  rw [← List.drop_drop, List.drop_left, List.drop_one, List.tail_cons]

/-- **The place where a statement is cut is the place of its outer order.** -/
theorem orderStart?_eq_some_iff {n : Nat} :
    orderStart? ts = some n ↔
      ∃ before w after, ts = before ++ .word w :: after ∧ before.length = n ∧
        OuterOrder before w after := by
  have horder : ∀ w, isWord w "ORDER" = true ↔ InAnyCase "ORDER".toList w :=
    fun w => isWord_iff (by decide)
  constructor
  · intro h
    rw [orderStart?] at h
    cases hl : lastClauseWord? 0 ts with
    | none =>
      rw [hl] at h
      cases h
    | some p =>
      obtain ⟨m, w⟩ := p
      rw [hl] at h
      simp only [Option.ite_none_right_eq_some, Bool.and_eq_true, horder, startsWithBy_iff] at h
      obtain ⟨⟨hw, hby⟩, heq⟩ := h
      obtain rfl := Option.some.inj heq
      obtain ⟨before, after, rfl, rfl, hdepth, -, hfree⟩ := lastClauseWord?_eq_some_iff.mp hl
      rw [drop_word] at hby
      exact ⟨before, w, after, rfl, rfl, outerOrder_iff.mpr ⟨hw, by simpa using hdepth, hby, hfree⟩⟩
  · rintro ⟨before, w, after, rfl, rfl, h⟩
    obtain ⟨hw, hdepth, hby, hfree⟩ := outerOrder_iff.mp h
    have hl : lastClauseWord? 0 (before ++ .word w :: after) = some (before.length, w) := by
      refine lastClauseWord?_eq_some_iff.mpr ⟨before, after, rfl, rfl, by simpa using hdepth, ?_,
        hfree⟩
      exact ⟨"ORDER", List.mem_cons_self, hw⟩
    rw [orderStart?, hl]
    simp only [drop_word, (horder w).mpr hw, startsWithBy_iff.mpr hby, Bool.and_self, if_true]

/-- **Which word starts the outer order can be seen from the outline.** -/
theorem OuterOrder.of_outline_eq {s s' : List Char} (h : OuterOrder before w after)
    (hs : Lexes s (before ++ .word w :: after)) (hs' : Lexes s' us)
    (heq : outline 0 us = outline 0 (before ++ .word w :: after)) :
    ∃ before' after', us = before' ++ .word w :: after' ∧ OuterOrder before' w after' ∧
      outline 0 before' = outline 0 before := by
  obtain ⟨hw, hdepth, hby, hfree⟩ := outerOrder_iff.mp h
  rw [outline_word before w after (by simpa using hdepth)] at heq
  obtain ⟨before', after', rfl, hdepth', hbefore, hafter⟩ := exists_of_outline_eq heq
  refine ⟨before', after', rfl, outerOrder_iff.mpr ⟨hw, by simpa using hdepth', ?_, ?_⟩, hbefore⟩
  · exact hs.of_append_right.tail.followedByBy_of_outline_eq hs'.of_append_right.tail hafter hby
  · rw [NoClauseWord, hafter]
    exact hfree

theorem OuterOrder.splitOrderBy_eq {sql : String} (h : OuterOrder before w after)
    (hsql : Lexes sql.toList (before ++ .word w :: after)) :
    splitOrderBy sql = (flatten before, flatten (.word w :: after)) := by
  have hstart : orderStart? (tokens sql.toList) = some before.length := by
    rw [← lexes_iff.mp hsql]
    exact orderStart?_eq_some_iff.mpr ⟨before, w, after, rfl, rfl, h⟩
  rw [splitOrderBy, hstart, ← lexes_iff.mp hsql]
  simp only [List.take_left, List.drop_left]

theorem splitOrderBy_of_not_hasOuterOrder {sql : String} (hsql : Lexes sql.toList ts)
    (h : ¬ HasOuterOrder ts) : splitOrderBy sql = (sql.toList, []) := by
  cases hstart : orderStart? ts with
  | some n =>
    obtain ⟨before, w, after, hts, -, horder⟩ := orderStart?_eq_some_iff.mp hstart
    exact absurd ⟨before, w, after, hts, horder⟩ h
  | none =>
    rw [lexes_iff.mp hsql] at hstart
    rw [splitOrderBy, hstart]

/-- **What is cut off a statement starts with the letter `O`**, in either case. -/
theorem toUpper_of_splitOrderBy {sql : String} {x : Char} {rest : List Char}
    (h : (splitOrderBy sql).2 = x :: rest) : x.toUpper = 'O' := by
  have hsql := lexes_tokens sql.toList
  by_cases hexists : HasOuterOrder (tokens sql.toList)
  · obtain ⟨before, w, after, hts, horder⟩ := hexists
    rw [horder.splitOrderBy_eq (hts ▸ hsql)] at h
    cases horder.order with
    | cons hfirst _ =>
      obtain ⟨rfl, -⟩ := List.cons.inj h
      exact (Text.toUpper_eq_iff rfl).mpr hfirst
  · rw [splitOrderBy_of_not_hasOuterOrder hsql hexists] at h
    cases h

theorem toList_cutOrderBy (sql : String) : (cutOrderBy sql).toList = (splitOrderBy sql).1 :=
  String.toList_ofList

theorem OuterOrder.lexes_cutOrderBy {sql : String} (h : OuterOrder before w after)
    (hsql : Lexes sql.toList (before ++ .word w :: after)) :
    Lexes (cutOrderBy sql).toList before := by
  rw [toList_cutOrderBy, h.splitOrderBy_eq hsql]
  exact hsql.of_append_left

theorem cutOrderBy_of_not_hasOuterOrder {sql : String} (hsql : Lexes sql.toList ts)
    (h : ¬ HasOuterOrder ts) : cutOrderBy sql = sql := by
  rw [← String.toList_inj, toList_cutOrderBy, splitOrderBy_of_not_hasOuterOrder hsql h]

theorem outerOrder_of_toList_cutOrderBy {sql : String}
    (hsql : Lexes sql.toList (before ++ .word w :: after))
    (h : (cutOrderBy sql).toList = flatten before) : OuterOrder before w after := by
  by_cases hexists : HasOuterOrder (before ++ .word w :: after)
  · obtain ⟨before', w', after', heq, horder⟩ := hexists
    have hkept : Lexes (cutOrderBy sql).toList before := h ▸ hsql.of_append_left
    have hkept' : Lexes (cutOrderBy sql).toList before' := horder.lexes_cutOrderBy (heq ▸ hsql)
    obtain rfl : before = before' := (lexes_iff.mp hkept).trans (lexes_iff.mp hkept').symm
    obtain ⟨hword, rfl⟩ := List.cons.inj (List.append_cancel_left heq)
    obtain rfl := Token.word.inj hword
    exact horder
  · -- the whole statement is longer than what stands in front of the word
    have hnil : flatten (.word w :: after) = [] := by
      rw [cutOrderBy_of_not_hasOuterOrder hsql hexists, ← hsql.flatten_eq, flatten_append] at h
      exact List.append_right_eq_self.mp h
    cases hsql.of_append_right.fits with
    | word hne => exact absurd (List.append_eq_nil_iff.mp hnil).1 hne

/-- Statements with one outline are cut at one place of it. -/
theorem SameOutline.cutOrderBy {sql other : String} (h : SameOutline sql other) :
    SameOutline (cutOrderBy sql) (cutOrderBy other) := by
  obtain ⟨ts, us, hts, hus, heq⟩ := h
  by_cases hexists : HasOuterOrder ts
  · obtain ⟨before, w, after, rfl, horder⟩ := hexists
    obtain ⟨before', after', rfl, horder', hbefore⟩ := horder.of_outline_eq hts hus heq.symm
    exact ⟨before, before', horder.lexes_cutOrderBy hts, horder'.lexes_cutOrderBy hus, hbefore.symm⟩
  · have hother : ¬ HasOuterOrder us := by
      rintro ⟨before, w, after, rfl, horder⟩
      obtain ⟨before', after', hts', horder', -⟩ := horder.of_outline_eq hus hts heq
      exact hexists ⟨before', w, after', hts', horder'⟩
    rw [cutOrderBy_of_not_hasOuterOrder hts hexists, cutOrderBy_of_not_hasOuterOrder hus hother]
    exact ⟨ts, us, hts, hus, heq⟩

end

/-- **A statement is cut in front of its outer order, and stays as it is without one.**  What
stands in literals, comments and parentheses has no influence on where that is. -/
theorem cutOrderBy_iff (sql : String) :
    ∃ ts, (∀ us, Lexes sql.toList us ↔ us = ts) ∧
      (∀ before w after, ts = before ++ .word w :: after →
        ((cutOrderBy sql).toList = flatten before ↔ OuterOrder before w after)) ∧
      (¬ HasOuterOrder ts → cutOrderBy sql = sql) ∧
      ∀ other, SameOutline sql other → SameOutline (cutOrderBy sql) (cutOrderBy other) := by
  have hsql : Lexes sql.toList (tokens sql.toList) := lexes_tokens _
  refine ⟨tokens sql.toList, fun us => lexes_iff, fun before w after hts => ?_,
    cutOrderBy_of_not_hasOuterOrder hsql, fun other hother => hother.cutOrderBy⟩
  rw [hts] at hsql
  exact ⟨outerOrder_of_toList_cutOrderBy hsql, fun h => (h.lexes_cutOrderBy hsql).flatten_eq.symm⟩

/-- Words of a clause in a literal, in parentheses and in a comment do not count. -/
theorem cutOrderBy_iff_lookalikes :
    let sql := "select ') from' from (t order by a) -- order by b\nOrder\tby c"
    let before := tokens "select ') from' from (t order by a) -- order by b\n".toList
    (cutOrderBy sql).toList = flatten before ∧
      OuterOrder before "Order".toList (tokens "\tby c".toList) := by
  intro sql before
  obtain ⟨ts, hunique, hcut, -⟩ := cutOrderBy_iff sql
  have hts : ts = before ++ .word "Order".toList :: tokens "\tby c".toList :=
    ((hunique _).mp (lexes_tokens _)).symm.trans (by decide +kernel)
  have htext : (cutOrderBy sql).toList = flatten before := by
    decide +kernel
  exact ⟨htext, (hcut _ _ _ hts).mp htext⟩

end QueryTemplate.Sql
