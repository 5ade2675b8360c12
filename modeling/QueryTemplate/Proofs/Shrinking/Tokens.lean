import QueryTemplate.Proofs.Shrinking.Text
import QueryTemplate.Proofs.Sql.Closed

/-!
# The tokens of a text with single spaces

A statement means what its lexemes say: its tokens without the comments and the blanks
(`Sql.lexemes`).

* `Sql.Lexes.exists_shrunk`, `Sql.lexemes_collapsed`: a text with single spaces has the lexemes
  in front of the first line comment, and its literals have single spaces too.
* `Sql.lexemes_collapsed_eq_iff`: when these are all the lexemes that the text had.
-/

namespace QueryTemplate.Sql

def Token.isLexeme : Token → Bool
  | .comment _ => false
  | .symbol c => !Text.isBlank c
  | _ => true

def Token.isLine : Token → Bool
  | .comment ('-' :: '-' :: _) => true
  | _ => false

def Token.shrunk : Token → Token
  | .quoted text => .quoted (Text.shrunk text)
  | .comment text => .comment (Text.shrunk text)
  | t => t

/-- The tokens of a text without comments and blanks. -/
def lexemes (s : List Char) : List Token :=
  (tokens s).filter Token.isLexeme

def beforeLine (ts : List Token) : List Token :=
  ts.takeWhile (!·.isLine)

def fromLine (ts : List Token) : List Token :=
  ts.dropWhile (!·.isLine)

section

variable {t : Token} {ts : List Token} {s rest body : List Char} {q : Char}

theorem Token.isLine_iff : t.isLine = true ↔ t.IsLine := by
  constructor
  · intro h
    unfold Token.isLine at h
    split at h
    · exact ⟨_, rfl⟩
    · cases h
  · rintro ⟨text, rfl⟩
    rfl

@[simp] theorem Token.isLexeme_shrunk (t : Token) : t.shrunk.isLexeme = t.isLexeme := by
  cases t <;> rfl

/-! ### Texts of tokens -/

theorem Inside.append (h : Inside q s) (h' : Inside q rest) : Inside q (s ++ rest) := by
  induction h with
  | nil => exact h'
  | other hc _ ih => exact .other hc ih
  | doubled _ ih => exact .doubled ih

theorem Inside.shrunk (hq : isQuote q = true) (h : Inside q s) : Inside q (Text.shrunk s) := by
  have hblank : Text.isBlank q = false := isBlank_of_isQuote hq
  induction h with
  | nil => exact .nil
  | @other c s hc h ih =>
    by_cases hcblank : Text.isBlank c = true
    · rcases Text.shrunk_blank hcblank s with ⟨hs, -⟩ | ⟨hs, -⟩
      · rwa [hs]
      · rw [hs]
        refine .other ?_ ih
        rintro rfl
        cases hblank
    · rw [Text.shrunk_cons (by simpa using hcblank)]
      exact .other hc ih
  | doubled h ih =>
    rw [Text.shrunk_cons hblank, Text.shrunk_cons hblank]
    exact .doubled ih

theorem inside_gap (hq : isQuote q = true) {gap : List Char} (hgap : gap = [] ∨ gap = [' ']) :
    Inside q gap := by
  rcases hgap with rfl | rfl
  · exact .nil
  · refine .other ?_ .nil
    rintro rfl
    cases hq

/-- Shrinking neither ends a block comment nor makes a second end in it. -/
theorem not_infix_shrunk_append (hbody : ¬ ['*', '/'] <:+: body) {gap : List Char}
    (hgap : gap = [] ∨ gap = [' ']) : ¬ ['*', '/'] <:+: Text.shrunk body ++ gap := by
  have hshrunk : ¬ ['*', '/'] <:+: Text.shrunk body :=
    fun h => hbody (Text.infix_of_infix_shrunk rfl rfl h)
  rcases hgap with rfl | rfl
  · rwa [List.append_nil]
  · intro h
    rcases List.infix_concat_iff.mp h with hend | hmore
    · obtain ⟨front, heq⟩ := hend
      have hlast := congrArg List.getLast? heq
      simp at hlast
    · exact hshrunk hmore

/-! ### One token -/

/-- A token ends in no blank, if it is none itself and something stands behind it. -/
theorem Fits.shrunk_append (h : Fits t rest) (hline : t.isLine = false)
    (hblank : ∀ c, t = .symbol c → Text.isBlank c = false) :
    Text.shrunk (t.text ++ rest) = Text.shrunk t.text ++ Text.shrunk rest := by
  by_cases hrest : rest = []
  · rw [hrest, List.append_nil]
    exact (List.append_nil _).symm
  · rcases h.isClosed_or_line hrest with hclosed | hisLine
    · have htrim : Text.trimEnd t.text = t.text := h.trimEnd_append hclosed hblank []
      refine Text.shrunk_append ?_ rest
      rw [← htrim]
      exact Text.getLast?_trimEnd t.text
    · rw [Token.isLine_iff.mpr hisLine] at hline
      cases hline

theorem Fits.text_shrunk (h : Fits t rest)
    (hblank : ∀ c, t = .symbol c → Text.isBlank c = false) :
    t.shrunk.text = Text.shrunk t.text := by
  cases h with
  | quoted | openQuoted | block | openBlock | line | opening | closing => rfl
  | word hne hw =>
    exact (Text.shrunk_of_forall fun c hc => isBlank_of_isWordChar (hw c hc)).symm
  | @symbol c => exact (Text.shrunk_cons (hblank c rfl) []).symm

/-- **A token stays the token that it is**, if the text around it gets single spaces: neither
does a literal or a block comment end elsewhere, nor does a mark arise. -/
theorem Fits.shrunk (h : Fits t rest) (hline : t.isLine = false) :
    Fits t.shrunk (Text.shrunk rest) := by
  cases h with
  | @quoted q body rest hq hbody hrest =>
    have hqblank : Text.isBlank q = false := isBlank_of_isQuote hq
    obtain ⟨gap, hgap, hshrunk⟩ := Text.exists_shrunk_append_cons hqblank body
    show Fits (.quoted (Text.shrunk (q :: (body ++ [q])))) _
    rw [Text.shrunk_cons hqblank, hshrunk []]
    exact .quoted hq ((hbody.shrunk hq).append (inside_gap hq hgap))
      fun hhead => hrest (Text.head?_of_head?_shrunk hhead hqblank)
  | @openQuoted q body hq hbody =>
    show Fits (.quoted (Text.shrunk (q :: body))) []
    rw [Text.shrunk_cons (isBlank_of_isQuote hq)]
    exact .openQuoted hq (hbody.shrunk hq)
  | @block body rest hbody =>
    obtain ⟨gap, hgap, hshrunk⟩ := Text.exists_shrunk_append_cons (c := '*') rfl body
    show Fits (.comment (Text.shrunk ('/' :: '*' :: (body ++ ['*', '/'])))) _
    rw [Text.shrunk_cons rfl, Text.shrunk_cons rfl, hshrunk ['/']]
    exact .block (not_infix_shrunk_append hbody hgap)
  | @openBlock body hbody =>
    show Fits (.comment (Text.shrunk ('/' :: '*' :: body))) []
    rw [Text.shrunk_cons rfl, Text.shrunk_cons rfl]
    refine .openBlock ?_
    rw [← List.append_nil (Text.shrunk body)]
    exact not_infix_shrunk_append hbody (.inl rfl)
  | line => cases hline
  | opening => exact .opening
  | closing => exact .closing
  | @word w rest hne hw hrest =>
    refine .word hne hw ?_
    cases hhead : (Text.shrunk rest).head? with
    | none => rfl
    | some d =>
      show isWordChar d = false
      rw [Bool.eq_false_iff]
      intro hd
      rw [Text.head?_of_head?_shrunk hhead (isBlank_of_isWordChar hd), Option.any_some,
        hd] at hrest
      cases hrest
  | @symbol c rest hc hblock hline' =>
    have hmark : ∀ {a b : Char}, Text.isBlank b = false → ¬ [a, b] <+: c :: rest →
        ¬ [a, b] <+: c :: Text.shrunk rest := by
      intro a b hb hno hmark
      obtain ⟨rfl, tail, htail⟩ := List.cons_prefix_cons.mp hmark
      have hhead : (Text.shrunk rest).head? = some b := by
        rw [← htail]
        rfl
      obtain ⟨more, rfl⟩ := List.head?_eq_some_iff.mp (Text.head?_of_head?_shrunk hhead hb)
      exact hno ⟨more, rfl⟩
    exact .symbol hc (hmark rfl hblock) (hmark rfl hline')

/-! ### All tokens -/

/-- A text with single spaces is one line: its first line comment runs to its end. -/
theorem lexes_shrunk_line (text : List Char) :
    Lexes (Text.shrunk ('-' :: '-' :: text)) [.comment ('-' :: '-' :: Text.shrunk text)] := by
  rw [Text.shrunk_cons rfl, Text.shrunk_cons rfl]
  refine lexes_line fun hmem => ?_
  cases Text.eq_space_of_mem_shrunk hmem rfl

/-- **The lexemes of a text with single spaces** are those in front of the first line comment,
with single spaces in the literals. -/
theorem Lexes.exists_shrunk (h : Lexes s ts) :
    ∃ us, Lexes (Text.shrunk s) us ∧ us.filter Token.isLexeme =
      ((beforeLine ts).filter Token.isLexeme).map Token.shrunk := by
  induction h with
  | nil => exact ⟨[], .nil, rfl⟩
  | @cons t rest ts ht h ih =>
    obtain ⟨us, hus, hlexemes⟩ := ih
    by_cases hline : t.isLine = true
    · obtain ⟨text, rfl⟩ := Token.isLine_iff.mp hline
      exact ⟨_, lexes_shrunk_line (text ++ rest), rfl⟩
    have hline' : t.isLine = false := by simpa using hline
    have hbefore : beforeLine (t :: ts) = t :: beforeLine ts :=
      List.takeWhile_cons_of_pos (by simp [hline'])
    by_cases hblank : ∃ c, t = .symbol c ∧ Text.isBlank c = true
    · -- a blank is no lexeme, whether a space is left of it or not
      obtain ⟨c, rfl, hc⟩ := hblank
      have hdropped : (beforeLine (.symbol c :: ts)).filter Token.isLexeme =
          (beforeLine ts).filter Token.isLexeme := by
        rw [hbefore, List.filter_cons_of_neg (by simp [Token.isLexeme, hc])]
      rw [hdropped, ← hlexemes]
      show ∃ us, Lexes (Text.shrunk (c :: rest)) us ∧ _
      rcases Text.shrunk_blank hc rest with ⟨hs, -⟩ | ⟨hs, -⟩
      · rw [hs]
        exact ⟨us, hus, rfl⟩
      · rw [hs]
        exact ⟨.symbol ' ' :: us, .cons (fits_of_isBlank rfl _) hus, rfl⟩
    · have hblank' : ∀ c, t = .symbol c → Text.isBlank c = false := by
        intro c hc
        rw [Bool.eq_false_iff]
        exact fun hcblank => hblank ⟨c, hc, hcblank⟩
      refine ⟨t.shrunk :: us, ?_, ?_⟩
      · rw [ht.shrunk_append hline' hblank', ← ht.text_shrunk hblank']
        exact .cons (ht.shrunk hline') hus
      · rw [hbefore, List.filter_cons, List.filter_cons, Token.isLexeme_shrunk, hlexemes]
        cases t.isLexeme <;> rfl

theorem lexemes_trimStart (s : List Char) : lexemes (Text.trimStart s) = lexemes s := by
  have hgap : ∀ c ∈ s.takeWhile Text.isBlank, Text.isBlank c = true :=
    fun c hc => List.mem_takeWhile_imp hc
  have hall := lexes_blanks hgap (lexes_tokens (Text.trimStart s))
  rw [Text.trimStart, List.takeWhile_append_dropWhile] at hall
  have hnone : ((s.takeWhile Text.isBlank).map Token.symbol).filter Token.isLexeme = [] := by
    rw [List.filter_eq_nil_iff]
    intro t ht
    obtain ⟨c, hc, rfl⟩ := List.mem_map.mp ht
    simp [Token.isLexeme, hgap c hc]
  rw [lexemes, lexemes, hall.tokens_eq, List.filter_append, hnone]
  rfl

theorem lexemes_collapsed (s : String) :
    lexemes (Text.collapsed s).toList =
      ((beforeLine (tokens s.toList)).filter Token.isLexeme).map Token.shrunk := by
  obtain ⟨us, hus, hlexemes⟩ := (lexes_tokens s.toList).exists_shrunk
  rw [Text.toList_collapsed, lexemes_trimStart, lexemes, hus.tokens_eq, hlexemes]

/-! ### When all lexemes stay -/

theorem map_shrunk_eq_self_iff :
    (ts.filter Token.isLexeme).map Token.shrunk = ts.filter Token.isLexeme ↔
      ∀ text, .quoted text ∈ ts → Text.IsShrunk text := by
  have hself : (ts.filter Token.isLexeme).map Token.shrunk = ts.filter Token.isLexeme ↔
      ∀ t ∈ ts.filter Token.isLexeme, t.shrunk = t := by
    conv_lhs => rhs; rw [← List.map_id (ts.filter Token.isLexeme)]
    exact List.map_inj_left
  rw [hself]
  constructor
  · intro h text htext
    have heq := h _ (List.mem_filter.mpr ⟨htext, rfl⟩)
    exact Text.shrunk_eq_self_iff.mp (Token.quoted.inj heq)
  · intro h t ht
    obtain ⟨hmem, hlexeme⟩ := List.mem_filter.mp ht
    cases t with
    | quoted text => exact congrArg Token.quoted (Text.shrunk_eq_self_iff.mpr (h text hmem))
    | comment => cases hlexeme
    | opening | closing | word | symbol => rfl

theorem beforeLine_append_fromLine (ts : List Token) : beforeLine ts ++ fromLine ts = ts :=
  List.takeWhile_append_dropWhile

/-- **All lexemes stay exactly when** the literals have single spaces and no lexeme stands
behind a line comment. -/
theorem lexemes_collapsed_eq_iff (s : String) :
    lexemes (Text.collapsed s).toList = lexemes s.toList ↔
      (∀ text, .quoted text ∈ tokens s.toList → Text.IsShrunk text) ∧
        ∀ t ∈ fromLine (tokens s.toList), t.isLexeme = false := by
  generalize hts : tokens s.toList = ts
  have hnone : (∀ t ∈ fromLine ts, t.isLexeme = false) ↔
      (fromLine ts).filter Token.isLexeme = [] := by
    simp [List.filter_eq_nil_iff]
  have hall : lexemes s.toList =
      (beforeLine ts).filter Token.isLexeme ++ (fromLine ts).filter Token.isLexeme := by
    rw [lexemes, hts, ← List.filter_append, beforeLine_append_fromLine]
  rw [lexemes_collapsed, hts, hall, hnone]
  constructor
  · intro heq
    have hlength := congrArg List.length heq
    rw [List.length_map, List.length_append] at hlength
    have hfrom : (fromLine ts).filter Token.isLexeme = [] :=
      List.length_eq_zero_iff.mp (by omega)
    rw [hfrom, List.append_nil] at heq
    refine ⟨fun text htext => ?_, hfrom⟩
    rw [← beforeLine_append_fromLine ts, List.mem_append] at htext
    rcases htext with hbefore | hbehind
    · exact map_shrunk_eq_self_iff.mp heq text hbefore
    · cases hnone.mpr hfrom _ hbehind
  · rintro ⟨hquoted, hfrom⟩
    rw [hfrom, List.append_nil]
    refine map_shrunk_eq_self_iff.mpr fun text htext => hquoted text ?_
    rw [← beforeLine_append_fromLine ts]
    exact List.mem_append_left _ htext

end

end QueryTemplate.Sql
