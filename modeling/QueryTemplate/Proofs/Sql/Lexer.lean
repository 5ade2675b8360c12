import QueryTemplate.Proofs.Grammar.Token
import QueryTemplate.Proofs.Text
import QueryTemplate.Sql.Token

/-!
# Which tokens a text has

`Sql.Lexes s ts` describes the tokens of a text without scanning it: what may stand in a
literal or a comment, where it ends, and that a word is as long as it can be.

* `Sql.lexes_iff`: every text has its tokens in this sense and no others, and they are the ones
  that the scanner finds.
* `Sql.Lexes.of_append_left`, `Sql.Lexes.of_append_right`: the tokens of a part of a text that
  is made up of some of its tokens.
-/

namespace QueryTemplate.Sql

/-! ### Tokens without a scanner -/

inductive Inside (quote : Char) : List Char → Prop
  | nil : Inside quote []
  | other {c s} (hc : c ≠ quote) (h : Inside quote s) : Inside quote (c :: s)
  | doubled {s} (h : Inside quote s) : Inside quote (quote :: quote :: s)

def isSymbol (c : Char) : Bool :=
  !isQuote c && c != '(' && c != ')' && !isWordChar c

/-- The token stands in front of the rest of a text.  A literal or comment that is not closed
runs to the end, a line comment to the end of its line, and a word is as long as it can be. -/
inductive Fits : Token → List Char → Prop
  | quoted {q body rest} (hq : isQuote q = true) (hbody : Inside q body)
      (hrest : rest.head? ≠ some q) : Fits (.quoted (q :: (body ++ [q]))) rest
  | openQuoted {q body} (hq : isQuote q = true) (hbody : Inside q body) :
      Fits (.quoted (q :: body)) []
  | block {body rest} (hbody : ¬ ['*', '/'] <:+: body) :
      Fits (.comment ('/' :: '*' :: (body ++ ['*', '/']))) rest
  | openBlock {body} (hbody : ¬ ['*', '/'] <:+: body) : Fits (.comment ('/' :: '*' :: body)) []
  | line {body rest} (hbody : '\n' ∉ body) (hrest : rest.head?.any (· != '\n') = false) :
      Fits (.comment ('-' :: '-' :: body)) rest
  | opening {rest} : Fits .opening rest
  | closing {rest} : Fits .closing rest
  | word {w rest} (hne : w ≠ []) (hw : ∀ c ∈ w, isWordChar c = true)
      (hrest : rest.head?.any isWordChar = false) : Fits (.word w) rest
  | symbol {c rest} (hc : isSymbol c = true) (hblock : ¬ ['/', '*'] <+: c :: rest)
      (hline : ¬ ['-', '-'] <+: c :: rest) : Fits (.symbol c) rest

inductive Lexes : List Char → List Token → Prop
  | nil : Lexes [] []
  | cons {t rest ts} (ht : Fits t rest) (h : Lexes rest ts) : Lexes (t.text ++ rest) (t :: ts)

/-! ### Literals and comments -/

section

variable {q : Char} {body rest s : List Char}

theorem cutQuoted_append (hbody : Inside q body) (hrest : rest.head? ≠ some q) :
    cutQuoted q (body ++ q :: rest) = (body ++ [q], rest) := by
  induction hbody with
  | nil =>
    cases rest with
    | nil => rfl
    | cons d rest =>
      have hd : (d == q) = false := by
        simpa using hrest
      simp [cutQuoted, hd]
  | @other c s hc h ih =>
    have hcq : (c == q) = false := beq_false_of_ne hc
    cases s with
    | nil =>
      rw [List.nil_append] at ih
      simp [cutQuoted, hcq, ih]
    | cons d s =>
      rw [List.cons_append] at ih
      simp [cutQuoted, hcq, ih]
  | doubled h ih => simp [cutQuoted, ih]

theorem cutQuoted_of_inside (hbody : Inside q body) : cutQuoted q body = (body, []) := by
  induction hbody with
  | nil => rfl
  | @other c s hc h ih =>
    have hcq : (c == q) = false := beq_false_of_ne hc
    cases s with
    | nil => rfl
    | cons d s => simp [cutQuoted, hcq, ih]
  | doubled h ih => simp [cutQuoted, ih]

theorem exists_inside (q : Char) (s : List Char) :
    Inside q s ∨ ∃ body rest, Inside q body ∧ rest.head? ≠ some q ∧ s = body ++ q :: rest := by
  fun_induction cutQuoted q s with
  | case1 => exact .inl .nil
  | case2 c =>
    by_cases hc : c = q
    · exact .inr ⟨[], [], .nil, by simp, by rw [hc]; rfl⟩
    · exact .inl (.other hc .nil)
  | case3 c d rest hc hd inside after heq ih =>
    obtain rfl := beq_iff_eq.mp hc
    obtain rfl := beq_iff_eq.mp hd
    rcases ih with ih | ⟨body, rest', hbody, hrest, rfl⟩
    · exact .inl (.doubled ih)
    · exact .inr ⟨_, rest', .doubled hbody, hrest, rfl⟩
  | case4 c d rest hc hd =>
    obtain rfl := beq_iff_eq.mp hc
    exact .inr ⟨[], d :: rest, .nil, by simpa using hd, rfl⟩
  | case5 c d rest hc inside after heq ih =>
    have hne : c ≠ q := fun h => hc (beq_iff_eq.mpr h)
    rcases ih with ih | ⟨body, rest', hbody, hrest, hs⟩
    · exact .inl (.other hne ih)
    · exact .inr ⟨c :: body, rest', .other hne hbody, hrest, by rw [hs]; rfl⟩

theorem cutBlock_append (hbody : ¬ ['*', '/'] <:+: body) (rest : List Char) :
    cutBlock (body ++ '*' :: '/' :: rest) = (body ++ ['*', '/'], rest) := by
  have hcut : Text.cut ['*', '/'] (body ++ '*' :: '/' :: rest) = some (body, rest) := by
    induction body with
    | nil => simp [Text.cut]
    | cons c body ih =>
      have hstart : ¬ ['*', '/'] <+: c :: (body ++ '*' :: '/' :: rest) := by
        rintro ⟨tail, htail⟩
        obtain ⟨rfl, htail⟩ := List.cons.inj htail
        cases body with
        | nil => cases htail
        | cons d body =>
          have hd : '/' = d := (List.cons.inj (List.cons.inj htail).2).1
          exact hbody ⟨[], body, by rw [← hd]; rfl⟩
      have hmore : ¬ ['*', '/'] <:+: body := fun h => hbody (List.infix_cons h)
      rw [List.cons_append, Text.cut, if_neg (by simpa using hstart), ih hmore]
      rfl
  rw [cutBlock, hcut]

theorem cutBlock_of_not_infix (hbody : ¬ ['*', '/'] <:+: body) : cutBlock body = (body, []) := by
  have hcut : Text.cut ['*', '/'] body = none :=
    Text.cut_eq_none_iff.mpr fun before after h => hbody ⟨before, after, h.symm⟩
  rw [cutBlock, hcut]

theorem exists_block (s : List Char) :
    ¬ ['*', '/'] <:+: s ∨ ∃ body rest, ¬ ['*', '/'] <:+: body ∧ s = body ++ '*' :: '/' :: rest := by
  induction s with
  | nil => exact .inl (by decide)
  | cons c s ih =>
    by_cases hstart : ['*', '/'] <+: c :: s
    · obtain ⟨rest, hrest⟩ := hstart
      exact .inr ⟨[], rest, by decide, hrest.symm⟩
    · rcases ih with ih | ⟨body, rest, hbody, rfl⟩
      · exact .inl fun h => (List.infix_cons_iff.mp h).elim hstart ih
      · refine .inr ⟨c :: body, rest, fun h => ?_, rfl⟩
        rcases List.infix_cons_iff.mp h with h | h
        · exact hstart (h.trans ⟨'*' :: '/' :: rest, rfl⟩)
        · exact hbody h

theorem exists_line (s : List Char) :
    '\n' ∉ s ∨ ∃ body rest, '\n' ∉ body ∧ s = body ++ '\n' :: rest := by
  by_cases h : '\n' ∈ s
  · exact .inr (by simpa [and_comm] using List.eq_append_cons_of_mem h)
  · exact .inl h

end

/-! ### The first token -/

section

variable {c : Char} {body rest w : List Char}

theorem first_of_isQuote (hc : isQuote c = true) (rest : List Char) :
    first c rest = (.quoted (c :: (cutQuoted c rest).1), (cutQuoted c rest).2) := by
  rw [first, if_pos hc]

theorem first_block (rest : List Char) :
    first '/' ('*' :: rest) = (.comment ('/' :: '*' :: (cutBlock rest).1), (cutBlock rest).2) :=
  rfl

theorem first_line (hbody : '\n' ∉ body) (hrest : rest.head?.any (· != '\n') = false) :
    first '-' ('-' :: (body ++ rest)) = (.comment ('-' :: '-' :: body), rest) := by
  have hbefore : ∀ c ∈ '-' :: body, (c != '\n') = true := by
    intro c hc
    rw [bne_iff_ne]
    rintro rfl
    rcases List.mem_cons.mp hc with hc | hc
    · cases hc
    · exact hbody hc
  show (Token.comment ('-' :: (('-' :: body) ++ rest).takeWhile (· != '\n')),
    (('-' :: body) ++ rest).dropWhile (· != '\n')) = _
  rw [Expr.takeWhile_append hbefore hrest, Expr.dropWhile_append hbefore hrest]

theorem first_word (hne : w ≠ []) (hw : ∀ c ∈ w, isWordChar c = true)
    (hrest : rest.head?.any isWordChar = false) :
    ∃ c more, w = c :: more ∧ first c (more ++ rest) = (.word w, rest) := by
  cases w with
  | nil => exact absurd rfl hne
  | cons c w =>
    refine ⟨c, w, rfl, ?_⟩
    have hc : isWordChar c = true := hw c List.mem_cons_self
    have hmore : ∀ d ∈ w, isWordChar d = true := fun d hd => hw d (List.mem_cons_of_mem c hd)
    have hquote : isQuote c = false := by
      rw [Bool.eq_false_iff]
      intro hq
      simp only [isQuote, Bool.or_eq_true, beq_iff_eq] at hq
      rcases hq with (rfl | rfl) | rfl <;> cases hc
    have hother : ∀ d, isWordChar d = false → (c == d) = false := by
      intro d hd
      rw [beq_eq_false_iff_ne]
      rintro rfl
      rw [hc] at hd
      cases hd
    rw [first, if_neg (by simp [hquote]), if_neg (by simp [hother '/' rfl]),
      if_neg (by simp [hother '-' rfl]), if_neg (by simp [hother '(' rfl]),
      if_neg (by simp [hother ')' rfl]), if_pos hc, Expr.takeWhile_append hmore hrest,
      Expr.dropWhile_append hmore hrest]

theorem first_symbol (hc : isSymbol c = true) (hblock : ¬ ['/', '*'] <+: c :: rest)
    (hline : ¬ ['-', '-'] <+: c :: rest) : first c rest = (.symbol c, rest) := by
  simp only [isSymbol, Bool.and_eq_true, Bool.not_eq_true', bne_iff_ne] at hc
  obtain ⟨⟨⟨hquote, hopen⟩, hclose⟩, hword⟩ := hc
  have hmark : ∀ d e, ¬ [d, e] <+: c :: rest → ¬ (c == d && rest.head? == some e) = true := by
    intro d e h hde
    simp only [Bool.and_eq_true, beq_iff_eq] at hde
    obtain ⟨rfl, hhead⟩ := hde
    obtain ⟨tail, rfl⟩ := List.head?_eq_some_iff.mp hhead
    exact h ⟨tail, rfl⟩
  rw [first, if_neg (by simp [hquote]), if_neg (hmark _ _ hblock), if_neg (hmark _ _ hline),
    if_neg (by simpa using hopen), if_neg (by simpa using hclose), if_neg (by simp [hword])]

end

/-! ### The scanner finds these tokens -/

section

variable {t : Token} {rest s : List Char} {ts : List Token}

/-- A token that stands in front of a text is found first. -/
theorem Fits.first_eq (h : Fits t rest) :
    ∃ c more, t.text ++ rest = c :: more ∧ first c more = (t, rest) := by
  cases h with
  | @quoted q body rest hq hbody hrest =>
    refine ⟨q, body ++ q :: rest, by simp [Token.text], ?_⟩
    rw [first_of_isQuote hq, cutQuoted_append hbody hrest]
  | @openQuoted q body hq hbody =>
    refine ⟨q, body, by simp [Token.text], ?_⟩
    rw [first_of_isQuote hq, cutQuoted_of_inside hbody]
  | @block body rest hbody =>
    refine ⟨'/', '*' :: (body ++ '*' :: '/' :: rest), by simp [Token.text], ?_⟩
    rw [first_block, cutBlock_append hbody]
  | @openBlock body hbody =>
    refine ⟨'/', '*' :: body, by simp [Token.text], ?_⟩
    rw [first_block, cutBlock_of_not_infix hbody]
  | line hbody hrest => exact ⟨'-', '-' :: (_ ++ rest), rfl, first_line hbody hrest⟩
  | opening => exact ⟨'(', rest, rfl, rfl⟩
  | closing => exact ⟨')', rest, rfl, rfl⟩
  | word hne hw hrest =>
    obtain ⟨c, more, rfl, hfirst⟩ := first_word hne hw hrest
    exact ⟨c, more ++ rest, rfl, hfirst⟩
  | symbol hc hblock hline => exact ⟨_, rest, rfl, first_symbol hc hblock hline⟩

/-- The tokens of a text are the ones that the scanner finds. -/
theorem Lexes.tokens_eq (h : Lexes s ts) : tokens s = ts := by
  induction h with
  | nil => rw [tokens]
  | cons ht h ih =>
    obtain ⟨c, more, htext, hfirst⟩ := ht.first_eq
    rw [htext, tokens, hfirst, ih]

theorem exists_fits (c : Char) (s : List Char) :
    ∃ t rest, Fits t rest ∧ c :: s = t.text ++ rest := by
  by_cases hquote : isQuote c = true
  · rcases exists_inside c s with hbody | ⟨body, rest, hbody, hrest, rfl⟩
    · exact ⟨_, _, .openQuoted hquote hbody, by simp [Token.text]⟩
    · exact ⟨_, _, .quoted hquote hbody hrest, by simp [Token.text]⟩
  by_cases hblock : ['/', '*'] <+: c :: s
  · obtain ⟨s, hs⟩ := hblock
    rcases exists_block s with hbody | ⟨body, rest, hbody, rfl⟩
    · exact ⟨_, _, .openBlock hbody, by simp [← hs, Token.text]⟩
    · exact ⟨_, rest, .block hbody, by simp [← hs, Token.text]⟩
  by_cases hline : ['-', '-'] <+: c :: s
  · obtain ⟨s, hs⟩ := hline
    rcases exists_line s with hbody | ⟨body, rest, hbody, rfl⟩
    · exact ⟨_, [], .line hbody rfl, by simp [← hs, Token.text]⟩
    · exact ⟨_, '\n' :: rest, .line hbody rfl, by simp [← hs, Token.text]⟩
  by_cases hopen : c = '('
  · exact ⟨_, s, .opening, by rw [hopen]; rfl⟩
  by_cases hclose : c = ')'
  · exact ⟨_, s, .closing, by rw [hclose]; rfl⟩
  by_cases hword : isWordChar c = true
  · refine ⟨.word (c :: s.takeWhile isWordChar), s.dropWhile isWordChar,
      .word (List.cons_ne_nil _ _) ?_ ?_, ?_⟩
    · intro d hd
      rcases List.mem_cons.mp hd with rfl | hd
      · exact hword
      · exact List.mem_takeWhile_imp hd
    · have hhead := List.head?_dropWhile_not isWordChar s
      cases hd : (s.dropWhile isWordChar).head? with
      | none => rfl
      | some d => simpa [hd] using hhead
    · exact congrArg (c :: ·) List.takeWhile_append_dropWhile.symm
  · have hsymbol : isSymbol c = true := by
      simp [isSymbol, hquote, hopen, hclose, hword]
    exact ⟨_, s, .symbol hsymbol hblock hline, rfl⟩

/-- **A text has its tokens and no others**, and they are the ones that the scanner finds. -/
theorem lexes_iff : Lexes s ts ↔ ts = tokens s := by
  constructor
  · exact fun h => h.tokens_eq.symm
  · rintro rfl
    fun_induction tokens s with
    | case1 => exact .nil
    | case2 c s ih =>
      obtain ⟨t, rest, ht, htext⟩ := exists_fits c s
      obtain ⟨c', more, heq, hfirst⟩ := ht.first_eq
      obtain ⟨rfl, rfl⟩ := List.cons.inj (htext.trans heq)
      rw [hfirst] at ih ⊢
      rw [htext]
      exact .cons ht ih

theorem lexes_tokens (s : List Char) : Lexes s (tokens s) :=
  lexes_iff.mpr rfl

theorem Lexes.flatten_eq (h : Lexes s ts) : flatten ts = s := by
  rw [lexes_iff.mp h, flatten_tokens]

end

/-! ### Parts of a text -/

section

variable {t : Token} {rest rest' s : List Char} {ts front back : List Token}

@[simp] theorem flatten_nil : flatten [] = [] :=
  rfl

@[simp] theorem flatten_cons (t : Token) (ts : List Token) :
    flatten (t :: ts) = t.text ++ flatten ts :=
  rfl

@[simp] theorem flatten_append (ts us : List Token) :
    flatten (ts ++ us) = flatten ts ++ flatten us :=
  List.flatMap_append

/-- A token that stands in front of a text also stands in front of nothing and of another text
that starts with the same character. -/
theorem Fits.of_head? (h : Fits t rest) (hhead : ∀ d, rest'.head? = some d → rest.head? = some d) :
    Fits t rest' := by
  have hany : ∀ p, rest.head?.any p = false → rest'.head?.any p = false := by
    intro p hp
    cases hd : rest'.head? with
    | none => rfl
    | some d => rwa [hhead d hd] at hp
  have hmark : ∀ {c a b : Char}, ¬ [a, b] <+: c :: rest → ¬ [a, b] <+: c :: rest' := by
    intro c a b hno hmark
    obtain ⟨rfl, tail, rfl⟩ := List.cons_prefix_cons.mp hmark
    obtain ⟨tail', rfl⟩ := List.head?_eq_some_iff.mp (hhead b rfl)
    exact hno ⟨tail', rfl⟩
  have hnil : rest = [] → rest' = [] := by
    rintro rfl
    cases rest' with
    | nil => rfl
    | cons d rest' => cases hhead d rfl
  cases h with
  | quoted hq hbody hquote => exact .quoted hq hbody fun h => hquote (hhead _ h)
  | openQuoted hq hbody => exact hnil rfl ▸ .openQuoted hq hbody
  | block hbody => exact .block hbody
  | openBlock hbody => exact hnil rfl ▸ .openBlock hbody
  | line hbody hline => exact .line hbody (hany _ hline)
  | opening => exact .opening
  | closing => exact .closing
  | word hne hw hword => exact .word hne hw (hany _ hword)
  | symbol hc hblock hline => exact .symbol hc (hmark hblock) (hmark hline)

theorem Lexes.fits (h : Lexes s (t :: ts)) : Fits t (flatten ts) := by
  cases h with
  | cons ht h => exact h.flatten_eq.symm ▸ ht

theorem Lexes.tail (h : Lexes s (t :: ts)) : Lexes (flatten ts) ts := by
  cases h with
  | cons ht h => exact h.flatten_eq.symm ▸ h

theorem Lexes.of_append_right (h : Lexes s (front ++ back)) : Lexes (flatten back) back := by
  induction front generalizing s with
  | nil => exact h.flatten_eq.symm ▸ h
  | cons t front ih => exact ih h.tail

/-- **The end of a text can be replaced**, if the new end starts with the same character. -/
theorem Lexes.replace (h : Lexes s (front ++ back)) {s' : List Char} {back' : List Token}
    (h' : Lexes s' back') (hhead : ∀ d, s'.head? = some d → (flatten back).head? = some d) :
    Lexes (flatten front ++ s') (front ++ back') := by
  induction front generalizing s with
  | nil => exact h'
  | cons t front ih =>
    have hrest := ih h.tail
    rw [flatten_cons, List.append_assoc]
    refine .cons (h.fits.of_head? fun d hd => ?_) hrest
    show (flatten (front ++ back)).head? = some d
    rw [flatten_append]
    cases hfront : flatten front with
    | nil =>
      rw [hfront, List.nil_append] at hd
      exact hhead d hd
    | cons x xs =>
      rw [hfront] at hd
      exact hd

theorem Lexes.of_append_left (h : Lexes s (front ++ back)) : Lexes (flatten front) front := by
  have hfront := h.replace .nil fun d hd => absurd hd (Option.some_ne_none d).symm
  simpa using hfront

/-! ### Blanks -/

theorem isWordChar_of_isBlank {c : Char} (hc : Text.isBlank c = true) : isWordChar c = false := by
  rw [Bool.eq_false_iff]
  intro hword
  simp only [isWordChar, Char.isAlphanum, Bool.or_eq_true, beq_iff_eq] at hword
  rcases hword with (halpha | hdigit) | rfl
  · rw [Text.isBlank_of_isAlpha halpha] at hc
    cases hc
  · rw [Text.isBlank_of_isDigit hdigit] at hc
    cases hc
  · cases hc

theorem isBlank_of_isWordChar {c : Char} (hc : isWordChar c = true) : Text.isBlank c = false := by
  rw [Bool.eq_false_iff]
  intro hblank
  rw [isWordChar_of_isBlank hblank] at hc
  cases hc

theorem fits_of_isBlank {c : Char} (hc : Text.isBlank c = true) (rest : List Char) :
    Fits (.symbol c) rest := by
  have hne : ∀ d, Text.isBlank d = false → c ≠ d := by
    rintro d hd rfl
    rw [hc] at hd
    cases hd
  have hquote : isQuote c = false := by
    simp [isQuote, hne '\'' rfl, hne '"' rfl, hne '`' rfl]
  have hsymbol : isSymbol c = true := by
    simp [isSymbol, hquote, hne '(' rfl, hne ')' rfl, isWordChar_of_isBlank hc]
  refine .symbol hsymbol ?_ ?_
  · exact fun h => hne '/' rfl (List.cons_prefix_cons.mp h).1.symm
  · exact fun h => hne '-' rfl (List.cons_prefix_cons.mp h).1.symm

theorem flatten_blanks (gap : List Char) : flatten (gap.map Token.symbol) = gap := by
  induction gap with
  | nil => rfl
  | cons c gap ih =>
    rw [List.map_cons, flatten_cons, ih]
    rfl

theorem lexes_blanks {gap s : List Char} (hgap : ∀ c ∈ gap, Text.isBlank c = true)
    (h : Lexes s ts) : Lexes (gap ++ s) (gap.map Token.symbol ++ ts) := by
  induction gap with
  | nil => exact h
  | cons c gap ih =>
    exact .cons (fits_of_isBlank (hgap c List.mem_cons_self) _)
      (ih fun d hd => hgap d (List.mem_cons_of_mem c hd))

theorem isBlank_of_isQuote {q : Char} (hq : isQuote q = true) : Text.isBlank q = false := by
  simp only [isQuote, Bool.or_eq_true, beq_iff_eq] at hq
  rcases hq with (rfl | rfl) | rfl <;> decide

end

end QueryTemplate.Sql
