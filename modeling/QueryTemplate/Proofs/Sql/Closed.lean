import QueryTemplate.Proofs.Sql.Outline

/-!
# Closed texts

A text is closed (`Sql.Closed`) when its scan ends outside every literal and comment, and
every parenthesis in it has its partner.

* `Sql.IsLevel.append`, `Sql.IsLevel.parens`: how texts with all partners are put together.
* `Sql.Lexes.append_closing`: the last token of a closed text ends before a parenthesis.
* `Sql.Lexes.trimEnd_closed`, `Sql.Lexes.trimEnd_line`: a text that is trimmed at its end stays
  closed, unless it ends in a line comment, which is left open.
-/

namespace QueryTemplate.Sql

/-- The token has an end of its own: it is no literal or comment that stays open, and no line
comment. -/
def Token.IsClosed : Token → Prop
  | .quoted text => ∃ q body, Inside q body ∧ text = q :: (body ++ [q])
  | .comment text => ∃ body, text = '/' :: '*' :: (body ++ ['*', '/'])
  | _ => True

def Token.IsLine (t : Token) : Prop :=
  ∃ text, t = .comment ('-' :: '-' :: text)

structure IsLevel (ts : List Token) : Prop where
  settled : depthAfter ts = 0
  never_below : ∀ front back, ts = front ++ back → 0 ≤ depthAfter front

/-- The scan of the text ends outside every literal and comment and every parenthesis, and
never closes a parenthesis that is not open. -/
def Closed (s : List Char) : Prop :=
  ∃ ts, Lexes s ts ∧ (∀ t, ts.getLast? = some t → t.IsClosed) ∧ IsLevel ts

section

variable {t : Token} {ts us front back : List Token} {s rest text : List Char} {q : Char}

/-! ### Parentheses -/

theorem IsLevel.append (h : IsLevel ts) (h' : IsLevel us) : IsLevel (ts ++ us) := by
  refine ⟨by rw [depthAfter_append, h.settled, h'.settled]; rfl, fun front back heq => ?_⟩
  rcases List.append_eq_append_iff.mp heq with ⟨more, rfl, hus⟩ | ⟨more, hts, rfl⟩
  · rw [depthAfter_append, h.settled, Int.zero_add]
    exact h'.never_below more back hus
  · exact h.never_below front more hts

theorem IsLevel.of_append_left (h : IsLevel (ts ++ us)) (hts : depthAfter ts = 0) : IsLevel ts := by
  refine ⟨hts, fun front back heq => h.never_below front (back ++ us) ?_⟩
  rw [heq, List.append_assoc]

theorem isLevel_of_forall (h : ∀ t ∈ ts, t.depthChange = 0) : IsLevel ts := by
  have hzero : ∀ front : List Token, (∀ t ∈ front, t.depthChange = 0) → depthAfter front = 0 := by
    intro front hfront
    rw [depthAfter, List.sum_eq_zero]
    simpa using hfront
  refine ⟨hzero ts h, fun front back heq => ?_⟩
  rw [hzero front fun t ht => h t (heq ▸ List.mem_append_left back ht)]

theorem IsLevel.parens (h : IsLevel ts) : IsLevel (.opening :: (ts ++ [.closing])) := by
  refine ⟨by simp [h.settled, Token.depthChange], fun front back heq => ?_⟩
  cases front with
  | nil => exact Int.le_refl 0
  | cons t front =>
    obtain ⟨rfl, hrest⟩ := List.cons.inj heq
    have hone : (Token.opening).depthChange = 1 := rfl
    rw [depthAfter_cons, hone]
    rcases List.append_eq_append_iff.mp hrest with ⟨more, rfl, hclose⟩ | ⟨more, hts, -⟩
    · have hmore : -1 ≤ depthAfter more := by
        cases more with
        | nil => decide
        | cons u more =>
          obtain ⟨rfl, hnil⟩ := List.cons.inj hclose
          obtain rfl := (List.append_eq_nil_iff.mp hnil.symm).1
          decide
      rw [depthAfter_append, h.settled]
      omega
    · have hfront := h.never_below front more hts
      omega

/-! ### What may stand at the end -/

theorem Inside.not_append (h : Inside q s) : ¬ Inside q (s ++ [q]) := by
  induction h with
  | nil =>
    intro h'
    cases h' with
    | other hc => exact hc rfl
  | @other c s hc h ih =>
    intro h'
    generalize hu : c :: s ++ [q] = u at h'
    cases h' with
    | nil => cases hu
    | other hc' h' =>
      obtain ⟨-, rfl⟩ := List.cons.inj hu
      exact ih h'
    | doubled h' => exact hc (List.cons.inj hu).1
  | doubled h ih =>
    intro h'
    cases h' with
    | other hc => exact hc rfl
    | doubled h' => exact ih h'

/-- A token that does not stand at the end is closed, or it is a line comment. -/
theorem Fits.isClosed_or_line (h : Fits t rest) (hrest : rest ≠ []) :
    t.IsClosed ∨ t.IsLine := by
  cases h with
  | quoted hq hbody => exact .inl ⟨_, _, hbody, rfl⟩
  | openQuoted => exact absurd rfl hrest
  | block hbody => exact .inl ⟨_, rfl⟩
  | openBlock => exact absurd rfl hrest
  | line => exact .inr ⟨_, rfl⟩
  | opening | closing | word | symbol => exact .inl trivial

theorem Fits.newline_not_mem (h : Fits (.comment ('-' :: '-' :: text)) rest) : '\n' ∉ text := by
  cases h with
  | line hbody => exact hbody

theorem lexes_line (htext : '\n' ∉ text) :
    Lexes ('-' :: '-' :: text) [.comment ('-' :: '-' :: text)] := by
  have hfits : Fits (.comment ('-' :: '-' :: text)) [] := .line htext rfl
  simpa [Token.text] using Lexes.cons hfits .nil

theorem Lexes.opening (h : Lexes s ts) : Lexes ('(' :: s) (.opening :: ts) :=
  .cons .opening h

theorem Fits.before_closing (h : Fits t []) (ht : t.IsClosed) : Fits t (')' :: rest) := by
  cases h with
  | quoted hq hbody =>
    refine .quoted hq hbody fun hquote => ?_
    obtain rfl := Option.some.inj hquote
    cases hq
  | openQuoted hq hbody =>
    obtain ⟨q', body', hbody', heq⟩ := ht
    obtain ⟨rfl, rfl⟩ := List.cons.inj heq
    exact absurd hbody hbody'.not_append
  | block hbody => exact .block hbody
  | openBlock hbody =>
    obtain ⟨body', heq⟩ := ht
    obtain rfl := (List.cons.inj (List.cons.inj heq).2).2
    exact absurd ⟨body', [], List.append_nil _⟩ hbody
  | line =>
    obtain ⟨body', heq⟩ := ht
    cases (List.cons.inj heq).1
  | opening => exact .opening
  | closing => exact .closing
  | word hne hw => exact .word hne hw rfl
  | symbol hc =>
    have hmark : ∀ {c a b : Char}, b ≠ ')' → ¬ [a, b] <+: c :: ')' :: rest :=
      fun hb h => hb (List.cons_prefix_cons.mp (List.cons_prefix_cons.mp h).2).1
    exact .symbol hc (hmark (by decide)) (hmark (by decide))

theorem Lexes.append_closing (h : Lexes s ts) (hclosed : ∀ t, ts.getLast? = some t → t.IsClosed)
    (h' : Lexes (')' :: rest) us) : Lexes (s ++ ')' :: rest) (ts ++ us) := by
  rcases List.eq_nil_or_concat ts with rfl | ⟨front, t, rfl⟩
  · rwa [← h.flatten_eq]
  · rw [List.concat_eq_append] at h hclosed ⊢
    have hfits : Fits t [] := h.of_append_right.fits
    have hlast : Lexes (t.text ++ ')' :: rest) (t :: us) :=
      .cons (hfits.before_closing (hclosed t (by simp))) h'
    obtain ⟨c, more, htext, -⟩ := hfits.first_eq
    rw [List.append_nil] at htext
    have hwhole := h.replace hlast fun d hd => by
      rw [htext] at hd
      simpa [htext] using hd
    rw [← h.flatten_eq]
    simpa using hwhole

/-! ### Trimming the end -/

theorem Fits.trimEnd_append (h : Fits t rest) (ht : t.IsClosed)
    (hsymbol : ∀ c, t = .symbol c → Text.isBlank c = false) (s : List Char) :
    Text.trimEnd (s ++ t.text) = s ++ t.text := by
  have hends : ∃ init last, t.text = init ++ [last] ∧ Text.isBlank last = false := by
    cases h with
    | @quoted q body rest hq => exact ⟨q :: body, q, rfl, isBlank_of_isQuote hq⟩
    | openQuoted hq hbody =>
      obtain ⟨q, body, -, heq⟩ := ht
      obtain ⟨rfl, rfl⟩ := List.cons.inj heq
      exact ⟨_ :: body, _, rfl, isBlank_of_isQuote hq⟩
    | @block body => exact ⟨'/' :: '*' :: (body ++ ['*']), '/', by simp [Token.text], rfl⟩
    | openBlock hbody =>
      obtain ⟨body, heq⟩ := ht
      exact ⟨'/' :: '*' :: (body ++ ['*']), '/', heq.trans (by simp), rfl⟩
    | line =>
      obtain ⟨body, heq⟩ := ht
      cases (List.cons.inj heq).1
    | opening => exact ⟨[], '(', rfl, rfl⟩
    | closing => exact ⟨[], ')', rfl, rfl⟩
    | @word w rest hne hw =>
      rcases List.eq_nil_or_concat w with rfl | ⟨init, last, rfl⟩
      · exact absurd rfl hne
      · exact ⟨init, last, List.concat_eq_append, isBlank_of_isWordChar (hw last (by simp))⟩
    | @symbol c => exact ⟨[], c, rfl, hsymbol c rfl⟩
  obtain ⟨init, last, htext, hlast⟩ := hends
  rw [htext, ← List.append_assoc, Text.trimEnd_append_cons hlast]
  rfl

theorem exists_core (ts : List Token) :
    ∃ (core : List Token) (gap : List Char), ts = core ++ gap.map Token.symbol ∧
      (∀ c ∈ gap, Text.isBlank c = true) ∧
      ∀ c, core.getLast? = some (.symbol c) → Text.isBlank c = false := by
  induction ts using List.reverseRecOn with
  | nil => exact ⟨[], [], rfl, by simp, by simp⟩
  | append_singleton ts t ih =>
    by_cases hblank : ∃ c, t = .symbol c ∧ Text.isBlank c = true
    · obtain ⟨c, rfl, hc⟩ := hblank
      obtain ⟨core, gap, rfl, hgap, hcore⟩ := ih
      refine ⟨core, gap ++ [c], by simp, ?_, hcore⟩
      intro d hd
      rcases List.mem_append.mp hd with hd | hd
      · exact hgap d hd
      · rwa [List.mem_singleton.mp hd]
    · refine ⟨ts ++ [t], [], by simp, by simp, ?_⟩
      intro c hc
      rw [List.getLast?_concat] at hc
      rw [Bool.eq_false_iff]
      exact fun hb => hblank ⟨c, Option.some.inj hc, hb⟩

/-- A text that ends in a line comment is trimmed inside of the comment. -/
theorem Lexes.trimEnd_line {gap : List Char}
    (h : Lexes s (front ++ .comment ('-' :: '-' :: text) :: gap.map Token.symbol))
    (hgap : ∀ c ∈ gap, Text.isBlank c = true) :
    Lexes (Text.trimEnd s) (front ++ [.comment ('-' :: '-' :: Text.trimEnd text)]) := by
  have hs : s = (flatten front ++ '-' :: '-' :: text) ++ gap := by
    rw [← h.flatten_eq, flatten_append, flatten_cons, flatten_blanks]
    simp [Token.text]
  have htrim : Text.trimEnd s = flatten front ++ '-' :: '-' :: Text.trimEnd text := by
    have hsecond := Text.trimEnd_append_cons (c := '-') rfl (flatten front ++ ['-']) text
    rw [hs, Text.trimEnd_append _ hgap]
    simpa using hsecond
  rw [htrim]
  refine h.replace ?_ ?_
  · have hfree := h.of_append_right.fits.newline_not_mem
    rw [← Text.dropEndWhile_append Text.isBlank text] at hfree
    exact lexes_line fun hmem => hfree (List.mem_append_left _ hmem)
  · intro d hd
    exact hd

/-- A text that ends in a closed token, apart from blanks, keeps this token and those in front
of it. -/
theorem Lexes.trimEnd_closed (h : Lexes s ts)
    (hlast : ∀ t, ts.getLast? = some t → t.IsClosed ∨ t.IsLine)
    (hline : ∀ (front : List Token) (text gap : List Char),
      ts = front ++ .comment ('-' :: '-' :: text) :: gap.map Token.symbol →
        ¬ ∀ c ∈ gap, Text.isBlank c = true) (hlevel : IsLevel ts) :
    Closed (Text.trimEnd s) := by
  obtain ⟨core, gap, rfl, hgap, hcore⟩ := exists_core ts
  have hs : s = flatten core ++ gap := by
    rw [← h.flatten_eq, flatten_append, flatten_blanks]
  have hcoreLevel : IsLevel core := by
    have hsettled := hlevel.settled
    rw [depthAfter_append, depthAfter_blanks, Int.add_zero] at hsettled
    exact hlevel.of_append_left hsettled
  have hclosed : ∀ t, core.getLast? = some t → t.IsClosed := by
    intro t ht
    obtain ⟨front, rfl⟩ := List.getLast?_eq_some_iff.mp ht
    have hor : t.IsClosed ∨ t.IsLine := by
      cases gap with
      | nil => exact hlast t (by simp)
      | cons c gap =>
        rw [List.append_assoc] at h
        exact h.of_append_right.fits.isClosed_or_line (List.cons_ne_nil _ _)
    rcases hor with hclosed | ⟨text, rfl⟩
    · exact hclosed
    · exact absurd hgap (hline front text gap (by simp))
  refine ⟨core, ?_, hclosed, hcoreLevel⟩
  have htrim : Text.trimEnd s = flatten core := by
    rw [hs, Text.trimEnd_append _ hgap]
    rcases List.eq_nil_or_concat core with rfl | ⟨front, t, rfl⟩
    · rfl
    · rw [List.concat_eq_append] at h hclosed hcore ⊢
      rw [flatten_append, flatten_cons, flatten_nil, List.append_nil]
      rw [List.append_assoc] at h
      exact h.of_append_right.fits.trimEnd_append (hclosed t (by simp))
        (fun c hc => hcore c (by simp [hc])) _
  rw [htrim]
  exact h.of_append_left

end

end QueryTemplate.Sql
