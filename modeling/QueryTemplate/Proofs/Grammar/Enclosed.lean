import QueryTemplate.Proofs.Grammar.Derivation
import Mathlib.Data.List.TakeWhile

/-!
# Parentheses and quotes of an expression

An accepted text closes each parenthesis that it opens, as far as its string literals are left out.
What stands between the quotes of a literal is free, so that counting parentheses without a look at
the quotes may go wrong there and nowhere else.

* `Expr.Enclosed`: parentheses are closed and quotes come in pairs; the list holds what stands
  between the quotes.
* `Expr.Derives.consumes`: what the parser takes off the front of a text is enclosed.
* `Expr.exists_enclosed_of_parse`: so is every accepted text.
-/

namespace QueryTemplate.Expr

open Text (IsGaps Shorter skipGaps strip? eq_of_strip?)

def isBare (c : Char) : Bool :=
  c != '(' && c != ')' && c != '\'' && c != '"'

/-- The text closes each parenthesis that it opens and each quote.  The list holds what stands
between the quotes, where anything may stand. -/
inductive Enclosed : List (List Char) → List Char → Prop
  | nil : Enclosed [] []
  | bare {literals c s} (hc : isBare c = true) (h : Enclosed literals s) :
      Enclosed literals (c :: s)
  | literal {literals quote body inside s} (hquote : quote = '\'' ∨ quote = '"')
      (hinside : WrittenInside quote body inside) (h : Enclosed literals s) :
      Enclosed (inside :: literals) (quote :: (inside ++ quote :: s))
  | parens {literals literals' s t} (h : Enclosed literals s) (ht : Enclosed literals' t) :
      Enclosed (literals ++ literals') ('(' :: (s ++ ')' :: t))

theorem Enclosed.append {literals literals' : List (List Char)} {s t : List Char}
    (h : Enclosed literals s) (ht : Enclosed literals' t) :
    Enclosed (literals ++ literals') (s ++ t) := by
  induction h with
  | nil => exact ht
  | bare hc h ih => exact .bare hc ih
  | literal hquote hinside h ih =>
    have hliteral := Enclosed.literal hquote hinside ih
    simpa using hliteral
  | parens h hu ih ihu =>
    have hparens := Enclosed.parens h ihu
    rw [← List.append_assoc] at hparens
    simpa using hparens

theorem enclosed_of_isBare {s : List Char} (h : ∀ c ∈ s, isBare c = true) : Enclosed [] s := by
  induction s with
  | nil => exact .nil
  | cons c s ih =>
    obtain ⟨hc, hs⟩ := List.forall_mem_cons.mp h
    exact .bare hc (ih hs)

def Consumes (s rest : List Char) : Prop :=
  ∃ literals used, s = used ++ rest ∧ Enclosed literals used

namespace Consumes

variable {s t u : List Char}

theorem refl (s : List Char) : Consumes s s :=
  ⟨[], [], rfl, .nil⟩

theorem trans (h : Consumes s t) (ht : Consumes t u) : Consumes s u := by
  obtain ⟨literals, used, rfl, hused⟩ := h
  obtain ⟨literals', used', rfl, hused'⟩ := ht
  exact ⟨_, used ++ used', (List.append_assoc used used' u).symm, hused.append hused'⟩

theorem of_isBare (h : ∀ c ∈ s, isBare c = true) (t : List Char) : Consumes (s ++ t) t :=
  ⟨[], s, rfl, enclosed_of_isBare h⟩

theorem of_all (h : s.all isBare = true) (t : List Char) : Consumes (s ++ t) t :=
  of_isBare (List.all_eq_true.mp h) t

theorem parens (h : Consumes s (')' :: t)) : Consumes ('(' :: s) t := by
  obtain ⟨literals, used, rfl, hused⟩ := h
  exact ⟨_, '(' :: (used ++ [')']), by simp, .parens hused .nil⟩

end Consumes

/-! ### Tokens -/

theorem isBare_of_test {p : Char → Bool} {c : Char} (hc : p c = true)
    (hmarks : (['(', ')', '\'', '"'].any p) = false) : isBare c = true := by
  simp only [List.any_cons, List.any_nil, Bool.or_false, Bool.or_eq_false_iff] at hmarks
  obtain ⟨hopen, hclose, hsingle, hdouble⟩ := hmarks
  simp only [isBare, Bool.and_eq_true, bne_iff_ne]
  exact ⟨⟨⟨ne_of_test hc hopen, ne_of_test hc hclose⟩, ne_of_test hc hsingle⟩,
    ne_of_test hc hdouble⟩

theorem isBare_of_isNameChar {c : Char} (h : isNameChar c = true) : isBare c = true :=
  isBare_of_test h (by decide)

theorem consumes_skipGaps (s : List Char) : Consumes s (skipGaps s) := by
  have hgaps : ∀ c ∈ s.takeWhile Text.isGap, isBare c = true := fun c hc =>
    isBare_of_test (List.mem_takeWhile_imp hc) (by decide)
  have h := Consumes.of_isBare hgaps (s.dropWhile Text.isGap)
  rwa [List.takeWhile_append_dropWhile] at h

section

variable {s : List Char}

theorem skipGaps_eq_of_mark? {c : Char} {rest : Shorter s.length} (h : mark? c s = some rest) :
    skipGaps s = c :: rest.val := by
  obtain ⟨found, hfound, rfl⟩ := Option.map_eq_some_iff.mp h
  exact eq_of_strip? hfound

theorem consumes_mark? {c : Char} (hc : isBare c = true) {rest : Shorter s.length}
    (h : mark? c s = some rest) : Consumes s rest.val := by
  have hmark := Consumes.of_all (s := [c]) (by simpa using hc) rest.val
  rw [List.singleton_append, ← skipGaps_eq_of_mark? h] at hmark
  exact (consumes_skipGaps s).trans hmark

theorem consumes_name? {name : String} {rest : Shorter s.length}
    (h : name? s = some (name, rest)) : Consumes s rest.val := by
  cases s with
  | nil => cases h
  | cons c s =>
    rw [name?] at h
    split at h
    · next hc =>
      obtain ⟨-, rfl⟩ := Prod.mk.inj (Option.some.inj h)
      have hname : ∀ d ∈ c :: s.takeWhile isNameChar, isBare d = true :=
        List.forall_mem_cons.mpr ⟨isBare_of_isNameChar (isNameChar_of_isNameStart hc),
          fun d hd => isBare_of_isNameChar (List.mem_takeWhile_imp hd)⟩
      have hconsumes := Consumes.of_isBare hname (s.dropWhile isNameChar)
      rwa [List.cons_append, List.takeWhile_append_dropWhile] at hconsumes
    · cases h

theorem consumes_member? {name : String} {rest : Shorter s.length}
    (h : member? s = some (name, rest)) : Consumes s rest.val := by
  rw [member?] at h
  obtain ⟨point, hpoint, h⟩ := Option.bind_eq_some_iff.mp h
  obtain ⟨⟨name', rest'⟩, hname, h⟩ := Option.bind_eq_some_iff.mp h
  obtain ⟨-, rfl⟩ := Prod.mk.inj (Option.some.inj h)
  exact (consumes_mark? (by decide) hpoint).trans
    ((consumes_skipGaps point.val).trans (consumes_name? hname))

theorem consumes_emptyCall? {rest : Shorter s.length} (h : emptyCall? s = some rest) :
    Consumes s rest.val := by
  rw [emptyCall?] at h
  obtain ⟨start, hstart, h⟩ := Option.bind_eq_some_iff.mp h
  obtain ⟨closed, hclosed, h⟩ := Option.bind_eq_some_iff.mp h
  obtain rfl := Option.some.inj h
  have hinside := consumes_skipGaps start.val
  rw [skipGaps_eq_of_mark? hclosed] at hinside
  have hcall := hinside.parens
  rw [← skipGaps_eq_of_mark? hstart] at hcall
  exact (consumes_skipGaps s).trans hcall

theorem eq_of_spelling_strip? {spelling : Spelling} {rest : Shorter s.length}
    (h : spelling.strip? s = some rest) : s = spelling.chars ++ rest.val := by
  cases spelling with
  | sign text => exact eq_of_strip? h
  | word text => exact eq_of_strip? (Option.filter_eq_some_iff.mp h).1

theorem consumes_firstOf? {α : Type} {entries : List (Spelling × α)} {a : α}
    {rest : Shorter s.length}
    (hbare : ∀ entry ∈ entries, entry.1.chars.all isBare = true)
    (h : firstOf? entries s = some (a, rest)) : Consumes s rest.val := by
  obtain ⟨entry, hentry, h⟩ := List.exists_of_findSome?_eq_some h
  obtain ⟨found, hfound, h⟩ := Option.map_eq_some_iff.mp h
  obtain ⟨-, rfl⟩ := Prod.mk.inj h
  have hconsumes := Consumes.of_all (hbare entry hentry) found.val
  rwa [← eq_of_spelling_strip? hfound] at hconsumes

theorem consumes_operator? {l : Level} {op : BinaryOp} {rest : Shorter s.length}
    (h : operator? l s = some (op, rest)) : Consumes s rest.val :=
  consumes_firstOf? (by cases l <;> decide) h

theorem consumes_constant? {value : Value} {rest : Shorter s.length}
    (h : constant? s = some (value, rest)) : Consumes s rest.val := by
  have hbare : ∀ entry ∈ constants, entry.1.chars.all isBare = true := by decide
  exact consumes_firstOf? hbare h

theorem consumes_negation? {rest : Shorter s.length} (h : negation? s = some rest) :
    Consumes s rest.val := by
  obtain ⟨spelling, hspelling, hstrip⟩ := List.exists_of_findSome?_eq_some h
  have hbare : ∀ spelling ∈ negations, spelling.chars.all isBare = true := by decide
  have hconsumes := Consumes.of_all (hbare spelling hspelling) rest.val
  rwa [← eq_of_spelling_strip? hstrip] at hconsumes

theorem consumes_minus {rest : Shorter s.length} (h : strip? ['-'] s = some rest) :
    Consumes s rest.val := by
  have hconsumes := Consumes.of_all (s := ['-']) (by decide) rest.val
  rwa [← eq_of_strip? h] at hconsumes

theorem consumes_digits (s : List Char) : Consumes s (s.dropWhile Char.isDigit) := by
  have hdigits : ∀ c ∈ s.takeWhile Char.isDigit, isBare c = true := fun c hc =>
    isBare_of_isNameChar (isNameChar_of_isDigit (List.mem_takeWhile_imp hc))
  have h := Consumes.of_isBare hdigits (s.dropWhile Char.isDigit)
  rwa [List.takeWhile_append_dropWhile] at h

theorem consumes_numeral? {value : Value} {rest : List Char}
    (h : numeral? s = some (value, rest)) : Consumes s rest := by
  simp only [numeral?] at h
  split at h
  · cases h
  · split at h
    · next after hpoint =>
      split at h
      · obtain ⟨_, -, heq⟩ := Option.map_eq_some_iff.mp h
        obtain ⟨-, rfl⟩ := Prod.mk.inj heq
        exact consumes_digits s
      · obtain ⟨_, -, heq⟩ := Option.map_eq_some_iff.mp h
        obtain ⟨-, rfl⟩ := Prod.mk.inj heq
        have hwhole := consumes_digits s
        rw [hpoint] at hwhole
        exact hwhole.trans ((Consumes.of_all (s := ['.']) (by decide) after).trans
          (consumes_digits after))
    · obtain ⟨_, -, heq⟩ := Option.map_eq_some_iff.mp h
      obtain ⟨-, rfl⟩ := Prod.mk.inj heq
      exact consumes_digits s

/-- The characters of a string are written up to its closing quote. -/
theorem exists_writtenInside_of_stringBody? {quote : Char} {body : List Char}
    {rest : Shorter s.length} (h : stringBody? quote s = some (body, rest)) :
    ∃ inside, s = inside ++ quote :: rest.val ∧ WrittenInside quote body inside := by
  induction s using stringBody?.induct quote generalizing body with
  | case1 => cases h
  | case2 c s ih =>
    rw [stringBody?] at h
    obtain ⟨⟨more, after⟩, hmore, heq⟩ := Option.map_eq_some_iff.mp h
    obtain ⟨rfl, rfl⟩ := Prod.mk.inj heq
    obtain ⟨inside, hs, hinside⟩ := ih hmore
    exact ⟨'\\' :: c :: inside, congrArg ('\\' :: c :: ·) hs, .escaped hinside⟩
  | case3 c s hslash hquote =>
    rw [stringBody?, if_pos hquote] at h
    · obtain ⟨rfl, rfl⟩ := Prod.mk.inj (Option.some.inj h)
      exact ⟨[], by rw [eq_of_beq hquote]; rfl, .nil⟩
    · exact hslash
  | case4 c s hslash hquote hc =>
    rw [stringBody?, if_neg hquote, if_pos hc] at h
    · cases h
    · exact hslash
  | case5 c s hslash hquote hc ih =>
    rw [stringBody?, if_neg hquote, if_neg hc] at h
    · obtain ⟨⟨more, after⟩, hmore, heq⟩ := Option.map_eq_some_iff.mp h
      obtain ⟨rfl, rfl⟩ := Prod.mk.inj heq
      obtain ⟨inside, hs, hinside⟩ := ih hmore
      exact ⟨c :: inside, congrArg (c :: ·) hs,
        .itself (by simpa using hquote) (by simpa using hc) hinside⟩
    · exact hslash

theorem consumes_atom {rest : List Char} {e : Expr} (h : (atom s).result? = some (e, rest)) :
    Consumes s rest := by
  rw [atom] at h
  split at h
  · next value after hconstant =>
    obtain ⟨-, rfl⟩ := Prod.mk.inj (Option.some.inj h)
    exact consumes_constant? hconstant
  · split at h
    · next value after hnumeral =>
      obtain ⟨-, rfl⟩ := Prod.mk.inj (Option.some.inj h)
      exact consumes_numeral? hnumeral
    · split at h
      · cases h
      · next c s _ _ _ _ =>
        split at h
        · next hquote =>
          split at h
          · next body after hbody =>
            obtain ⟨-, rfl⟩ := Prod.mk.inj (Option.some.inj h)
            obtain ⟨inside, hs, hinside⟩ := exists_writtenInside_of_stringBody? hbody
            refine ⟨[inside], c :: (inside ++ [c]), by simp [hs], ?_⟩
            exact .literal (by simpa using hquote) hinside .nil
          · cases h
        · split at h
          · next name after hname =>
            split at h
            · cases h
            · obtain ⟨-, rfl⟩ := Prod.mk.inj (Option.some.inj h)
              exact consumes_name? hname
          · cases h

end

/-! ### Expressions -/

/-- **What the parser takes off the front of a text is enclosed.** -/
theorem Derives.consumes {part : Part} {s rest : List Char} {e : Expr}
    (h : Derives part s e rest) : Consumes s rest := by
  induction h with
  | atom h => exact consumes_atom h
  | @parens s e after tail h hclose ih =>
    have hinside := ih.trans (consumes_skipGaps after)
    rw [skipGaps_eq_of_mark? hclose] at hinside
    exact hinside.parens
  | bare => exact .refl _
  | member hmember h ih => exact (consumes_member? hmember).trans ih
  | call hmember hcall h ih =>
    exact (consumes_member? hmember).trans ((consumes_emptyCall? hcall).trans ih)
  | index hopen hkey hclose h ihkey ih =>
    exact (consumes_mark? (by decide) hopen).trans
      (ihkey.trans ((consumes_mark? (by decide) hclose).trans ih))
  | postfixed h hmore ih ihmore => exact (consumes_skipGaps _).trans (ih.trans ihmore)
  | not hsign h ih => exact (consumes_skipGaps _).trans ((consumes_negation? hsign).trans ih)
  | negate hsign h ih => exact (consumes_skipGaps _).trans ((consumes_minus hsign).trans ih)
  | unsigned h ih => exact (consumes_skipGaps _).trans ih
  | single => exact .refl _
  | link hop h hmore ih ihmore =>
    exact (consumes_skipGaps _).trans ((consumes_operator? hop).trans (ih.trans ihmore))
  | chain h hmore ih ihmore => exact ih.trans ihmore

/-- **An accepted text is enclosed.** -/
theorem exists_enclosed_of_parse {text : String} {e : Expr} (h : parse text = .ok e) :
    ∃ literals, Enclosed literals text.toList := by
  obtain ⟨rest, hderives, hrest⟩ := derives_of_parse h
  have hconsumes := hderives.consumes.trans (consumes_skipGaps rest)
  rw [hrest] at hconsumes
  obtain ⟨literals, used, heq, hused⟩ := hconsumes
  rw [List.append_nil] at heq
  exact ⟨literals, heq ▸ hused⟩

end QueryTemplate.Expr
