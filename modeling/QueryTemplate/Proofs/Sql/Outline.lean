import QueryTemplate.Proofs.Sql.Lexer
import QueryTemplate.Sql.OrderBy

/-!
# The outline of a statement

`Sql.outline` keeps of the tokens of a statement those outside all parentheses, without what
stands in literals and comments.  A statement falls into two parts at a word outside all
parentheses, and so does its outline (`Sql.exists_of_outline_eq`, `Sql.outline_word`).
-/

namespace QueryTemplate.Sql

/-! ### Parentheses -/

def depthAfter (ts : List Token) : Int :=
  (ts.map Token.depthChange).sum

/-! ### Outlines -/

/-- A token without what stands in it, if it is a literal or a comment. -/
def Token.shell : Token → Token
  | .quoted _ => .quoted []
  | .comment _ => .comment []
  | t => t

def outline (depth : Int) : List Token → List Token
  | [] => []
  | t :: rest =>
    if depth = 0 then t.shell :: outline (depth + t.depthChange) rest
    else outline (depth + t.depthChange) rest

/-- The statements differ at most in what stands in parentheses, literals and comments. -/
def SameOutline (sql other : String) : Prop :=
  ∃ ts us, Lexes sql.toList ts ∧ Lexes other.toList us ∧ outline 0 ts = outline 0 us

section

variable {t : Token} {ts before after us : List Token} {w v : List Char} {depth : Int}

@[simp] theorem depthAfter_nil : depthAfter [] = 0 :=
  rfl

@[simp] theorem depthAfter_cons (t : Token) (ts : List Token) :
    depthAfter (t :: ts) = t.depthChange + depthAfter ts :=
  List.sum_cons

@[simp] theorem depthAfter_word (w : List Char) (ts : List Token) :
    depthAfter (.word w :: ts) = depthAfter ts :=
  (depthAfter_cons _ _).trans (Int.zero_add _)

@[simp] theorem depthAfter_append (ts us : List Token) :
    depthAfter (ts ++ us) = depthAfter ts + depthAfter us := by
  rw [depthAfter, List.map_append, List.sum_append]
  rfl

theorem Token.shell_eq_word (h : t.shell = .word w) : t = .word w := by
  cases t <;> first | exact h | cases h

theorem Token.shell_eq_symbol {c : Char} (h : t.shell = .symbol c) : t = .symbol c := by
  cases t <;> first | exact h | cases h

theorem outline_append (depth : Int) (ts us : List Token) :
    outline depth (ts ++ us) = outline depth ts ++ outline (depth + depthAfter ts) us := by
  induction ts generalizing depth with
  | nil => simp [outline]
  | cons t ts ih =>
    rw [List.cons_append, outline, outline, ih, depthAfter_cons, Int.add_assoc]
    by_cases hd : depth = 0
    · rw [if_pos hd, if_pos hd]
      rfl
    · rw [if_neg hd, if_neg hd]

/-- **A word in the outline is a word outside all parentheses**, and the outline falls into two
parts there. -/
theorem exists_of_outline_eq (h : outline depth ts = before ++ .word w :: after) :
    ∃ before' after', ts = before' ++ .word w :: after' ∧ depth + depthAfter before' = 0 ∧
      outline depth before' = before ∧ outline 0 after' = after := by
  induction ts generalizing depth before with
  | nil => simp [outline] at h
  | cons t ts ih =>
    rw [outline] at h
    by_cases hd : depth = 0
    · rw [if_pos hd] at h
      cases before with
      | nil =>
        obtain ⟨hshell, hrest⟩ := List.cons.inj h
        obtain rfl := Token.shell_eq_word hshell
        refine ⟨[], ts, rfl, by simpa using hd, rfl, ?_⟩
        rw [← hrest, hd]
        rfl
      | cons u before =>
        obtain ⟨hshell, hrest⟩ := List.cons.inj h
        obtain ⟨before', after', rfl, hdepth, hbefore, hafter⟩ := ih hrest
        refine ⟨t :: before', after', rfl, by rw [depthAfter_cons, ← Int.add_assoc, hdepth], ?_,
          hafter⟩
        rw [outline, if_pos hd, hshell, hbefore]
    · rw [if_neg hd] at h
      obtain ⟨before', after', rfl, hdepth, hbefore, hafter⟩ := ih h
      refine ⟨t :: before', after', rfl, by rw [depthAfter_cons, ← Int.add_assoc, hdepth], ?_,
        hafter⟩
      rw [outline, if_neg hd, hbefore]

theorem outline_word (before : List Token) (w : List Char) (after : List Token)
    (h : depth + depthAfter before = 0) :
    outline depth (before ++ .word w :: after) =
      outline depth before ++ .word w :: outline 0 after := by
  rw [outline_append, h]
  rfl

theorem word_mem_outline_iff :
    .word v ∈ outline depth ts ↔
      ∃ before after, ts = before ++ .word v :: after ∧ depth + depthAfter before = 0 := by
  constructor
  · intro h
    obtain ⟨before, after, heq⟩ := List.append_of_mem h
    obtain ⟨before', after', hts, hdepth, -, -⟩ := exists_of_outline_eq heq
    exact ⟨before', after', hts, hdepth⟩
  · rintro ⟨before, after, rfl, hdepth⟩
    rw [outline_word before v after hdepth]
    simp

theorem depthAfter_blanks (gap : List Char) : depthAfter (gap.map Token.symbol) = 0 := by
  induction gap with
  | nil => rfl
  | cons c gap ih =>
    rw [List.map_cons, depthAfter_cons, ih]
    rfl

theorem outline_eq_blanks_iff {gap : List Char} :
    outline 0 ts = gap.map Token.symbol ↔ ts = gap.map Token.symbol := by
  induction gap generalizing ts with
  | nil =>
    cases ts with
    | nil => exact Iff.rfl
    | cons t ts => simp [outline]
  | cons c gap ih =>
    cases ts with
    | nil => simp [outline]
    | cons t ts =>
      rw [outline, if_pos rfl]
      constructor
      · intro h
        obtain ⟨hshell, hrest⟩ := List.cons.inj h
        obtain rfl := Token.shell_eq_symbol hshell
        exact congrArg (.symbol c :: ·) (ih.mp hrest)
      · intro h
        obtain ⟨rfl, hrest⟩ := List.cons.inj h
        exact congrArg (.symbol c :: ·) (ih.mpr hrest)

end

end QueryTemplate.Sql
