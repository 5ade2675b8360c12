import QueryTemplate.Proofs.Grammar.Step

/-!
# Written expressions are read back

The parser reads an expression that stands at a place up to the text that cannot go on with
it there (`Stops`).  Inside of an expression the text does go on, with an operator of the
level at hand or with a suffix; there the parser is known to have read the part so far as an
expression to go on with (`Reads`), which is what the induction on `Written` carries along.

* `reads_of_written`: the parser reads what is written, part by part.
* `parse_of_renders`: a text that writes an expression is read as this expression.
-/

namespace QueryTemplate.Expr

open Text (IsGaps Shorter skipGaps strip?)

/-! ### The text behind an expression -/

structure Delimits (k : List Char) : Prop where
  ends : Ends k
  numeral : EndsNumeral k
  call : emptyCall? k = none

/-- A text that does not go on with an expression at the place in front of it. -/
structure Stops (p : Place) (k : List Char) : Prop where
  ends : Ends k
  member : mark? '.' k = none
  index : mark? '[' k = none
  call : mark? '(' k = none
  operator : ∀ l : Level, l.rank ≤ p.rank → operator? l (skipGaps k) = none

theorem endsNumeral_of_mark? {k : List Char} (h : mark? '.' k = none) : EndsNumeral k := by
  rintro t rfl
  have hmark := mark?_append (c := '.') isGaps_nil (by decide) t
  rw [List.nil_append, h] at hmark
  cases hmark

theorem Stops.delimits {p : Place} {k : List Char} (h : Stops p k) : Delimits k :=
  ⟨h.ends, endsNumeral_of_mark? h.member, emptyCall?_eq_none h.call⟩

theorem Stops.mono {p q : Place} {k : List Char} (h : Stops p k) (hrank : q.rank ≤ p.rank) :
    Stops q k :=
  ⟨h.ends, h.member, h.index, h.call, fun l hl => h.operator l (hl.trans hrank)⟩

theorem Stops.member?_eq_none {p : Place} {k : List Char} (h : Stops p k) : member? k = none :=
  Expr.member?_eq_none h.member

theorem stops_of_isGaps {p : Place} {g : List Char} (hg : IsGaps g) : Stops p g := by
  refine ⟨?_, mark?_of_isGaps hg, mark?_of_isGaps hg, mark?_of_isGaps hg, ?_⟩
  · rw [← List.append_nil g]
    exact ends_append hg fun _ => ends_nil
  · intro l hl
    rw [skipGaps_of_isGaps hg]
    exact operator?_nil_eq_none l

/-- A character that no suffix and no operator of the place begins with stops an expression
there. -/
theorem stops_cons {p : Place} {g : List Char} {c : Char} (hg : IsGaps g)
    (hgap : Text.isGap c = false) (hname : g = [] → isNameChar c = false)
    (hmark : '.' ≠ c ∧ '[' ≠ c ∧ '(' ≠ c)
    (hop : ∀ l : Level, l.rank ≤ p.rank → ∀ entry ∈ l.spellings, entry.1.chars.head? ≠ some c)
    (k : List Char) : Stops p (g ++ c :: k) := by
  obtain ⟨hpoint, hbracket, hparen⟩ := hmark
  refine ⟨ends_append hg fun h => ends_cons (hname h) k, mark?_eq_none hg hgap hpoint k,
    mark?_eq_none hg hgap hbracket k, mark?_eq_none hg hgap hparen k, ?_⟩
  intro l hl
  rw [skipGaps_append hg, skipGaps_cons hgap]
  exact operator?_cons_eq_none (hop l hl)

theorem stops_close {p : Place} {g : List Char} {c : Char} (hg : IsGaps g)
    (hc : c = ')' ∨ c = ']') (k : List Char) : Stops p (g ++ c :: k) := by
  have hspellings : ∀ l : Level, ∀ entry ∈ l.spellings, entry.1.chars.head? ≠ some c := by
    intro l
    rcases hc with rfl | rfl <;> cases l <;> decide
  refine stops_cons hg ?_ ?_ ?_ (fun l _ => hspellings l) k
  · rcases hc with rfl | rfl <;> decide
  · rcases hc with rfl | rfl <;> intro <;> decide
  · rcases hc with rfl | rfl <;> decide

/-! ### The text behind the operands of an operator -/

/-- No operator begins like one that binds more tightly. -/
theorem Level.head_ne_of_tighter {l tighter : Level} (h : tighter.rank < l.rank) :
    ∀ entry ∈ l.spellings, ∀ other ∈ tighter.spellings,
      other.1.chars.head? ≠ entry.1.chars.head? := by
  revert h
  cases l <;> cases tighter <;> decide

theorem Level.head_no_mark (l : Level) : ∀ entry ∈ l.spellings,
    entry.1.chars.head?.all fun c => !Text.isGap c && '.' != c && '[' != c && '(' != c := by
  cases l <;> decide

theorem Level.isWord_of_head (l : Level) : ∀ entry ∈ l.spellings, entry.1.isWord = false →
    entry.1.chars.head?.any isNameChar = false := by
  cases l <;> decide

theorem Level.rank_operands_lt (l : Level) : l.operands.rank < l.rank := by
  cases l <;> decide

theorem skipGaps_spelling {l : Level} {entry : Spelling × BinaryOp} {g : List Char}
    (hg : IsGaps g) (h : entry ∈ l.spellings) (r : List Char) :
    skipGaps (g ++ (entry.1.chars ++ r)) = entry.1.chars ++ r := by
  have hmark := l.head_no_mark entry h
  have hne := l.ordered.1 entry h
  rw [skipGaps_append hg]
  cases hchars : entry.1.chars with
  | nil => exact absurd hchars hne
  | cons c chars =>
    rw [hchars] at hmark
    exact skipGaps_cons (by simp_all) _

theorem stops_operator {l : Level} {entry : Spelling × BinaryOp} {g : List Char}
    (h : entry ∈ l.spellings) (hg : entry.1.Beside g) (r : List Char) :
    Stops l.operands (g ++ (entry.1.chars ++ r)) := by
  have hne := l.ordered.1 entry h
  have hmark := l.head_no_mark entry h
  have hword := l.isWord_of_head entry h
  have htighter : ∀ tighter : Level, tighter.rank < l.rank → ∀ other ∈ tighter.spellings,
      other.1.chars.head? ≠ entry.1.chars.head? :=
    fun tighter hrank => Level.head_ne_of_tighter hrank entry h
  obtain ⟨hgaps, hbeside⟩ := hg
  cases hchars : entry.1.chars with
  | nil => exact absurd hchars hne
  | cons c chars =>
    simp only [hchars, List.head?_cons, Option.all_some, Option.any_some, Bool.and_eq_true,
      Bool.not_eq_true', bne_iff_ne] at hmark hword htighter
    obtain ⟨⟨⟨hgap, hpoint⟩, hbracket⟩, hparen⟩ := hmark
    refine stops_cons hgaps hgap ?_ ⟨hpoint, hbracket, hparen⟩ ?_ (chars ++ r)
    · intro hempty
      cases hisWord : entry.1.isWord with
      | false => exact hword hisWord
      | true => exact absurd hempty (hbeside hisWord)
    · intro tighter hrank
      exact htighter tighter (hrank.trans_lt l.rank_operands_lt)

/-! ### The text in front of an operand -/

/-- A written expression begins with a character that is no gap and does not make a sign a
longer one. -/
theorem exists_head_of_written {p : Place} {e : Expr} {s : List Char} (h : Written p e s) :
    ∃ c r, s = c :: r ∧ Text.isGap c = false ∧ c ≠ '=' := by
  induction h with
  | operand h ih => exact ih
  | binary hop hleft hg hg' hright ih _ =>
    obtain ⟨c, r, rfl, hc⟩ := ih
    exact ⟨c, _, rfl, hc⟩
  | not hop hg h ih =>
    rcases List.mem_pair.mp hop with rfl | rfl
    · exact ⟨'!', _, rfl, by decide⟩
    · exact ⟨'n', _, rfl, by decide⟩
  | negate hg h ih => exact ⟨'-', _, rfl, by decide⟩
  | postfixed h ih => exact ih
  | member h hg hg' hname ih =>
    obtain ⟨c, r, rfl, hc⟩ := ih
    exact ⟨c, _, rfl, hc⟩
  | call h hg hg' hmethod hi hi' ih =>
    obtain ⟨c, r, rfl, hc⟩ := ih
    exact ⟨c, _, rfl, hc⟩
  | index h hg hi hkey hi' ih _ =>
    obtain ⟨c, r, rfl, hc⟩ := ih
    exact ⟨c, _, rfl, hc⟩
  | parens hi h hi' ih => exact ⟨'(', _, rfl, by decide⟩
  | @literal value s h =>
    cases h with
    | null => exact ⟨'n', _, rfl, by decide⟩
    | bool b =>
      cases b with
      | false => exact ⟨'f', _, rfl, by decide⟩
      | true => exact ⟨'t', _, rfl, by decide⟩
    | whole hne hdigits hvalue hsigned =>
      cases s with
      | nil => exact absurd rfl hne
      | cons c r =>
        have hc : c.isDigit = true := hdigits c List.mem_cons_self
        exact ⟨c, r, rfl, isGap_of_isNameChar (isNameChar_of_isDigit hc),
          ne_of_test hc (by decide)⟩
    | string hquote h =>
      rcases hquote with rfl | rfl
      · exact ⟨'\'', _, rfl, by decide⟩
      · exact ⟨'"', _, rfl, by decide⟩
  | @named name hname hfree =>
    obtain ⟨c, rest, hchars, hc, -⟩ := exists_of_isName hname
    exact ⟨c, rest, hchars, isGap_of_isNameChar (isNameChar_of_isNameStart hc),
      ne_of_test hc (by decide)⟩

theorem skipGaps_written {p : Place} {e : Expr} {s g : List Char} (h : Written p e s)
    (hg : IsGaps g) (r : List Char) : skipGaps (g ++ (s ++ r)) = s ++ r := by
  obtain ⟨c, t, rfl, hc, -⟩ := exists_head_of_written h
  rw [skipGaps_append hg]
  exact skipGaps_cons hc _

theorem endsAt_written {p : Place} {e : Expr} {spelling : Spelling} {s g : List Char}
    (hg : spelling.Beside g) (h : Written p e s) (r : List Char) :
    spelling.endsAt (g ++ (s ++ r)) = true := by
  obtain ⟨hgaps, hbeside⟩ := hg
  obtain ⟨c, t, rfl, -, hc⟩ := exists_head_of_written h
  cases g with
  | nil =>
    cases spelling with
    | sign text => simpa [Spelling.endsAt] using hc
    | word text => exact absurd rfl (hbeside rfl)
  | cons d g =>
    have hd : Text.isGap d = true := hgaps d List.mem_cons_self
    cases spelling with
    | sign text =>
      have hne : d ≠ '=' := ne_of_test hd (by decide)
      simpa [Spelling.endsAt] using hne
    | word text => simp [Spelling.endsAt, isNameChar_of_isGap hd]

/-! ### The front of a postfixed expression -/

def NoSign (s : List Char) : Prop :=
  ∀ k, Ends k → negation? (s ++ k) = none ∧ strip? ['-'] (s ++ k) = none

theorem noSign_cons {c : Char} {s : List Char}
    (hnegation : ∀ spelling ∈ negations, spelling.chars.head? ≠ some c) (hminus : c ≠ '-') :
    NoSign (c :: s) := by
  intro k hk
  refine ⟨List.findSome?_eq_none_iff.mpr ?_, strip?_eq_none ?_⟩
  · intro spelling hspelling
    have hne : spelling.chars ≠ [] := by
      revert spelling
      decide
    exact Spelling.strip?_cons_eq_none hne (hnegation spelling hspelling)
  · intro hp
    exact hminus (List.cons_prefix_cons.mp hp).1.symm

theorem noSign_name (name : String) (hname : isName name = true) (hnot : name ≠ "not") :
    NoSign name.toList := by
  intro k hk
  obtain ⟨c, rest, hchars, hc, -⟩ := exists_of_isName hname
  have hnotName : isName "not" = true := by decide
  have hword : (Spelling.word "not").strip? (name.toList ++ k) = none := by
    refine Spelling.strip?_word_eq_none (isNameChar_of_mem hname) (isNameChar_of_mem hnotName) ?_ hk
    intro heq
    exact hnot (String.toList_inj.mp heq.symm)
  have hbang : (Spelling.sign "!").strip? (name.toList ++ k) = none := by
    have hne : c ≠ '!' := ne_of_test hc (by decide)
    rw [hchars]
    exact Spelling.strip?_cons_eq_none (by decide) (by simpa [Spelling.chars] using hne.symm)
  have hminus : c ≠ '-' := ne_of_test hc (by decide)
  refine ⟨?_, ?_⟩
  · rw [negation?, negations, List.findSome?_cons, hbang, List.findSome?_cons, hword]
    rfl
  · rw [hchars]
    exact strip?_eq_none fun hp => hminus (List.cons_prefix_cons.mp hp).1.symm

theorem noSign_literal {value : Value} {s : List Char} (h : WrittenLiteral value s) :
    NoSign s := by
  cases h with
  | null => exact noSign_name "null" (by decide) (by decide)
  | bool b =>
    cases b with
    | false => exact noSign_name "false" (by decide) (by decide)
    | true => exact noSign_name "true" (by decide) (by decide)
  | whole hne hdigits hvalue hsigned =>
    cases s with
    | nil => exact absurd rfl hne
    | cons c s =>
      have hheads : ∀ spelling ∈ negations, spelling.chars.head?.any Char.isDigit = false := by
        decide
      have hc : c.isDigit = true := hdigits c List.mem_cons_self
      exact noSign_cons (fun spelling h => head?_ne_of_test hc (hheads spelling h))
        (ne_of_test hc (by decide))
  | string hquote h =>
    rcases hquote with rfl | rfl
    · exact noSign_cons (by decide) (by decide)
    · exact noSign_cons (by decide) (by decide)

theorem noSign_append {s t : List Char} (h : NoSign s) (ht : ∀ k, Ends (t ++ k)) :
    NoSign (s ++ t) := by
  intro k hk
  rw [List.append_assoc]
  exact h (t ++ k) (ht k)

theorem ends_suffix {g : List Char} {c : Char} (hg : IsGaps g) (hc : c = '.' ∨ c = '[')
    (t k : List Char) : Ends ((g ++ c :: t) ++ k) := by
  rw [List.append_assoc]
  refine ends_append hg fun _ => ends_cons ?_ _
  rcases hc with rfl | rfl <;> decide

/-- **A postfixed expression does not begin with a sign of negation.** -/
theorem noSign_written {p : Place} {e : Expr} {s : List Char} (h : Written p e s)
    (hp : p = .postfixed) : NoSign s := by
  induction h with
  | member h hg hg' hname ih => exact noSign_append (ih hp) (ends_suffix hg (.inl rfl) _)
  | call h hg hg' hmethod hi hi' ih => exact noSign_append (ih hp) (ends_suffix hg (.inl rfl) _)
  | index h hg hi hkey hi' ih _ => exact noSign_append (ih hp) (ends_suffix hg (.inr rfl) _)
  | parens hi h hi' ih => exact noSign_cons (by decide) (by decide)
  | literal h => exact noSign_literal h
  | @named name hname hfree =>
    refine noSign_name name hname ?_
    rintro rfl
    exact hfree (by decide)
  | operand h ih => cases hp
  | binary hop hleft hg hg' hright ih ih' => cases hp
  | not hop hg h ih => cases hp
  | negate hg h ih => cases hp
  | postfixed h ih => cases hp

/-! ### Reading -/

/-- The parser reads the text of an expression and goes on behind it: with the operators of
the level, or with the suffixes. -/
def Reads : Place → Expr → List Char → Prop
  | .level l, e, s => ∀ g k, IsGaps g → Stops l.operands k →
    (chain l (g ++ (s ++ k))).result? = (links l e k).result?
  | .unary, e, s => ∀ g k, IsGaps g → Stops .unary k →
    (unary (g ++ (s ++ k))).result? = some (e, k)
  | .postfixed, e, s => ∀ g k, IsGaps g → Delimits k →
    (postfixed (g ++ (s ++ k))).result? = (suffixes e k).result?

/-- An expression is read where it stands if the text behind it does not go on with it. -/
theorem Reads.readAt {p : Place} {e : Expr} {s g k : List Char} (h : Reads p e s)
    (hg : IsGaps g) (hk : Stops p k) : readAt p (g ++ (s ++ k)) = some (e, k) := by
  cases p with
  | level l =>
    have hoperands : Stops l.operands k := hk.mono l.rank_operands_lt.le
    have hnone : operator? l (skipGaps k) = none := hk.operator l le_rfl
    exact (h g k hg hoperands).trans (links_of_none e hnone)
  | unary => exact h g k hg hk
  | postfixed => exact (h g k hg hk.delimits).trans (suffixes_of_none e hk.member?_eq_none hk.index)

theorem Reads.unary {e : Expr} {s : List Char} (h : Reads .postfixed e s)
    (hs : Written .postfixed e s) : Reads .unary e s := by
  intro g k hg hk
  have hskip := skipGaps_written hs hg k
  obtain ⟨hnegation, hminus⟩ := noSign_written hs rfl k hk.ends
  rw [unary_of_postfixed (by rw [hskip]; exact hnegation) (by rw [hskip]; exact hminus), hskip]
  exact h.readAt isGaps_nil (hk.mono (Nat.zero_le _))

/-- Operands with an operator between them are read from the left. -/
theorem Reads.binary {l : Level} {spelling : Spelling} {op : BinaryOp} {left right : Expr}
    {s t g g' : List Char} (hop : (spelling, op) ∈ l.spellings)
    (hleft : Reads (.level l) left s) (hg : spelling.Beside g) (hg' : spelling.Beside g')
    (hright : Reads l.operands right t) (ht : Written l.operands right t) :
    Reads (.level l) (.binary op left right) (s ++ (g ++ (spelling.chars ++ (g' ++ t)))) := by
  intro i k hi hk
  have hends : spelling.endsAt (g' ++ (t ++ k)) = true := endsAt_written hg' ht k
  have hoperator : (operator? l (skipGaps (g ++ (spelling.chars ++ (g' ++ (t ++ k)))))).map
      (Prod.map id Subtype.val) = some (op, g' ++ (t ++ k)) := by
    rw [skipGaps_spelling hg.1 hop]
    exact operator?_append hop hends
  have hoperand : (operand l (g' ++ (t ++ k))).result? = some (right, k) := by
    rw [operand_result]
    exact hright.readAt hg'.1 hk
  have htext : i ++ (s ++ (g ++ (spelling.chars ++ (g' ++ t))) ++ k) =
      i ++ (s ++ (g ++ (spelling.chars ++ (g' ++ (t ++ k))))) := by
    simp only [List.append_assoc]
  rw [htext]
  -- The left part stops at the operator, and the links take it from there.
  exact (hleft i _ hi (stops_operator hop hg _)).trans (links_of_operator left hoperator hoperand)

/-! ### Suffixes -/

theorem delimits_cons {g : List Char} {c : Char} {t : List Char} (hg : IsGaps g)
    (hname : isNameChar c = false) (hcall : '(' ≠ c) (hgap : Text.isGap c = false)
    (hpoint : c = '.' → t.head?.any Char.isDigit = false) : Delimits (g ++ c :: t) := by
  refine ⟨ends_append hg fun _ => ends_cons hname t, ?_,
    emptyCall?_eq_none (mark?_eq_none hg hgap hcall t)⟩
  intro r heq
  cases g with
  | nil =>
    obtain ⟨rfl, rfl⟩ := List.cons.inj heq
    exact hpoint rfl
  | cons d g =>
    have hd : Text.isGap d = true := hg d List.mem_cons_self
    rw [(List.cons.inj heq).1] at hd
    cases hd

theorem head_isDigit_of_name {g : List Char} {name : String} (hg : IsGaps g)
    (hname : isName name = true) (r : List Char) :
    (g ++ (name.toList ++ r)).head?.any Char.isDigit = false := by
  cases g with
  | nil =>
    obtain ⟨c, rest, hchars, hc, -⟩ := exists_of_isName hname
    rw [hchars]
    exact isDigit_of_isNameStart hc
  | cons d g =>
    have hd : Text.isGap d = true := hg d List.mem_cons_self
    cases hdigit : d.isDigit with
    | false => exact hdigit
    | true =>
      rw [isGap_of_isNameChar (isNameChar_of_isDigit hdigit)] at hd
      cases hd

section Suffixes

variable {base : Expr} {name : String} {s g g' : List Char}

theorem Reads.member (h : Reads .postfixed base s) (hg : IsGaps g) (hg' : IsGaps g')
    (hname : isName name = true) :
    Reads .postfixed (.member base name) (s ++ (g ++ '.' :: (g' ++ name.toList))) := by
  intro i k hi hk
  have hdelimits : Delimits (g ++ '.' :: (g' ++ (name.toList ++ k))) :=
    delimits_cons hg (by decide) (by decide) (by decide)
      fun _ => head_isDigit_of_name hg' hname k
  have hmember := member?_append hg hg' hname hk.ends
  have htext : i ++ (s ++ (g ++ '.' :: (g' ++ name.toList)) ++ k) =
      i ++ (s ++ (g ++ '.' :: (g' ++ (name.toList ++ k)))) := by
    simp only [List.append_assoc, List.cons_append]
  rw [htext]
  exact (h i _ hi hdelimits).trans (suffixes_of_member base hmember hk.call)

theorem isName_of_method {method : Method} (h : Method.ofName? name = some method) :
    isName name = true := by
  have hnames : name ∈ ["size", "length", "isEmpty", "trim", "toUpperCase", "toLowerCase"] := by
    by_contra hnone
    simp only [List.mem_cons, List.not_mem_nil, or_false, not_or] at hnone
    simp [Method.ofName?, hnone] at h
  have hall : ∀ name ∈ ["size", "length", "isEmpty", "trim", "toUpperCase", "toLowerCase"],
      isName name = true := by
    decide
  exact hall name hnames

theorem Reads.call {method : Method} {j j' : List Char} (h : Reads .postfixed base s)
    (hg : IsGaps g) (hg' : IsGaps g') (hmethod : Method.ofName? name = some method)
    (hj : IsGaps j) (hj' : IsGaps j') :
    Reads .postfixed (.call base method)
      (s ++ (g ++ '.' :: (g' ++ (name.toList ++ (j ++ '(' :: (j' ++ [')'])))))) := by
  intro i k hi hk
  have hname := isName_of_method hmethod
  have hends : Ends (j ++ '(' :: (j' ++ ')' :: k)) :=
    ends_append hj fun _ => ends_cons (by decide) _
  have hdelimits : Delimits (g ++ '.' :: (g' ++ (name.toList ++ (j ++ '(' :: (j' ++ ')' :: k))))) :=
    delimits_cons hg (by decide) (by decide) (by decide)
      fun _ => head_isDigit_of_name hg' hname _
  have hmember := member?_append hg hg' hname hends
  have htext : i ++ (s ++ (g ++ '.' :: (g' ++ (name.toList ++ (j ++ '(' :: (j' ++ [')']))))) ++ k) =
      i ++ (s ++ (g ++ '.' :: (g' ++ (name.toList ++ (j ++ '(' :: (j' ++ ')' :: k)))))) := by
    simp only [List.append_assoc, List.cons_append, List.nil_append]
  rw [htext]
  exact (h i _ hi hdelimits).trans
    (suffixes_of_call base hmember (emptyCall?_append hj hj' k) hmethod)

theorem Reads.index {key : Expr} {t j j' : List Char} (h : Reads .postfixed base s)
    (hg : IsGaps g) (hj : IsGaps j) (hkey : Reads (.level .disjunction) key t) (hj' : IsGaps j') :
    Reads .postfixed (.index base key) (s ++ (g ++ '[' :: (j ++ (t ++ (j' ++ [']']))))) := by
  intro i k hi hk
  have hdelimits : Delimits (g ++ '[' :: (j ++ (t ++ (j' ++ ']' :: k)))) :=
    delimits_cons hg (by decide) (by decide) (by decide)
      fun heq => absurd heq (by decide)
  have hmember : member? (g ++ '[' :: (j ++ (t ++ (j' ++ ']' :: k)))) = none :=
    member?_eq_none (mark?_eq_none hg (by decide) (by decide) _)
  have hopen := mark?_append (c := '[') hg (by decide) (j ++ (t ++ (j' ++ ']' :: k)))
  have hread : (chain .disjunction (j ++ (t ++ (j' ++ ']' :: k)))).result? =
      some (key, j' ++ ']' :: k) :=
    hkey.readAt hj (stops_close hj' (.inr rfl) k)
  have hclose := mark?_append (c := ']') hj' (by decide) k
  have htext : i ++ (s ++ (g ++ '[' :: (j ++ (t ++ (j' ++ [']'])))) ++ k) =
      i ++ (s ++ (g ++ '[' :: (j ++ (t ++ (j' ++ ']' :: k))))) := by
    simp only [List.append_assoc, List.cons_append, List.nil_append]
  rw [htext]
  exact (h i _ hi hdelimits).trans (suffixes_of_index base hmember hopen hread hclose)

end Suffixes

/-! ### Primary expressions and signs -/

theorem Reads.parens {e : Expr} {s j j' : List Char} (h : Reads (.level .disjunction) e s)
    (hj : IsGaps j) (hj' : IsGaps j') : Reads .postfixed e ('(' :: (j ++ (s ++ (j' ++ [')'])))) := by
  intro i k hi hk
  have hread : (chain .disjunction (j ++ (s ++ (j' ++ ')' :: k)))).result? =
      some (e, j' ++ ')' :: k) :=
    h.readAt hj (stops_close hj' (.inl rfl) k)
  have hclose := mark?_append (c := ')') hj' (by decide) k
  have htext : i ++ ('(' :: (j ++ (s ++ (j' ++ [')']))) ++ k) =
      i ++ '(' :: (j ++ (s ++ (j' ++ ')' :: k))) := by
    simp only [List.append_assoc, List.cons_append, List.nil_append]
  rw [htext, postfixed_result, skipGaps_append hi, skipGaps_cons (by decide),
    primary_of_parens hread hclose]
  rfl

theorem literal_ne_parens {value : Value} {s : List Char} (h : WrittenLiteral value s)
    (t : List Char) : s ≠ '(' :: t := by
  rintro rfl
  generalize hs : '(' :: t = s at h
  cases h with
  | null => exact absurd (List.cons.inj hs).1 (by decide)
  | bool b => cases b <;> exact absurd (List.cons.inj hs).1 (by decide)
  | whole hne hdigits hvalue hsigned =>
    subst hs
    exact absurd (hdigits '(' List.mem_cons_self) (by decide)
  | string hquote h =>
    rcases hquote with rfl | rfl
    · exact absurd (List.cons.inj hs).1 (by decide)
    · exact absurd (List.cons.inj hs).1 (by decide)

theorem name_ne_parens {name : String} (hname : isName name = true) (t : List Char) :
    name.toList ≠ '(' :: t := by
  intro hs
  obtain ⟨c, rest, hchars, hc, -⟩ := exists_of_isName hname
  rw [hchars] at hs
  exact absurd (List.cons.inj hs).1 (ne_of_test hc (by decide))

theorem Reads.atom {e : Expr} {s : List Char} (hs : Written .postfixed e s)
    (hopen : ∀ t, s ≠ '(' :: t)
    (h : ∀ k, Delimits k → (atom (s ++ k)).result? = some (e, k)) : Reads .postfixed e s := by
  intro i k hi hk
  have hprimary : (primary (s ++ k)).result? = some (e, k) := by
    have hfront : ∀ t, s ++ k ≠ '(' :: t := by
      intro t heq
      obtain ⟨c, r, rfl, -⟩ := exists_head_of_written hs
      obtain rfl := (List.cons.inj heq).1
      exact hopen r rfl
    rw [primary_of_atom hfront]
    exact h k hk
  rw [postfixed_result, skipGaps_written hs hi, hprimary]
  rfl

theorem Reads.not {e : Expr} {spelling : Spelling} {s g : List Char}
    (hop : spelling ∈ negations) (hg : spelling.Beside g) (h : Reads .unary e s)
    (hs : Written .unary e s) : Reads .unary (.not e) (spelling.chars ++ (g ++ s)) := by
  intro i k hi hk
  have hskip : skipGaps (i ++ (spelling.chars ++ (g ++ (s ++ k)))) =
      spelling.chars ++ (g ++ (s ++ k)) := by
    rw [skipGaps_append hi]
    rcases List.mem_pair.mp hop with rfl | rfl
    · exact skipGaps_cons (by decide) _
    · exact skipGaps_cons (by decide) _
  have htext : i ++ (spelling.chars ++ (g ++ s) ++ k) =
      i ++ (spelling.chars ++ (g ++ (s ++ k))) := by
    simp only [List.append_assoc]
  rw [htext]
  refine unary_of_negation ?_ (h g k hg.1 hk)
  rw [hskip]
  exact negation?_append hop (endsAt_written hg hs k)

theorem Reads.negate {e : Expr} {s g : List Char} (hg : IsGaps g) (h : Reads .unary e s) :
    Reads .unary (.negate e) ('-' :: (g ++ s)) := by
  intro i k hi hk
  have hskip : skipGaps (i ++ '-' :: (g ++ (s ++ k))) = '-' :: (g ++ (s ++ k)) := by
    rw [skipGaps_append hi, skipGaps_cons (by decide)]
  have htext : i ++ ('-' :: (g ++ s) ++ k) = i ++ '-' :: (g ++ (s ++ k)) := by
    simp only [List.append_assoc, List.cons_append]
  rw [htext]
  refine unary_of_minus ?_ ?_ (h g k hg hk)
  · rw [hskip]
    refine List.findSome?_eq_none_iff.mpr ?_
    intro spelling hspelling
    rcases List.mem_pair.mp hspelling with rfl | rfl
    · exact Spelling.strip?_cons_eq_none (by decide) (by decide)
    · exact Spelling.strip?_cons_eq_none (by decide) (by decide)
  · rw [hskip, ← List.singleton_append]
    exact Text.strip?_append (by simp)

/-- **The parser reads what is written**, part by part. -/
theorem reads_of_written {p : Place} {e : Expr} {s : List Char} (h : Written p e s) :
    Reads p e s := by
  induction h with
  | @operand l e s h ih =>
    intro g k hg hk
    have hoperand : (operand l (g ++ (s ++ k))).result? = some (e, k) := by
      rw [operand_result]
      exact ih.readAt hg hk
    rw [chain_result, hoperand]
    rfl
  | binary hop hleft hg hg' hright ih ih' => exact ih.binary hop hg hg' ih' hright
  | not hop hg h ih => exact ih.not hop hg h
  | negate hg h ih => exact ih.negate hg
  | postfixed h ih => exact ih.unary h
  | member h hg hg' hname ih => exact ih.member hg hg' hname
  | call h hg hg' hmethod hi hi' ih => exact ih.call hg hg' hmethod hi hi'
  | index h hg hi hkey hi' ih ih' => exact ih.index hg hi ih' hi'
  | parens hi h hi' ih => exact ih.parens hi hi'
  | @literal value s h =>
    exact Reads.atom (.literal h) (literal_ne_parens h)
      fun k hk => atom_literal h hk.ends hk.numeral
  | @named name hname hfree =>
    exact Reads.atom (.named hname hfree) (name_ne_parens hname)
      fun k hk => atom_variable hname hfree hk.ends

/-- **A text that writes an expression is read as this expression.** -/
theorem parse_of_renders {e : Expr} {text : String} (h : e.Renders text) : parse text = .ok e := by
  obtain ⟨g, s, g', hg, hg', htext, hs⟩ := h
  have hread : (chain .disjunction text.toList).result? = some (e, g') := by
    rw [htext]
    exact (reads_of_written hs).readAt hg (stops_of_isGaps hg')
  obtain ⟨hshort, hchain⟩ := Outcome.exists_of_result? hread
  simp only [parse, hchain, skipGaps_of_isGaps hg']
  rfl

end QueryTemplate.Expr
