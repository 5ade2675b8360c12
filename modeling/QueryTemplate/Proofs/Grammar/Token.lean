import QueryTemplate.Proofs.Grammar.Basic
import Mathlib.Data.List.Infix
import Mathlib.Tactic.IntervalCases

/-!
# Reading the tokens of an expression

What each step of the parser takes off the front of a text, said by what the text begins
with.  A name or a numeral ends where no character of a name follows, and a word is taken
only there, so that no word is found at the front of another name
(`Spelling.strip?_word_eq_none`); a sign is never mistaken for a longer one of its level
(`operator?_append`).

* `operator?_append`, `operator?_cons_eq_none`: which operator stands in front.
* `atom_literal`, `atom_variable`: a literal and a variable are read back.
-/

namespace QueryTemplate.Expr

open Text (IsGaps Shorter skipGaps strip?)

/-! ### Characters -/

theorem isNameChar_of_isNameStart {c : Char} (h : isNameStart c = true) : isNameChar c = true := by
  simp only [isNameStart, isNameChar, Text.isLetter, Text.isAlphanumeric, Bool.or_eq_true] at h ⊢
  rcases h with (h | h) | h
  · exact .inl (.inl (.inl h))
  · exact .inl (.inr h)
  · exact .inr h

theorem name_of_isDigit {c : Char} (h : c.isDigit = true) :
    isNameChar c = true ∧ isNameStart c = false := by
  have hrange : 48 ≤ c.toNat ∧ c.toNat ≤ 57 := Char.isDigit_iff_toNat.mp h
  rw [← Char.ofNat_toNat c]
  generalize c.toNat = n at hrange
  obtain ⟨hlow, hhigh⟩ := hrange
  interval_cases n <;> decide

theorem isNameChar_of_isDigit {c : Char} (h : c.isDigit = true) : isNameChar c = true :=
  (name_of_isDigit h).1

theorem isDigit_of_isNameStart {c : Char} (h : isNameStart c = true) : c.isDigit = false := by
  cases hdigit : c.isDigit with
  | false => rfl
  | true =>
    rw [(name_of_isDigit hdigit).2] at h
    cases h

theorem isNameChar_of_isGap {c : Char} (h : Text.isGap c = true) : isNameChar c = false := by
  simp only [Text.isGap, Bool.or_eq_true, beq_iff_eq] at h
  rcases h with ((rfl | rfl) | rfl) | rfl <;> decide

theorem isGap_of_isNameChar {c : Char} (h : isNameChar c = true) : Text.isGap c = false := by
  cases hgap : Text.isGap c with
  | false => rfl
  | true => rw [isNameChar_of_isGap hgap] at h; cases h

theorem ne_of_test {p : Char → Bool} {c d : Char} (hc : p c = true) (hd : p d = false) :
    c ≠ d := by
  rintro rfl
  rw [hc] at hd
  cases hd

theorem head?_ne_of_test {p : Char → Bool} {s : List Char} {c : Char} (hc : p c = true)
    (hs : s.head?.any p = false) : s.head? ≠ some c := by
  intro h
  rw [h, Option.any_some, hc] at hs
  cases hs

/-! ### Gaps -/

theorem isGaps_nil : IsGaps [] := by
  intro c hc
  cases hc

theorem skipGaps_append {g : List Char} (hg : IsGaps g) (s : List Char) :
    skipGaps (g ++ s) = skipGaps s :=
  List.dropWhile_append_of_pos hg

theorem skipGaps_of_isGaps {g : List Char} (hg : IsGaps g) : skipGaps g = [] := by
  rw [← List.append_nil g, skipGaps_append hg]
  rfl

theorem skipGaps_cons {c : Char} (h : Text.isGap c = false) (s : List Char) :
    skipGaps (c :: s) = c :: s := by
  rw [skipGaps, List.dropWhile_cons_of_neg (by simp [h])]

def Ends (r : List Char) : Prop :=
  r.head?.any isNameChar = false

theorem ends_nil : Ends [] := rfl

theorem ends_cons {c : Char} (h : isNameChar c = false) (r : List Char) : Ends (c :: r) := h

theorem ends_append {g r : List Char} (hg : IsGaps g) (hr : g = [] → Ends r) : Ends (g ++ r) := by
  cases g with
  | nil => exact hr rfl
  | cons c g => exact ends_cons (isNameChar_of_isGap (hg c List.mem_cons_self)) _

theorem takeWhile_append {p : Char → Bool} {s r : List Char} (hs : ∀ c ∈ s, p c = true)
    (hr : r.head?.any p = false) : (s ++ r).takeWhile p = s := by
  rw [List.takeWhile_append_of_pos hs]
  cases r with
  | nil => exact List.append_nil s
  | cons c r =>
    have hc : ¬ p c = true := by simpa using hr
    rw [List.takeWhile_cons_of_neg hc, List.append_nil]

theorem dropWhile_append {p : Char → Bool} {s r : List Char} (hs : ∀ c ∈ s, p c = true)
    (hr : r.head?.any p = false) : (s ++ r).dropWhile p = r := by
  rw [List.dropWhile_append_of_pos hs]
  cases r with
  | nil => rfl
  | cons c r =>
    have hc : ¬ p c = true := by simpa using hr
    rw [List.dropWhile_cons_of_neg hc]

/-! ### Signs and words -/

theorem map_strip? {token : List Char} (h : token ≠ []) (s : List Char) :
    (strip? token s).map Subtype.val =
      if token.isPrefixOf s then some (s.drop token.length) else none := by
  by_cases hp : token.isPrefixOf s = true
  · rw [strip?, dif_pos ⟨h, hp⟩, if_pos hp]
    rfl
  · rw [strip?, dif_neg (fun hc => hp hc.2), if_neg hp]
    rfl

theorem strip?_eq_none {token s : List Char} (h : ¬ token <+: s) : strip? token s = none := by
  rw [strip?, dif_neg (fun hc => h (List.isPrefixOf_iff_prefix.mp hc.2))]

theorem prefix_append_cases {t s r : List Char} (h : t <+: s ++ r) :
    t <+: s ∨ ∃ u, u ≠ [] ∧ t = s ++ u ∧ u <+: r := by
  by_cases hlen : t.length ≤ s.length
  · exact .inl (List.prefix_of_prefix_length_le h (List.prefix_append s r) hlen)
  · obtain ⟨u, rfl⟩ := List.prefix_of_prefix_length_le (List.prefix_append s r) h (by omega)
    refine .inr ⟨u, ?_, rfl, (List.prefix_append_right_inj s).mp h⟩
    rintro rfl
    simp at hlen

namespace Spelling

def endsAt : Spelling → List Char → Bool
  | .sign _, r => r.head? != some '='
  | .word _, r => !r.head?.any isNameChar

/-- Whether the spelling, if it is tried first, leaves the other one alone. -/
def yields (tried other : Spelling) : Bool :=
  !tried.chars.isPrefixOf other.chars &&
    !(other.chars.isPrefixOf tried.chars && other.endsAt (tried.chars.drop other.chars.length))

theorem endsAt_of_prefix {spelling : Spelling} {u r : List Char} (hne : u ≠ []) (h : u <+: r) :
    spelling.endsAt u = spelling.endsAt r := by
  obtain ⟨t, rfl⟩ := h
  cases u with
  | nil => exact absurd rfl hne
  | cons c u => cases spelling <;> rfl

theorem strip?_of_not_prefix {spelling : Spelling} {s : List Char}
    (h : ¬ spelling.chars <+: s) : spelling.strip? s = none := by
  cases spelling with
  | sign text => exact strip?_eq_none h
  | word text =>
    have hnone : Text.strip? text.toList s = none := strip?_eq_none h
    rw [strip?, hnone, Option.filter_none]

theorem map_strip?_word (text : String) (s : List Char) :
    ((word text).strip? s).map Subtype.val =
      ((Text.strip? text.toList s).map Subtype.val).filter fun r => !r.head?.any isNameChar := by
  rw [Option.filter_map]
  rfl

theorem strip?_append {spelling : Spelling} {r : List Char} (h : spelling.chars ≠ [])
    (hr : spelling.endsAt r = true) :
    (spelling.strip? (spelling.chars ++ r)).map Subtype.val = some r := by
  have hstrip := @Text.strip?_append _ r h
  cases spelling with
  | sign text => exact hstrip
  | word text =>
    rw [map_strip?_word]
    exact (congrArg _ hstrip).trans (Option.filter_some_pos hr)

/-- A spelling that yields is not taken where the other one is written. -/
theorem strip?_eq_none_of_yields {tried other : Spelling} {r : List Char}
    (h : tried.yields other = true) (hr : other.endsAt r = true) :
    tried.strip? (other.chars ++ r) = none := by
  simp only [yields, Bool.and_eq_true, Bool.not_eq_true', Bool.and_eq_false_iff] at h
  obtain ⟨hshort, hlong⟩ := h
  apply strip?_of_not_prefix
  intro hp
  rcases prefix_append_cases hp with hp | ⟨u, hu, heq, hp⟩
  · rw [List.isPrefixOf_iff_prefix.mpr hp] at hshort
    cases hshort
  · rcases hlong with hlong | hlong
    · rw [List.isPrefixOf_iff_prefix.mpr ⟨u, heq.symm⟩] at hlong
      cases hlong
    · rw [heq, List.drop_left, endsAt_of_prefix hu hp, hr] at hlong
      cases hlong

theorem strip?_cons_eq_none {spelling : Spelling} {c : Char} {s : List Char}
    (hne : spelling.chars ≠ []) (h : spelling.chars.head? ≠ some c) :
    spelling.strip? (c :: s) = none := by
  apply strip?_of_not_prefix
  intro hp
  cases hchars : spelling.chars with
  | nil => exact hne hchars
  | cons d chars =>
    rw [hchars] at hp h
    exact h (congrArg some (List.cons_prefix_cons.mp hp).1)

theorem strip?_word_eq_none {text : String} {name r : List Char}
    (hname : ∀ c ∈ name, isNameChar c = true) (htext : ∀ c ∈ text.toList, isNameChar c = true)
    (hne : text.toList ≠ name) (hr : Ends r) : (word text).strip? (name ++ r) = none := by
  by_cases hp : text.toList <+: name ++ r
  -- Either the name goes on behind the word, or the word goes on behind the name.
  · rcases prefix_append_cases hp with ⟨u, rfl⟩ | ⟨u, hu, heq, t, rfl⟩
    · cases u with
      | nil => exact absurd (List.append_nil _).symm hne
      | cons c u =>
        have hc : isNameChar c = true := hname c (by simp)
        rw [strip?, Option.filter_eq_none_iff]
        intro rest hrest
        have hsplit : text.toList ++ (c :: u ++ r) = text.toList ++ rest.val := by
          rw [← List.append_assoc]
          exact Text.eq_of_strip? hrest
        rw [← List.append_cancel_left hsplit]
        simp [hc]
    · cases u with
      | nil => exact absurd rfl hu
      | cons c u =>
        have hc : isNameChar c = true := htext c (by simp [heq])
        rw [Ends, List.cons_append, List.head?_cons, Option.any_some, hc] at hr
        cases hr
  · exact strip?_of_not_prefix hp

end Spelling

/-! ### Operators -/

def Ordered {α : Type} (spellings : List (Spelling × α)) : Prop :=
  (∀ entry ∈ spellings, entry.1.chars ≠ []) ∧
    spellings.Pairwise fun tried other => tried.1.yields other.1 = true

def firstOf? {α : Type} (spellings : List (Spelling × α)) (s : List Char) :
    Option (α × Shorter s.length) :=
  spellings.findSome? fun entry => (entry.1.strip? s).map fun rest => (entry.2, rest)

/-- The spelling in front of a text is found. -/
theorem firstOf?_append {α : Type} {spellings : List (Spelling × α)} {spelling : Spelling}
    {a : α} {r : List Char} (hordered : Ordered spellings) (h : (spelling, a) ∈ spellings)
    (hr : spelling.endsAt r = true) :
    (firstOf? spellings (spelling.chars ++ r)).map (Prod.map id Subtype.val) = some (a, r) := by
  obtain ⟨hne, hyields⟩ := hordered
  -- All spellings that are tried before this one leave it alone.
  obtain ⟨before, after, rfl⟩ := List.append_of_mem h
  have hnonempty : spelling.chars ≠ [] := hne (spelling, a) h
  obtain ⟨rest, hrest, hval⟩ := Option.map_eq_some_iff.mp (Spelling.strip?_append hnonempty hr)
  have hbefore : ∀ entry ∈ before, entry.1.strip? (spelling.chars ++ r) = none := by
    intro entry hentry
    have hyield := (List.pairwise_append.mp hyields).2.2 entry hentry _ List.mem_cons_self
    exact Spelling.strip?_eq_none_of_yields hyield hr
  have hfound : firstOf? (before ++ (spelling, a) :: after) (spelling.chars ++ r) =
      some (a, rest) := by
    refine List.findSome?_eq_some_iff.mpr ⟨before, _, after, rfl, ?_, ?_⟩
    · rw [hrest]
      rfl
    · intro entry hentry
      rw [hbefore entry hentry]
      rfl
  rw [hfound, Option.map_some, Prod.map_apply, hval]
  rfl

theorem firstOf?_cons_eq_none {α : Type} {spellings : List (Spelling × α)} {c : Char}
    {s : List Char} (hordered : Ordered spellings)
    (h : ∀ entry ∈ spellings, entry.1.chars.head? ≠ some c) :
    firstOf? spellings (c :: s) = none := by
  refine List.findSome?_eq_none_iff.mpr ?_
  intro entry hentry
  rw [Spelling.strip?_cons_eq_none (hordered.1 entry hentry) (h entry hentry)]
  rfl

theorem firstOf?_nil_eq_none {α : Type} {spellings : List (Spelling × α)}
    (hordered : Ordered spellings) : firstOf? spellings [] = none := by
  refine List.findSome?_eq_none_iff.mpr ?_
  intro entry hentry
  have hprefix : ¬ entry.1.chars <+: [] := by
    intro hp
    exact hordered.1 entry hentry (List.prefix_nil.mp hp)
  rw [Spelling.strip?_of_not_prefix hprefix]
  rfl

theorem Level.ordered (l : Level) : Ordered l.spellings := by
  cases l <;> exact ⟨by decide, by decide⟩

theorem operator?_append {l : Level} {spelling : Spelling} {op : BinaryOp} {r : List Char}
    (h : (spelling, op) ∈ l.spellings) (hr : spelling.endsAt r = true) :
    (operator? l (spelling.chars ++ r)).map (Prod.map id Subtype.val) = some (op, r) :=
  firstOf?_append l.ordered h hr

theorem operator?_cons_eq_none {l : Level} {c : Char} {s : List Char}
    (h : ∀ entry ∈ l.spellings, entry.1.chars.head? ≠ some c) : operator? l (c :: s) = none :=
  firstOf?_cons_eq_none l.ordered h

theorem operator?_nil_eq_none (l : Level) : operator? l [] = none :=
  firstOf?_nil_eq_none l.ordered

theorem negation?_append {spelling : Spelling} {r : List Char} (h : spelling ∈ negations)
    (hr : spelling.endsAt r = true) :
    (negation? (spelling.chars ++ r)).map Subtype.val = some r := by
  have hsign : (Spelling.sign "!").yields (.word "not") = true := by decide
  rcases List.mem_pair.mp h with rfl | rfl
  · obtain ⟨rest, hrest, hval⟩ := Option.map_eq_some_iff.mp
      (Spelling.strip?_append (by decide) hr)
    rw [negation?, negations, List.findSome?_cons, hrest]
    exact congrArg some hval
  · obtain ⟨rest, hrest, hval⟩ := Option.map_eq_some_iff.mp
      (Spelling.strip?_append (by decide) hr)
    rw [negation?, negations, List.findSome?_cons, Spelling.strip?_eq_none_of_yields hsign hr,
      List.findSome?_cons, hrest]
    exact congrArg some hval

/-! ### Marks -/

theorem map_mark? {c d : Char} {g : List Char} (hg : IsGaps g) (hd : Text.isGap d = false)
    (r : List Char) :
    (mark? c (g ++ d :: r)).map Subtype.val = if c = d then some r else none := by
  have hskip : skipGaps (g ++ d :: r) = d :: r := by
    rw [skipGaps_append hg, skipGaps_cons hd]
  have hmark : (mark? c (g ++ d :: r)).map Subtype.val =
      (strip? [c] (skipGaps (g ++ d :: r))).map Subtype.val := by
    rw [mark?, Option.map_map]
    rfl
  rw [hmark, hskip, map_strip? (by simp)]
  by_cases hc : c = d
  · rw [if_pos hc, if_pos (by simp [List.isPrefixOf, hc])]
    rfl
  · rw [if_neg hc, if_neg (by simp [List.isPrefixOf, hc])]

theorem mark?_append {c : Char} {g : List Char} (hg : IsGaps g) (hc : Text.isGap c = false)
    (r : List Char) : (mark? c (g ++ c :: r)).map Subtype.val = some r := by
  rw [map_mark? hg hc, if_pos rfl]

theorem mark?_eq_none {c d : Char} {g : List Char} (hg : IsGaps g) (hd : Text.isGap d = false)
    (hne : c ≠ d) (r : List Char) : mark? c (g ++ d :: r) = none := by
  have hnone := map_mark? (c := c) hg hd r
  rw [if_neg hne] at hnone
  exact Option.map_eq_none_iff.mp hnone

theorem mark?_of_isGaps {c : Char} {g : List Char} (hg : IsGaps g) : mark? c g = none := by
  have hnone : strip? [c] (skipGaps g) = none := by
    rw [skipGaps_of_isGaps hg]
    exact strip?_eq_none (by simp)
  rw [mark?, hnone]
  rfl

/-! ### Names, members and calls -/

theorem exists_of_isName {name : String} (h : isName name = true) :
    ∃ c rest, name.toList = c :: rest ∧ isNameStart c = true ∧ ∀ d ∈ rest, isNameChar d = true := by
  rw [isName] at h
  cases hchars : name.toList with
  | nil =>
    rw [hchars] at h
    cases h
  | cons c rest =>
    rw [hchars, Bool.and_eq_true, List.all_eq_true] at h
    exact ⟨c, rest, rfl, h.1, h.2⟩

theorem isNameChar_of_mem {name : String} (h : isName name = true) :
    ∀ c ∈ name.toList, isNameChar c = true := by
  obtain ⟨c, rest, hchars, hc, hrest⟩ := exists_of_isName h
  rw [hchars]
  exact List.forall_mem_cons.mpr ⟨isNameChar_of_isNameStart hc, hrest⟩

theorem name?_append {name : String} {r : List Char} (hname : isName name = true) (hr : Ends r) :
    (name? (name.toList ++ r)).map (Prod.map id Subtype.val) = some (name, r) := by
  obtain ⟨c, rest, hchars, hc, hrest⟩ := exists_of_isName hname
  rw [hchars, List.cons_append, name?, if_pos hc, Option.map_some, Prod.map_apply,
    takeWhile_append hrest hr, ← hchars, String.ofList_toList]
  exact congrArg some (Prod.ext rfl (dropWhile_append hrest hr))

theorem skipGaps_name {name : String} (hname : isName name = true) (r : List Char) :
    skipGaps (name.toList ++ r) = name.toList ++ r := by
  obtain ⟨c, rest, hchars, hc, -⟩ := exists_of_isName hname
  rw [hchars]
  exact skipGaps_cons (isGap_of_isNameChar (isNameChar_of_isNameStart hc)) _

theorem member?_append {name : String} {g g' r : List Char} (hg : IsGaps g) (hg' : IsGaps g')
    (hname : isName name = true) (hr : Ends r) :
    (member? (g ++ '.' :: (g' ++ (name.toList ++ r)))).map (Prod.map id Subtype.val) =
      some (name, r) := by
  obtain ⟨point, hpoint, hval⟩ := Option.map_eq_some_iff.mp
    (mark?_append (c := '.') hg (by decide) (g' ++ (name.toList ++ r)))
  have hread : (name? (skipGaps point.val)).map (Prod.map id Subtype.val) = some (name, r) := by
    rw [hval, skipGaps_append hg', skipGaps_name hname]
    exact name?_append hname hr
  obtain ⟨⟨found, rest⟩, hfound, heq⟩ := Option.map_eq_some_iff.mp hread
  rw [member?, hpoint, Option.bind_eq_bind, Option.bind_some, hfound]
  exact congrArg some heq

theorem member?_eq_none {s : List Char} (h : mark? '.' s = none) : member? s = none := by
  rw [member?, h]
  rfl

theorem emptyCall?_append {g g' : List Char} (hg : IsGaps g) (hg' : IsGaps g') (r : List Char) :
    (emptyCall? (g ++ '(' :: (g' ++ ')' :: r))).map Subtype.val = some r := by
  obtain ⟨start, hstart, hval⟩ := Option.map_eq_some_iff.mp
    (mark?_append (c := '(') hg (by decide) (g' ++ ')' :: r))
  have hend : (mark? ')' start.val).map Subtype.val = some r := by
    rw [hval]
    exact mark?_append hg' (by decide) r
  obtain ⟨rest, hrest, heq⟩ := Option.map_eq_some_iff.mp hend
  rw [emptyCall?, hstart, Option.bind_eq_bind, Option.bind_some, hrest]
  exact congrArg some heq

theorem emptyCall?_eq_none {s : List Char} (h : mark? '(' s = none) : emptyCall? s = none := by
  rw [emptyCall?, h]
  rfl

/-! ### Literals -/

theorem stringBody?_append {quote : Char} {body s : List Char} (hquote : quote ≠ '\\')
    (h : WrittenInside quote body s) (r : List Char) :
    (stringBody? quote (s ++ quote :: r)).map (Prod.map id Subtype.val) = some (body, r) := by
  induction h with
  | nil =>
    rw [List.nil_append, stringBody?, if_pos (beq_self_eq_true quote)]
    · rfl
    · intro c rest heq
      exact absurd heq hquote
  | @itself c body s hne hslash h ih =>
    obtain ⟨⟨found, rest⟩, hfound, heq⟩ := Option.map_eq_some_iff.mp ih
    rw [List.cons_append, stringBody?, if_neg (by simpa using hne), if_neg (by simpa using hslash),
      hfound]
    · obtain ⟨rfl, hrest⟩ := Prod.mk.inj heq
      exact congrArg some (Prod.ext rfl hrest)
    · intro d rest heq
      exact absurd heq hslash
  | @escaped c body s h ih =>
    obtain ⟨⟨found, rest⟩, hfound, heq⟩ := Option.map_eq_some_iff.mp ih
    rw [List.cons_append, List.cons_append, stringBody?, hfound]
    obtain ⟨rfl, hrest⟩ := Prod.mk.inj heq
    exact congrArg some (Prod.ext rfl hrest)

/-- A text in which a numeral does not go on: behind a point there is no digit. -/
def EndsNumeral (r : List Char) : Prop :=
  ∀ t, r = '.' :: t → t.head?.any Char.isDigit = false

theorem numeral?_append {digits r : List Char} (hne : digits ≠ [])
    (hdigits : ∀ c ∈ digits, c.isDigit = true) (hr : Ends r) (hpoint : EndsNumeral r) :
    numeral? (digits ++ r) = (whole? digits).map (·, r) := by
  have hend : r.head?.any Char.isDigit = false := by
    cases r with
    | nil => rfl
    | cons c r =>
      cases hc : c.isDigit with
      | false => exact hc
      | true =>
        rw [Ends, List.head?_cons, Option.any_some, isNameChar_of_isDigit hc] at hr
        cases hr
  have hfront : digits.isEmpty = false := List.isEmpty_eq_false_iff.mpr hne
  simp only [numeral?, takeWhile_append hdigits hend, dropWhile_append hdigits hend, hfront]
  split
  · next hempty => cases hempty
  · split
    · next after =>
      have hnone : after.takeWhile Char.isDigit = [] := by
        have hafter := hpoint after rfl
        cases after with
        | nil => rfl
        | cons c after => exact List.takeWhile_cons_of_neg (by simpa using hafter)
      rw [hnone]
      rfl
    · rfl

theorem numeral?_cons_eq_none {c : Char} (h : c.isDigit = false) (s : List Char) :
    numeral? (c :: s) = none := by
  rw [numeral?, List.takeWhile_cons_of_neg (by simp [h])]
  rfl

def constants : List (Spelling × Value) :=
  [(.word "null", .null), (.word "true", .bool true), (.word "false", .bool false)]

theorem constant?_eq (s : List Char) : constant? s = firstOf? constants s := rfl

theorem ordered_constants : Ordered constants := by
  exact ⟨by decide, by decide⟩

theorem constant?_name {name : String} {r : List Char} (hname : isName name = true)
    (hfree : name ∉ reserved) (hr : Ends r) : constant? (name.toList ++ r) = none := by
  have hwords : ∀ entry ∈ constants, entry.1.strip? (name.toList ++ r) = none := by
    have hword : ∀ text ∈ ["null", "true", "false"],
        (Spelling.word text).strip? (name.toList ++ r) = none := by
      intro text htext
      have hreserved : text ∈ reserved := by
        revert text
        decide
      have hnames : ∀ text ∈ ["null", "true", "false"], isName text = true := by decide
      refine Spelling.strip?_word_eq_none (isNameChar_of_mem hname)
        (isNameChar_of_mem (hnames text htext)) ?_ hr
      intro heq
      rw [String.toList_inj.mp heq] at hreserved
      exact hfree hreserved
    simpa [constants] using hword
  rw [constant?_eq]
  refine List.findSome?_eq_none_iff.mpr ?_
  intro entry hentry
  rw [hwords entry hentry]
  rfl

/-! ### Literals and variables -/

def Outcome.result? {α : Type} {n : Nat} : Outcome α n → Option (α × List Char)
  | .ok value rest _ => some (value, rest)
  | .miss _ => none
  | .halt _ => none

@[simp] theorem Outcome.result?_widen {α : Type} {m n : Nat} (h : m ≤ n) (o : Outcome α m) :
    (o.widen h).result? = o.result? := by
  cases o <;> rfl

theorem atom_of_constant {s r : List Char} {value : Value}
    (h : (constant? s).map (Prod.map id Subtype.val) = some (value, r)) :
    (atom s).result? = some (.literal value, r) := by
  obtain ⟨⟨found, rest⟩, hfound, heq⟩ := Option.map_eq_some_iff.mp h
  obtain ⟨rfl, rfl⟩ := Prod.mk.inj heq
  rw [atom, hfound]
  rfl

theorem atom_of_numeral {s r : List Char} {value : Value} (hconstant : constant? s = none)
    (h : numeral? s = some (value, r)) : (atom s).result? = some (.literal value, r) := by
  rw [atom]
  simp only [hconstant]
  split
  · next found rest hfound =>
    obtain ⟨rfl, rfl⟩ := Prod.mk.inj (Option.some.inj (h.symm.trans hfound))
    rfl
  · next hnone =>
    rw [h] at hnone
    cases hnone

theorem atom_of_string {quote : Char} {s r body : List Char}
    (hconstant : constant? (quote :: s) = none) (hnumeral : numeral? (quote :: s) = none)
    (hquote : (quote == '\'' || quote == '"') = true)
    (h : (stringBody? quote s).map (Prod.map id Subtype.val) = some (body, r)) :
    (atom (quote :: s)).result? = some (.literal (.string (String.ofList body)), r) := by
  obtain ⟨⟨found, rest⟩, hfound, heq⟩ := Option.map_eq_some_iff.mp h
  obtain ⟨rfl, rfl⟩ := Prod.mk.inj heq
  rw [atom]
  simp only [hconstant]
  split
  · next hsome =>
    rw [hnumeral] at hsome
    cases hsome
  · rw [if_pos hquote, hfound]
    rfl

theorem atom_of_name {c : Char} {s r : List Char} {name : String}
    (hconstant : constant? (c :: s) = none) (hnumeral : numeral? (c :: s) = none)
    (hc : (c == '\'' || c == '"') = false)
    (h : (name? (c :: s)).map (Prod.map id Subtype.val) = some (name, r))
    (hfree : name ∉ reserved) : (atom (c :: s)).result? = some (.variable name, r) := by
  obtain ⟨⟨found, rest⟩, hfound, heq⟩ := Option.map_eq_some_iff.mp h
  obtain ⟨rfl, rfl⟩ := Prod.mk.inj heq
  rw [atom]
  simp only [hconstant]
  split
  · next hsome =>
    rw [hnumeral] at hsome
    cases hsome
  · simp only [hc, hfound, Bool.false_eq_true, if_false]
    rw [if_neg (by simpa using hfree)]
    rfl

theorem whole?_eq {n : Whole} {digits : List Char}
    (hvalue : (Decimal.valueOfDigits digits : Int) = n.val) (hsigned : n.val ≤ maxSigned) :
    whole? digits = some (.number (.whole n)) := by
  simp only [whole?, hvalue]
  rw [if_pos hsigned, Value.ofInt, Number.ofInt_of_inRange n.low n.high]

theorem constant?_word (text : String) {value : Value} {r : List Char}
    (h : (.word text, value) ∈ constants) (hr : Ends r) :
    (constant? (text.toList ++ r)).map (Prod.map id Subtype.val) = some (value, r) := by
  have hends : (Spelling.word text).endsAt r = true := by
    rw [Spelling.endsAt, show r.head?.any isNameChar = false from hr]
    rfl
  exact firstOf?_append ordered_constants h hends

/-- **A literal is read back.** -/
theorem atom_literal {value : Value} {s r : List Char} (h : WrittenLiteral value s)
    (hr : Ends r) (hpoint : EndsNumeral r) : (atom (s ++ r)).result? = some (.literal value, r) := by
  cases h with
  | null => exact atom_of_constant (constant?_word "null" (by simp [constants]) hr)
  | bool b =>
    cases b with
    | false => exact atom_of_constant (constant?_word "false" (by simp [constants]) hr)
    | true => exact atom_of_constant (constant?_word "true" (by simp [constants]) hr)
  | @whole n _ hne hdigits hvalue hsigned =>
    have hnumeral : numeral? (s ++ r) = some (.number (.whole n), r) := by
      rw [numeral?_append hne hdigits hr hpoint, whole?_eq hvalue hsigned]
      rfl
    refine atom_of_numeral ?_ hnumeral
    cases s with
    | nil => exact absurd rfl hne
    | cons c s =>
      have hheads : ∀ entry ∈ constants, entry.1.chars.head?.any Char.isDigit = false := by
        decide
      have hc : c.isDigit = true := hdigits c List.mem_cons_self
      exact firstOf?_cons_eq_none ordered_constants
        fun entry hentry => head?_ne_of_test hc (hheads entry hentry)
  | @string quote body s hquote h =>
    have hheads : ∀ entry ∈ constants, entry.1.chars.head? ≠ some quote := by
      rcases hquote with rfl | rfl <;> decide
    have hdigit : quote.isDigit = false := by
      rcases hquote with rfl | rfl <;> decide
    have hslash : quote ≠ '\\' := by
      rcases hquote with rfl | rfl <;> decide
    have hbody := stringBody?_append hslash h r
    rw [List.cons_append, List.cons_append, List.append_assoc, List.singleton_append]
    exact atom_of_string (firstOf?_cons_eq_none ordered_constants hheads)
      (numeral?_cons_eq_none hdigit _) (by simpa using hquote) hbody

/-- **A variable is read back.** -/
theorem atom_variable {name : String} {r : List Char} (hname : isName name = true)
    (hfree : name ∉ reserved) (hr : Ends r) :
    (atom (name.toList ++ r)).result? = some (.variable name, r) := by
  have hconstant := constant?_name hname hfree hr
  have hread := name?_append hname hr
  obtain ⟨c, rest, hchars, hc, -⟩ := exists_of_isName hname
  rw [hchars, List.cons_append] at hconstant hread ⊢
  have hquote : (c == '\'' || c == '"') = false := by
    have hsingle : c ≠ '\'' := ne_of_test hc (by decide)
    have hdouble : c ≠ '"' := ne_of_test hc (by decide)
    simp [hsingle, hdouble]
  exact atom_of_name hconstant (numeral?_cons_eq_none (isDigit_of_isNameStart hc) _) hquote hread
    hfree

end QueryTemplate.Expr
