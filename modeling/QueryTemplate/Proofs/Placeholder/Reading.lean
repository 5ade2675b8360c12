import Mathlib
import QueryTemplate.Proofs.Grammar.Token
import QueryTemplate.Proofs.Outcome
import QueryTemplate.Proofs.Placeholder.Basic

/-!
# Reading the parts of a placeholder

Each part of a placeholder is read up to what stands behind it: the head up to a colon or a
comma, the type tag up to a comma, and one attribute after the other.

* `Placeholder.balanced?_append`: a balanced text closes no parenthesis that it does not open.
* `Placeholder.eq_of_balanced?`: what is found in front of a closing parenthesis.
* `Placeholder.head_expression`, `Placeholder.head_property`: the two kinds of heads.
* `Placeholder.tag_colon`, `Placeholder.attributes_rawText`: the type tag and the attributes.
-/

namespace QueryTemplate

open Text (IsGaps isTrimmed InAnyCase)
open Placeholder

/-! ### The parts of a placeholder -/

namespace Placeholder

open QueryTemplate.Expr (isGaps_nil skipGaps_append skipGaps_of_isGaps skipGaps_cons
  takeWhile_append dropWhile_append ne_of_test)

def rawText (raws : List (List Char × List Char)) : List Char :=
  raws.flatMap fun p => ',' :: (p.1 ++ '=' :: p.2)

def IsRaw (p : List Char × List Char) : Prop :=
  '=' ∉ p.1 ∧ ',' ∉ p.1 ∧ ',' ∉ p.2

theorem Balanced.append {s t : List Char} (h : Balanced s) (ht : Balanced t) :
    Balanced (s ++ t) := by
  induction h with
  | nil => exact ht
  | other hopen hclose h ih => exact .other hopen hclose ih
  | @parens s u h hu ih ihu =>
    have heq : '(' :: (s ++ ')' :: u) ++ t = '(' :: (s ++ ')' :: (u ++ t)) := by simp
    rw [heq]
    exact .parens h ihu

theorem balanced_of_all {s : List Char} (h : s.all (fun c => c != '(' && c != ')') = true) :
    Balanced s := by
  induction s with
  | nil => exact .nil
  | cons c s ih =>
    simp only [List.all_cons, Bool.and_eq_true, bne_iff_ne] at h
    exact .other h.1.1 h.1.2 (ih (by simpa using h.2))

theorem balanced_of_isGaps {g : List Char} (hg : IsGaps g) : Balanced g := by
  refine balanced_of_all (List.all_eq_true.mpr fun c hc => ?_)
  rw [Bool.and_eq_true, bne_iff_ne, bne_iff_ne]
  exact ⟨ne_of_test (hg c hc) rfl, ne_of_test (hg c hc) rfl⟩

theorem isGaps_singleton {c : Char} (h : Text.isGap c = true) : IsGaps [c] := by
  intro d hd
  obtain rfl := List.mem_singleton.mp hd
  exact h

theorem trim_gaps {g s g' : List Char} (hg : IsGaps g) (hs : isTrimmed s = true)
    (hg' : IsGaps g') : Text.trim (g ++ (s ++ g')) = s :=
  Text.trim_append (fun c hc => Text.isBlank_of_isGap (hg c hc)) hs
    fun c hc => Text.isBlank_of_isGap (hg' c hc)

theorem not_mem_gaps {g : List Char} {c : Char} (hg : IsGaps g) (hc : Text.isGap c = false) :
    c ∉ g :=
  fun hm => ne_of_test (hg c hm) hc rfl

/-- A balanced text closes no parenthesis that was open before it. -/
theorem balanced?_append {s : List Char} (h : Balanced s) (depth : Nat) (r : List Char) :
    balanced? depth (s ++ r) =
      (balanced? depth r).map fun (inner, after) => (s ++ inner, after) := by
  induction h generalizing depth r with
  | nil => simp
  | @other c s hopen hclose h ih =>
    have hstep : balanced? depth (c :: (s ++ r)) =
        (balanced? depth (s ++ r)).map fun (inner, after) => (c :: inner, after) := by
      rw [balanced?.eq_def]
      simp [hopen, hclose]
    rw [List.cons_append, hstep, ih, Option.map_map]
    rfl
  | @parens s t h ht ih iht =>
    have hopen : balanced? depth ('(' :: (s ++ (')' :: (t ++ r)))) =
        (balanced? (depth + 1) (s ++ (')' :: (t ++ r)))).map
          fun (inner, after) => ('(' :: inner, after) := rfl
    have hclose : balanced? (depth + 1) (')' :: (t ++ r)) =
        (balanced? depth (t ++ r)).map fun (inner, after) => (')' :: inner, after) := rfl
    have heq : '(' :: (s ++ ')' :: t) ++ r = '(' :: (s ++ (')' :: (t ++ r))) := by simp
    rw [heq, hopen, ih, hclose, iht, Option.map_map, Option.map_map, Option.map_map]
    congr 1
    funext p
    simp

theorem balanced?_close {s : List Char} (h : Balanced s) (r : List Char) :
    balanced? 0 (s ++ ')' :: r) = some (s, r) := by
  rw [balanced?_append h]
  show some (s ++ [], r) = some (s, r)
  rw [List.append_nil]

theorem Balanced.insert {u : List Char} (hu : Balanced u) {s : List Char} (h : Balanced s)
    {before after : List Char} (hs : s = before ++ after) : Balanced (before ++ (u ++ after)) := by
  induction h generalizing before after with
  | nil =>
    obtain ⟨rfl, rfl⟩ := List.append_eq_nil_iff.mp hs.symm
    simpa using hu
  | @other c s hopen hclose h ih =>
    cases before with
    | nil =>
      subst hs
      exact hu.append (.other hopen hclose h)
    | cons d before =>
      obtain ⟨rfl, hrest⟩ := List.cons.inj hs
      exact .other hopen hclose (ih hrest)
  | @parens s t h ht ih iht =>
    cases before with
    | nil =>
      subst hs
      exact hu.append (.parens h ht)
    | cons d before =>
      obtain ⟨rfl, hrest⟩ := List.cons.inj hs
      rcases List.append_eq_append_iff.mp hrest with ⟨more, rfl, hclose⟩ | ⟨more, rfl, rfl⟩
      · cases more with
        | nil =>
          subst hclose
          have hparens := Balanced.parens (h.append hu) ht
          simpa using hparens
        | cons d more =>
          obtain ⟨rfl, rfl⟩ := List.cons.inj hclose
          have hparens := Balanced.parens h (iht rfl)
          simpa using hparens
      · have hparens := Balanced.parens (ih rfl) ht
        simpa using hparens

/-- What is found in front of a closing parenthesis is balanced, together with the parentheses
that were open before it. -/
theorem eq_of_balanced? {s inner after : List Char} {depth : Nat}
    (h : balanced? depth s = some (inner, after)) :
    s = inner ++ ')' :: after ∧ Balanced (List.replicate depth '(' ++ inner) := by
  induction s generalizing depth inner with
  | nil => cases h
  | cons c s ih =>
    rw [balanced?.eq_def] at h
    simp only at h
    split at h
    · next hopen =>
      obtain rfl := eq_of_beq hopen
      obtain ⟨⟨inner', after'⟩, hrest, heq⟩ := Option.map_eq_some_iff.mp h
      obtain ⟨rfl, rfl⟩ := Prod.mk.inj heq
      obtain ⟨rfl, hbalanced⟩ := ih hrest
      rw [List.replicate_succ', List.append_assoc] at hbalanced
      exact ⟨rfl, hbalanced⟩
    · next hopen =>
      split at h
      · next hclose =>
        obtain rfl := eq_of_beq hclose
        cases depth with
        | zero =>
          obtain ⟨rfl, rfl⟩ := Prod.mk.inj (Option.some.inj h)
          exact ⟨rfl, .nil⟩
        | succ depth =>
          obtain ⟨⟨inner', after'⟩, hrest, heq⟩ := Option.map_eq_some_iff.mp h
          obtain ⟨rfl, rfl⟩ := Prod.mk.inj heq
          obtain ⟨rfl, hbalanced⟩ := ih hrest
          have hpair : Balanced ['(', ')'] := .parens .nil .nil
          have hinsert := hpair.insert hbalanced rfl
          rw [List.replicate_succ', List.append_assoc]
          exact ⟨rfl, hinsert⟩
      · next hclose =>
        obtain ⟨⟨inner', after'⟩, hrest, heq⟩ := Option.map_eq_some_iff.mp h
        obtain ⟨rfl, rfl⟩ := Prod.mk.inj heq
        obtain ⟨rfl, hbalanced⟩ := ih hrest
        have hother : Balanced [c] := .other (by simpa using hopen) (by simpa using hclose) .nil
        exact ⟨rfl, hother.insert hbalanced rfl⟩

theorem head_expression {text g g' : List Char} (hg : IsGaps g) (hbalanced : Balanced text)
    (htrimmed : isTrimmed text = true) (hg' : IsGaps g') (r : List Char) :
    head ('(' :: (g ++ (text ++ (g' ++ [')']))) ++ r) = .ok (.expression text, r) := by
  have hinner : Balanced (g ++ (text ++ g')) :=
    (balanced_of_isGaps hg).append (hbalanced.append (balanced_of_isGaps hg'))
  have heq : '(' :: (g ++ (text ++ (g' ++ [')']))) ++ r =
      '(' :: ((g ++ (text ++ g')) ++ ')' :: r) := by simp
  rw [heq, head, balanced?_close hinner]
  simp only
  rw [trim_gaps hg htrimmed hg']

theorem head_property {path g r : List Char} (hpath : isPath path = true) (hg : IsGaps g)
    (hr : r.head?.any (fun c => c != ',' && c != ':') = false) :
    head (path ++ (g ++ r)) = .ok (.property path, r) := by
  simp only [isPath, Bool.and_eq_true, Bool.not_eq_true', List.isEmpty_eq_false_iff,
    List.all_eq_true, bne_iff_ne] at hpath
  obtain ⟨⟨⟨hne, htrimmed⟩, hfree⟩, hparen⟩ := hpath
  have hinside : ∀ c ∈ path ++ g, (c != ',' && c != ':') = true := by
    intro c hc
    rcases List.mem_append.mp hc with hc | hc
    · simpa using hfree c hc
    · rw [Bool.and_eq_true, bne_iff_ne, bne_iff_ne]
      exact ⟨ne_of_test (hg c hc) rfl, ne_of_test (hg c hc) rfl⟩
  have htrim : Text.trim (path ++ g) = path :=
    trim_gaps isGaps_nil htrimmed hg
  rw [← List.append_assoc, head]
  · rw [takeWhile_append hinside hr, dropWhile_append hinside hr, htrim]
  · intro inside heq
    cases path with
    | nil => exact hne rfl
    | cons c path =>
      obtain ⟨rfl, -⟩ := List.cons.inj heq
      exact hparen rfl

theorem tag_colon {g i value i' r : List Char} (hg : IsGaps g) (hi : IsGaps i)
    (hvalue : isValue value = true) (hi' : IsGaps i') (hr : r.head?.any (· != ',') = false) :
    tag (g ++ ':' :: (i ++ (value ++ (i' ++ r)))) = (some value, r) := by
  simp only [isValue, Bool.and_eq_true, List.all_eq_true] at hvalue
  obtain ⟨htrimmed, hfree⟩ := hvalue
  have hinside : ∀ c ∈ i ++ (value ++ i'), (c != ',') = true := by
    intro c hc
    simp only [List.mem_append] at hc
    rcases hc with hc | hc | hc
    · exact bne_iff_ne.mpr (ne_of_test (hi c hc) rfl)
    · exact hfree c hc
    · exact bne_iff_ne.mpr (ne_of_test (hi' c hc) rfl)
  have heq : i ++ (value ++ (i' ++ r)) = (i ++ (value ++ i')) ++ r := by simp
  rw [tag, skipGaps_append hg, skipGaps_cons rfl, heq]
  simp only
  rw [takeWhile_append hinside hr, dropWhile_append hinside hr, trim_gaps hi htrimmed hi']

theorem tag_none {g r : List Char} (hg : IsGaps g) (hr : r.head?.any (· != ',') = false) :
    tag (g ++ r) = (none, g ++ r) := by
  rw [tag, skipGaps_append hg]
  cases r with
  | nil => rfl
  | cons c r =>
    obtain rfl : c = ',' := by simpa using hr
    rw [skipGaps_cons rfl]
    rfl

theorem attributes_nil {g : List Char} (hg : IsGaps g) : attributes g = ([], g) := by
  rw [attributes]
  split
  · next named h =>
    rw [skipGaps_of_isGaps hg] at h
    cases h
  · rfl

theorem attributes_cons {g : List Char} {p : List Char × List Char} {r : List Char}
    (hg : IsGaps g) (hp : IsRaw p) (hr : r.head?.any (· != ',') = false) :
    attributes (g ++ ',' :: (p.1 ++ '=' :: (p.2 ++ r))) =
      (p :: (attributes r).1, (attributes r).2) := by
  obtain ⟨hequals, hcomma, hvalue⟩ := hp
  have hskip : Text.skipGaps (g ++ ',' :: (p.1 ++ '=' :: (p.2 ++ r))) =
      ',' :: (p.1 ++ '=' :: (p.2 ++ r)) := by
    rw [skipGaps_append hg, skipGaps_cons rfl]
  have hname : ∀ c ∈ p.1, (!endsName c) = true := by
    intro c hc
    have hne : c ≠ '=' ∧ c ≠ ',' := by
      constructor
      · rintro rfl
        exact hequals hc
      · rintro rfl
        exact hcomma hc
    simp [endsName, hne]
  have hinside : ∀ c ∈ p.2, (c != ',') = true := by
    intro c hc
    rw [bne_iff_ne]
    rintro rfl
    exact hvalue hc
  rw [attributes]
  split
  · next named h =>
    rw [hskip] at h
    obtain ⟨-, rfl⟩ := List.cons.inj h
    have htake := takeWhile_append (r := '=' :: (p.2 ++ r)) hname rfl
    have hdrop := dropWhile_append (r := '=' :: (p.2 ++ r)) hname rfl
    split
    · next valued hv =>
      rw [hdrop] at hv
      obtain ⟨-, rfl⟩ := List.cons.inj hv
      simp only [htake, takeWhile_append hinside hr, dropWhile_append hinside hr]
    · next hv => exact absurd hdrop (hv _)
  · next h => exact absurd hskip (h _)

theorem attributes_rawText {raws : List (List Char × List Char)} (hraws : ∀ p ∈ raws, IsRaw p)
    {g : List Char} (hg : IsGaps g) :
    ∃ rest, attributes (g ++ rawText raws) = (raws, rest) ∧ IsGaps rest := by
  induction raws generalizing g with
  | nil =>
    refine ⟨g, ?_, hg⟩
    rw [rawText, List.flatMap_nil, List.append_nil]
    exact attributes_nil hg
  | cons p raws ih =>
    obtain ⟨rest, hrest, hgaps⟩ :=
      ih (fun q hq => hraws q (List.mem_cons_of_mem p hq)) isGaps_nil
    have hr : (rawText raws).head?.any (· != ',') = false := by
      cases raws <;> rfl
    have heq : rawText (p :: raws) = ',' :: (p.1 ++ '=' :: (p.2 ++ rawText raws)) := by
      simp [rawText]
    refine ⟨rest, ?_, hgaps⟩
    rw [heq, attributes_cons hg (hraws p List.mem_cons_self) hr]
    rw [List.nil_append] at hrest
    rw [hrest]

/-- The parts of a placeholder, one behind the other. -/
theorem parts_eq {s afterHead afterTag rest : List Char} {part : Head}
    {value : Option (List Char)} {raws : List (List Char × List Char)}
    (hhead : head (Text.skipGaps s) = .ok (part, afterHead))
    (htag : tag afterHead = (value, afterTag)) (hraws : attributes afterTag = (raws, rest)) :
    parts s = .ok ⟨part, value, raws, rest⟩ := by
  simp only [parts, hhead, bind, Except.bind, htag, hraws]
  rfl

end Placeholder

end QueryTemplate
