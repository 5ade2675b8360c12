import Mathlib
import QueryTemplate.Proofs.Compose

/-!
# Texts that hold no value

A text in which every mark `$\x7b` is escaped or never closed has no span for a value.
Writing values into it only drops the backslashes in front of the escaped marks
(`Text.dropEscapes`).  A static text is not read for such marks and keeps them.

* `Text.dropEscapes_of_cut`: what dropping the escapes does around the first mark.
* `Delimiters.replace_of_not_holdsSpan`: what is made of a text without a span.
* `Node.compose_interpolated_of_not_holdsSpan`: such a text composes like the static text
  without its escapes.
-/

namespace QueryTemplate

namespace Text

open Delimiters (escapes)

abbrev valueMark : List Char := ['$', '\x7b']

/-- A text without the backslashes in front of the marks of values.  A mark without a
backslash opens a value that is never closed, and the text is left alone from there on. -/
def dropEscapes : List Char → List Char
  | '\\' :: '$' :: '\x7b' :: rest => valueMark ++ dropEscapes rest
  | '$' :: '\x7b' :: rest => valueMark ++ rest
  | c :: rest => c :: dropEscapes rest
  | [] => []

theorem dropEscapes_cons {c : Char} {rest : List Char}
    (hmark : ¬ valueMark.isPrefixOf (c :: rest) = true)
    (hescape : c = '\\' → ¬ valueMark.isPrefixOf rest = true) :
    dropEscapes (c :: rest) = c :: dropEscapes rest := by
  rw [dropEscapes.eq_def]
  split
  · next tail h =>
    obtain ⟨rfl, rfl⟩ := List.cons.inj h
    simp at hescape
  · next tail h =>
    rw [h] at hmark
    simp at hmark
  · next c' rest' _ _ h =>
    obtain ⟨rfl, rfl⟩ := List.cons.inj h
    rfl
  · next h => cases h

theorem dropEscapes_of_isPrefixOf {s : List Char} (h : valueMark.isPrefixOf s = true) :
    dropEscapes s = s := by
  obtain ⟨rest, rfl⟩ := List.isPrefixOf_iff_prefix.mp h
  rfl

theorem cut_of_isPrefixOf {s : List Char} (h : valueMark.isPrefixOf s = true) :
    cut valueMark s = some ([], s.drop 2) := by
  obtain ⟨rest, rfl⟩ := List.isPrefixOf_iff_prefix.mp h
  rfl

theorem dropEscapes_of_cut_eq_none {s : List Char} (h : cut valueMark s = none) :
    dropEscapes s = s := by
  induction s with
  | nil => rfl
  | cons c rest ih =>
    have hmark : ¬ valueMark.isPrefixOf (c :: rest) = true := by
      intro hp
      rw [cut_of_isPrefixOf hp] at h
      cases h
    rw [cut, if_neg hmark] at h
    have hrest : cut valueMark rest = none := Option.map_eq_none_iff.mp h
    rw [dropEscapes_cons hmark, ih hrest]
    intro _ hp
    rw [cut_of_isPrefixOf hp] at hrest
    cases hrest

/-- The first mark of a text loses the backslash in front of it, or ends the reading. -/
theorem dropEscapes_of_cut {s before after : List Char}
    (h : cut valueMark s = some (before, after)) :
    dropEscapes s =
      if escapes before then before.dropLast ++ valueMark ++ dropEscapes after else s := by
  induction s generalizing before with
  | nil => cases h
  | cons c rest ih =>
    by_cases hmark : valueMark.isPrefixOf (c :: rest) = true
    · rw [cut_of_isPrefixOf hmark] at h
      obtain ⟨rfl, rfl⟩ := Prod.mk.inj (Option.some.inj h)
      rw [dropEscapes_of_isPrefixOf hmark]
      rfl
    · rw [cut, if_neg hmark] at h
      obtain ⟨⟨front, after'⟩, hcut, heq⟩ := Option.map_eq_some_iff.mp h
      obtain ⟨rfl, rfl⟩ := Prod.mk.inj heq
      cases front with
      | nil =>
        -- the mark stands right behind `c`
        obtain rfl : rest = valueMark ++ after' := eq_of_cut hcut
        by_cases hc : c = '\\'
        · subst hc
          rfl
        · rw [dropEscapes_cons hmark (fun h => absurd h hc), ih hcut]
          simp [escapes, hc]
      | cons b front =>
        have hrest : ¬ valueMark.isPrefixOf rest = true := by
          intro hp
          rw [cut_of_isPrefixOf hp] at hcut
          cases hcut
        rw [dropEscapes_cons hmark (fun _ => hrest), ih hcut]
        have hlast : escapes (c :: b :: front) = escapes (b :: front) := by
          simp [escapes]
        rw [hlast]
        split <;> simp

theorem dropEscapes_of_not_infix {s : List Char} (h : ¬ '\\' :: valueMark <:+: s) :
    dropEscapes s = s := by
  induction s with
  | nil => rfl
  | cons c rest ih =>
    by_cases hmark : valueMark.isPrefixOf (c :: rest) = true
    · exact dropEscapes_of_isPrefixOf hmark
    · rw [dropEscapes_cons hmark, ih fun hi => h (List.infix_cons hi)]
      rintro rfl hp
      obtain ⟨tail, rfl⟩ := List.isPrefixOf_iff_prefix.mp hp
      exact h ⟨[], tail, rfl⟩

end Text

namespace Delimiters

open Text

theorem holdsSpan_eq_false_iff {d : Delimiters} {text : String} :
    d.holdsSpan text = false ↔ ∀ body, .span body ∉ d.pieces text := by
  rw [holdsSpan, List.any_eq_false]
  constructor
  · intro h body hmem
    exact absurd rfl (h _ hmem)
  · intro h piece hmem
    cases piece with
    | literal text => simp
    | span body => exact absurd hmem (h body)

theorem join_nil {ε : Type} {answer : String → Except ε String} :
    join answer [] = .ok (String.ofList []) := rfl

theorem join_literal {ε : Type} {answer : String → Except ε String} {text tail : List Char}
    {rest : List Piece} (h : join answer rest = .ok (String.ofList tail)) :
    join answer (.literal text :: rest) = .ok (String.ofList (text ++ tail)) := by
  rw [join, h, String.ofList_append]
  rfl

/-- A text without a span is put together again without its escapes. -/
theorem join_piecesOf {ε : Type} (answer : String → Except ε String) {s : List Char}
    (h : ∀ body, .span body ∉ piecesOf valueMark ['\x7d'] s) :
    join answer (piecesOf valueMark ['\x7d'] s) = .ok (String.ofList (dropEscapes s)) := by
  fun_induction piecesOf valueMark ['\x7d'] s with
  | case1 s hcut hs =>
    obtain rfl := List.isEmpty_iff.mp hs
    rfl
  | case2 s hcut hs =>
    rw [dropEscapes_of_cut_eq_none hcut, join_literal join_nil, List.append_nil]
  | case3 s before after hcut hescaped hlt ih =>
    rw [join_literal (ih fun body hmem => h body (List.mem_cons_of_mem _ hmem)),
      dropEscapes_of_cut hcut, if_pos hescaped]
  | case4 s before after hcut hescaped hlt =>
    have := length_of_cut hcut
    simp only [List.length_cons, List.length_nil] at this
    omega
  | case5 s before after hcut hescaped hclose =>
    rw [join_literal (join_literal join_nil), dropEscapes_of_cut hcut, if_neg hescaped,
      eq_of_cut hcut]
    simp
  | case6 s before after hcut hescaped body rest hclose hlt ih =>
    exact absurd (by simp) (h body)
  | case7 s before after hcut hescaped body rest hclose hlt =>
    have := length_of_cut hcut
    have := length_of_closeSpan hclose
    simp only [List.length_cons, List.length_nil] at *
    omega

/-- **A text without a span loses its escapes and nothing else** when values are written
into it. -/
theorem replace_of_not_holdsSpan {ε : Type} (answer : String → Except ε String) {text : String}
    (h : interpolation.holdsSpan text = false) :
    interpolation.replace answer text = .ok (String.ofList (dropEscapes text.toList)) :=
  join_piecesOf answer (holdsSpan_eq_false_iff.mp h)

end Delimiters

/-! ### Interpolated and static texts -/

/-- **An interpolated text without a span composes like the static text without its
escapes**, and like the static text itself when no mark in it is escaped. -/
theorem Node.compose_interpolated_of_not_holdsSpan {text : String}
    (h : Delimiters.interpolation.holdsSpan text = false) (c : Configuration) (d : Draft) :
    (Node.interpolated text).compose c d =
        (Node.static (String.ofList (Text.dropEscapes text.toList))).compose c d ∧
      (¬ '\\' :: Text.valueMark <:+: text.toList →
        (Node.interpolated text).compose c d = (Node.static text).compose c d) := by
  have hstatic : (Node.interpolated text).compose c d =
      (Node.static (String.ofList (Text.dropEscapes text.toList))).compose c d := by
    rw [Node.compose, Node.compose, Draft.addInterpolated,
      Delimiters.replace_of_not_holdsSpan (Draft.inlined c d.scope) h]
    rfl
  refine ⟨hstatic, fun hescape => ?_⟩
  rw [hstatic, Text.dropEscapes_of_not_infix hescape, String.ofList_toList]

/-- Two texts without a span: one with an escaped mark in front of one that is never closed,
and one without an escape. -/
theorem Node.compose_interpolated_of_unclosed_mark :
    (Delimiters.interpolation.holdsSpan "\\$\x7ba\x7d $\x7bb" = false ∧
      ∀ c d, (Node.interpolated "\\$\x7ba\x7d $\x7bb").compose c d =
        (Node.static "$\x7ba\x7d $\x7bb").compose c d) ∧
    Delimiters.interpolation.holdsSpan "#\x7ba\x7d $\x7bb" = false ∧
      ¬ '\\' :: Text.valueMark <:+: "#\x7ba\x7d $\x7bb".toList ∧
      ∀ c d, (Node.interpolated "#\x7ba\x7d $\x7bb").compose c d =
        (Node.static "#\x7ba\x7d $\x7bb").compose c d := by
  have hescaped : Delimiters.interpolation.holdsSpan "\\$\x7ba\x7d $\x7bb" = false := by
    decide +kernel
  have hplain : Delimiters.interpolation.holdsSpan "#\x7ba\x7d $\x7bb" = false := by
    decide +kernel
  have hinfix : ¬ '\\' :: Text.valueMark <:+: "#\x7ba\x7d $\x7bb".toList := by
    decide +kernel
  exact ⟨⟨hescaped, fun c d => (Node.compose_interpolated_of_not_holdsSpan hescaped c d).1⟩,
    hplain, hinfix, fun c d => (Node.compose_interpolated_of_not_holdsSpan hplain c d).2 hinfix⟩

/-- A static text keeps the backslash in front of a mark, and an interpolated one does not. -/
theorem Node.compose_static_of_escaped_mark :
    Delimiters.interpolation.holdsSpan "\\$\x7bx\x7d" = false ∧
    (Node.static "\\$\x7bx\x7d").compose {} (Node.start {} .null) =
      .ok { Node.start {} .null with sql := "\\$\x7bx\x7d" } ∧
    (Node.interpolated "\\$\x7bx\x7d").compose {} (Node.start {} .null) =
      .ok { Node.start {} .null with sql := "$\x7bx\x7d" } ∧
    (Node.static "\\$\x7bx\x7d").compose {} (Node.start {} .null) ≠
      (Node.interpolated "\\$\x7bx\x7d").compose {} (Node.start {} .null) := by
  have hstatic : (Node.static "\\$\x7bx\x7d").compose {} (Node.start {} .null) =
      .ok { Node.start {} .null with sql := "\\$\x7bx\x7d" } := by
    cbv
  have hinterpolated : (Node.interpolated "\\$\x7bx\x7d").compose {} (Node.start {} .null) =
      .ok { Node.start {} .null with sql := "$\x7bx\x7d" } := by
    cbv
  refine ⟨by decide +kernel, hstatic, hinterpolated, ?_⟩
  rw [hstatic, hinterpolated]
  intro h
  exact absurd (congrArg Draft.sql (Except.ok.inj h)) (by decide)

end QueryTemplate
