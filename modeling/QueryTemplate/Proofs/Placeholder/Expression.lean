import QueryTemplate.Proofs.Grammar.Enclosed
import QueryTemplate.Proofs.Grammar.RoundTrip
import QueryTemplate.Proofs.Placeholder.RoundTrip

/-!
# Expressions as placeholders

An expression in parentheses can stand as a placeholder, with attributes behind it.  Where it ends
is found by counting parentheses, those in its string literals too.  So it is read as it stands
exactly when all its parentheses are balanced, and it is as soon as they are inside each literal.

* `Expr.Enclosed.balanced`: an expression is balanced if its literals are.
* `Mapping.AttributeList`: what may stand behind the parenthesis, and `Mapping.parse_of_balanced`.
* `Mapping.parse_of_expression`: which expressions a placeholder reads.
-/

namespace QueryTemplate

open Outcome Placeholder

/-- **An expression is balanced if its string literals are.** -/
theorem Expr.Enclosed.balanced {literals : List (List Char)} {s : List Char}
    (h : Expr.Enclosed literals s) (hliterals : ∀ inside ∈ literals, Balanced inside) :
    Balanced s := by
  induction h with
  | nil => exact .nil
  | bare hc h ih =>
    simp only [Expr.isBare, Bool.and_eq_true, bne_iff_ne] at hc
    exact .other hc.1.1.1 hc.1.1.2 (ih hliterals)
  | @literal literals quote body inside s hquote hinside h ih =>
    obtain ⟨hbalanced, hrest⟩ := List.forall_mem_cons.mp hliterals
    have hne : quote ≠ '(' ∧ quote ≠ ')' := by
      rcases hquote with rfl | rfl <;> decide
    exact .other hne.1 hne.2 (hbalanced.append (.other hne.1 hne.2 (ih hrest)))
  | parens h ht ih iht =>
    exact .parens (ih fun inside hm => hliterals inside (List.mem_append_left _ hm))
      (iht fun inside hm => hliterals inside (List.mem_append_right _ hm))

namespace Mapping

/-! ### Expressions -/

/-- The text is a list of attributes, each of which can be set, with nothing but blanks behind
them. -/
structure AttributeList (s : List Char) (raws : List (List Char × List Char)) : Prop where
  read : ∃ rest, attributes s = (raws, rest) ∧ rest.all Text.isBlank = true
  valid : ∃ content base m, setAttributes content base raws = .ok m

theorem WrittenAttributes.attributeList {m : Mapping} {attributes : List Attribute}
    {s g : List Char} (h : m.WrittenAttributes attributes s) (hg : Text.IsGaps g) :
    ∃ raws, AttributeList (g ++ s) raws := by
  obtain ⟨raws, rfl, hraws, hrun⟩ := h.read
  obtain ⟨rest, hattributes, hrest⟩ := attributes_rawText hraws hg
  have hbase : Follows { property := m.property } m [] := by
    refine ⟨rfl, rfl, fun a ha => ?_⟩
    have hlacks : m.Lacks a := by
      simpa using ha
    cases a <;> simp_all [Lacks, adopt]
  obtain ⟨next, hnext, -⟩ := hrun "" _ [] hbase
  exact ⟨raws, ⟨rest, hattributes,
    List.all_eq_true.mpr fun c hc => Text.isBlank_of_isGap (hrest c hc)⟩, _, _, next, hnext⟩

theorem tag_of_attributes {s rest : List Char} {raws : List (List Char × List Char)}
    (h : attributes s = (raws, rest)) (hrest : rest.all Text.isBlank = true) :
    tag s = (none, s) := by
  rw [tag]
  split
  · next tagged hskip =>
    have hnone : attributes s = ([], s) := by
      rw [attributes]
      split
      · next named hnamed =>
        rw [hskip] at hnamed
        cases hnamed
      · rfl
    obtain ⟨-, rfl⟩ := Prod.mk.inj (h.symm.trans hnone)
    have hcolon : ':' ∈ rest := by
      have hm : ':' ∈ Text.skipGaps rest := by
        rw [hskip]
        exact List.mem_cons_self
      exact (List.dropWhile_sublist _).mem hm
    exact absurd (List.all_eq_true.mp hrest ':' hcolon) (by decide)
  · rfl

variable {text s : String} {raws : List (List Char × List Char)}

theorem parse_of_balanced (h : Balanced text.toList) (hs : AttributeList s.toList raws) :
    ∃ m, parse ("(" ++ text ++ ")" ++ s) = .ok m ∧ m.property = Text.trimmed text ∧
      ((∀ p ∈ raws, Text.trim p.1 ≠ Attribute.expression.name.toList) →
        m.expression = some (Text.trimmed text)) := by
  obtain ⟨⟨rest, hattributes, hrest⟩, content, base, m₀, hvalid⟩ := hs
  have hcontent : ("(" ++ text ++ ")" ++ s).toList = '(' :: (text.toList ++ ')' :: s.toList) := by
    simp
  have hhead : head (Text.skipGaps ("(" ++ text ++ ")" ++ s).toList) =
      .ok (.expression (Text.trim text.toList), s.toList) := by
    rw [hcontent, Expr.skipGaps_cons (by decide), head, balanced?_close h]
  have hparts := parts_eq hhead (tag_of_attributes hattributes hrest) hattributes
  obtain ⟨m, hm, hproperty, -, hsome, hexpression⟩ := setAttributes_of_eq_ok hvalid
    ("(" ++ text ++ ")" ++ s) (Head.mapping (.expression (Text.trim text.toList)))
  refine ⟨m, ?_, hproperty, hexpression⟩
  have hnamed : m.named ("(" ++ text ++ ")" ++ s) = .ok m := by
    rw [named, Option.isNone_eq_false_iff.mpr (hsome rfl), Bool.and_false]
    rfl
  rw [parse_of_parts hparts hrest rfl, hm]
  exact hnamed

/-- A text in parentheses names what stands in front of the parenthesis that is found. -/
theorem exists_of_parse_parens {m : Mapping} (h : parse ("(" ++ text ++ ")" ++ s) = .ok m) :
    ∃ inner after, balanced? 0 (text.toList ++ ')' :: s.toList) = some (inner, after) ∧
      m.property = String.ofList (Text.trim inner) := by
  have hcontent : ("(" ++ text ++ ")" ++ s).toList = '(' :: (text.toList ++ ')' :: s.toList) := by
    simp
  obtain ⟨p, hp, -, hproperty, -⟩ := exists_parts_of_parse h
  obtain ⟨⟨part, afterHead⟩, hhead, hp⟩ := bind_eq_ok_iff.mp hp
  obtain rfl := pure_eq_ok_iff.mp hp
  rw [hcontent, Expr.skipGaps_cons (by decide), head] at hhead
  cases hbalanced : balanced? 0 (text.toList ++ ')' :: s.toList) with
  | none =>
    rw [hbalanced] at hhead
    cases hhead
  | some found =>
    obtain ⟨inner, after⟩ := found
    rw [hbalanced] at hhead
    obtain ⟨rfl, rfl⟩ := Prod.mk.inj (Except.ok.inj hhead)
    exact ⟨inner, after, rfl, hproperty⟩

/-- What stands in front of a closing parenthesis, in a text that starts with one, is empty if
nothing in it closes. -/
theorem eq_nil_of_close {more t u : List Char} (h : ')' :: t = more ++ ')' :: u)
    (hcount : more.count ')' = 0) : more = [] := by
  cases more with
  | nil => rfl
  | cons c more =>
    obtain ⟨rfl, -⟩ := List.cons.inj h
    simp at hcount

/-- A text in parentheses that is read as itself is balanced: the text and what stands in front of
the parenthesis that is found have the same closing parentheses, so that they are the same. -/
theorem balanced_of_parse {m : Mapping} (h : parse ("(" ++ text ++ ")" ++ s) = .ok m)
    (hproperty : m.property = Text.trimmed text) : Balanced text.toList := by
  obtain ⟨inner, after, hfound, hinner⟩ := exists_of_parse_parens h
  obtain ⟨hsplit, hbalanced⟩ := eq_of_balanced? hfound
  have htrim : Text.trim inner = Text.trim text.toList :=
    String.ofList_injective (hinner.symm.trans hproperty)
  have hcount : inner.count ')' = text.toList.count ')' := by
    rw [← Text.count_trim (c := ')') (by decide), htrim, Text.count_trim (by decide)]
  rcases List.append_eq_append_iff.mp hsplit with ⟨more, rfl, hrest⟩ | ⟨more, htext, hrest⟩
  · obtain rfl := eq_nil_of_close hrest (by rw [List.count_append] at hcount; omega)
    rwa [List.append_nil] at hbalanced
  · rw [htext, List.count_append] at hcount
    obtain rfl := eq_nil_of_close hrest (by omega)
    rwa [htext, List.append_nil]

/-- **Expressions as placeholders.**  An accepted text is made of string literals, parentheses that
it closes and other characters, and it is balanced as soon as its literals are.  In parentheses,
with a list of attributes behind it, it is read as itself exactly when it is balanced; then the
expression is the text without the blanks at its ends, unless an attribute sets another one. -/
theorem parse_of_expression {e : Expr} (he : Expr.parse text = .ok e)
    (hs : AttributeList s.toList raws) :
    (∃ literals, Expr.Enclosed literals text.toList ∧
      ((∀ inside ∈ literals, Balanced inside) → Balanced text.toList)) ∧
    ((∃ m, parse ("(" ++ text ++ ")" ++ s) = .ok m ∧ m.property = Text.trimmed text ∧
        ((∀ p ∈ raws, Text.trim p.1 ≠ Attribute.expression.name.toList) →
          m.expression = some (Text.trimmed text))) ↔
      Balanced text.toList) := by
  obtain ⟨literals, hliterals⟩ := Expr.exists_enclosed_of_parse he
  refine ⟨⟨literals, hliterals, hliterals.balanced⟩, ?_, fun h => parse_of_balanced h hs⟩
  rintro ⟨m, hm, hproperty, -⟩
  exact balanced_of_parse hm hproperty

theorem parse_quoted {text body : String} (htext : text.toList = '\'' :: body.toList ++ ['\''])
    (hbody : body.toList.all (fun c => c != '\'' && c != '\\') = true) :
    Expr.parse text = .ok (.literal (.string body)) := by
  have hfree : ∀ c ∈ body.toList, c ≠ '\'' ∧ c ≠ '\\' := by
    simpa using hbody
  have hliteral := Expr.WrittenLiteral.string (.inl rfl) (Expr.writtenInside_self hfree)
  rw [String.ofList_toList, ← htext] at hliteral
  exact Expr.parse_of_written (.literal hliteral)

/-- A literal with parentheses, a comma and a colon, and an attribute. -/
theorem parse_of_expression_literal :
    Expr.parse "'(,:)'" = .ok (.literal (.string "(,:)")) ∧
      ∃ m, parse "('(,:)') , mode=out" = .ok m ∧ m.property = "'(,:)'" := by
  have he : Expr.parse "'(,:)'" = .ok (.literal (.string "(,:)")) :=
    parse_quoted (by decide) (by decide)
  have hspace : Text.IsGaps [' '] := isGaps_singleton rfl
  have hmode : Tells { property := "", mode := .output } .mode "out".toList :=
    (Text.eqIgnoreCase_iff_inAnyCase (by decide)).mp (by decide)
  have hwritten : WrittenAttributes { property := "", mode := .output } [.mode]
      ", mode=out".toList :=
    .cons hspace Expr.isGaps_nil Expr.isGaps_nil (by decide) hmode Expr.isGaps_nil .nil
  obtain ⟨raws, hs⟩ := hwritten.attributeList hspace
  have hbalanced : Balanced "'(,:)'".toList :=
    .other (by decide) (by decide) (.parens (balanced_of_all (s := [',', ':']) (by decide))
      (balanced_of_all (s := ['\'']) (by decide)))
  obtain ⟨m, hm, hproperty, -⟩ :=
    (parse_of_expression (s := " , mode=out") he hs).2.mpr hbalanced
  have htrimmed : Text.trimmed "'(,:)'" = "'(,:)'" := by decide +kernel
  rw [htrimmed] at hproperty
  exact ⟨he, m, hm, hproperty⟩

/-- A closing parenthesis in a literal ends the expression. -/
theorem exists_parse_expression_eq_error :
    ∃ e, Expr.parse "')'" = .ok e ∧
      parse "(')')" = .error (.badPlaceholder "(')')" 3 .trailing) := by
  refine ⟨.literal (.string ")"), parse_quoted (by decide) (by decide), ?_⟩
  cbv

end Mapping

end QueryTemplate
