import QueryTemplate.Path
import QueryTemplate.Proofs.Alternation
import QueryTemplate.Proofs.Placeholder.RoundTrip

/-!
# Names as paths and as placeholders

A name of the expression language has no blank in it and no mark of a path, of a placeholder
or of a span.  So it is a path with no further step, the placeholder around it is one span,
and that span means a mapping for the name and nothing else.

* `Delimiters.piecesOf_span`, `Delimiters.pieces_placeholder`: a text that is one span.
* `Path.splitRoot_of_isName`, `Mapping.parse_of_isName`: what a name is read as.
-/

namespace QueryTemplate

/-! ### The characters of a name -/

namespace Text

def blanks : List Nat :=
  [9, 10, 11, 12, 13, 0x20, 0x85, 0xA0, 0x1680, 0x2000, 0x2001, 0x2002, 0x2003, 0x2004, 0x2005,
    0x2006, 0x2007, 0x2008, 0x2009, 0x200A, 0x2028, 0x2029, 0x202F, 0x205F, 0x3000]

theorem toNat_mem_blanks {c : Char} (h : isBlank c = true) : c.toNat ∈ blanks := by
  simp only [isBlank, Bool.or_eq_true, Bool.and_eq_true, decide_eq_true_eq, beq_iff_eq] at h
  simp only [blanks, List.mem_cons, List.not_mem_nil, or_false]
  omega

end Text

namespace Expr

theorem isNameChar_of_isBlank {c : Char} (h : Text.isBlank c = true) : isNameChar c = false := by
  have hall : ∀ n ∈ Text.blanks, isNameChar (Char.ofNat n) = false := by
    decide +kernel
  rw [← Char.ofNat_toNat c]
  exact hall _ (Text.toNat_mem_blanks h)

theorem isBlank_of_isNameChar {c : Char} (h : isNameChar c = true) : Text.isBlank c = false := by
  cases hblank : Text.isBlank c with
  | false => rfl
  | true =>
    rw [isNameChar_of_isBlank hblank] at h
    cases h

variable {name : String}

theorem not_mem_of_isName (h : isName name = true) {c : Char} (hc : isNameChar c = false) :
    c ∉ name.toList :=
  fun hm => ne_of_test (isNameChar_of_mem h c hm) hc rfl

theorem isTrimmed_of_isName (h : isName name = true) : Text.isTrimmed name.toList = true := by
  have hblank : ∀ c ∈ name.toList, Text.isBlank c = false := fun c hc =>
    isBlank_of_isNameChar (isNameChar_of_mem h c hc)
  rw [Text.isTrimmed_iff]
  constructor
  · cases hfirst : name.toList.head? with
    | none => rfl
    | some c => exact hblank c (List.mem_of_mem_head? hfirst)
  · cases hlast : name.toList.getLast? with
    | none => rfl
    | some c => exact hblank c (List.mem_of_mem_getLast? hlast)

theorem isPath_of_isName (h : isName name = true) : Placeholder.isPath name.toList = true := by
  obtain ⟨c, rest, hchars, hc, -⟩ := exists_of_isName h
  have hfree : ∀ c ∈ name.toList, c ≠ ',' ∧ c ≠ ':' := fun c hc =>
    ⟨ne_of_test (isNameChar_of_mem h c hc) (by decide),
      ne_of_test (isNameChar_of_mem h c hc) (by decide)⟩
  have hparen : name.toList.head? ≠ some '(' := by
    rw [hchars, List.head?_cons]
    exact fun heq => ne_of_test hc (by decide) (Option.some.inj heq)
  simp only [Placeholder.isPath, isTrimmed_of_isName h, Bool.and_eq_true, Bool.not_eq_true',
    List.isEmpty_eq_false_iff, List.all_eq_true, bne_iff_ne]
  exact ⟨⟨⟨by simp [hchars], trivial⟩, hfree⟩, hparen⟩

end Expr

/-! ### What a name is read as -/

theorem Path.isStop_of_isName {name : String} (h : Expr.isName name = true) {c : Char}
    (hc : c ∈ name.toList) : isStop c = false := by
  have hne : c ≠ '.' ∧ c ≠ '[' :=
    ⟨Expr.ne_of_test (Expr.isNameChar_of_mem h c hc) (by decide),
      Expr.ne_of_test (Expr.isNameChar_of_mem h c hc) (by decide)⟩
  simp [isStop, hne]

theorem Path.splitRoot_of_isName {name : String} (h : Expr.isName name = true) :
    splitRoot name = (name, "") := by
  have hstop : ∀ c ∈ name.toList, (!isStop c) = true := by
    intro c hc
    rw [isStop_of_isName h hc]
    rfl
  simp only [splitRoot, Text.trim_of_isTrimmed (Expr.isTrimmed_of_isName h)]
  rw [List.takeWhile_eq_self_iff.mpr hstop, List.dropWhile_eq_nil_iff.mpr hstop,
    String.ofList_toList]

/-- A text that can stand as a property is read as a mapping for that property. -/
theorem Mapping.parse_of_isPath {path : String} (h : Placeholder.isPath path.toList = true) :
    parse path = .ok { property := path } := by
  have hwritten : RendersAround { property := path } path.toList [] := by
    have hhead : WrittenFront { property := path } [] path.toList := by
      have := WrittenFront.untagged Expr.isGaps_nil
        (WrittenHead.property (m := { property := path }) h) Expr.isGaps_nil
      rwa [List.append_nil] at this
    refine ⟨[], path.toList, [], [], [], hhead, .nil, .nil, (List.append_nil _).symm,
      fun a => .inr ?_, rfl⟩
    cases a <;> rfl
  exact hwritten.parse (List.append_nil _).symm

theorem Mapping.parse_of_isName {name : String} (h : Expr.isName name = true) :
    parse name = .ok { property := name } :=
  parse_of_isPath (Expr.isPath_of_isName h)

/-! ### One span -/

namespace Delimiters

open Text (IsMark cut)

/-- A body between marks is one span, when it neither holds a closing mark nor ends in a
backslash. -/
theorem piecesOf_span {opening closing body : List Char} (ho : IsMark opening)
    (hc : IsMark closing) (hcut : cut closing body = none) (hbody : escapes body = false) :
    piecesOf opening closing (opening ++ (body ++ closing)) = [.literal [], .span body] := by
  have hempty : ∀ {mark : List Char}, IsMark mark → cut mark [] = none := by
    intro mark hm
    simp [cut, hm.ne_nil]
  have hopen : cut opening (opening ++ (body ++ closing)) = some ([], body ++ closing) :=
    Text.cut_append_mark (s := []) ho (hempty ho)
  have hclose : closeSpan closing (body ++ closing) = some (body, []) := by
    have hescaped : closeSpan closing (Text.escape closing body ++ (closing ++ [])) = _ :=
      closeSpan_escape hc hbody
    rwa [Text.escape_of_cut_eq_none hcut, List.append_nil] at hescaped
  have hlength : ([] : List Char).length < (opening ++ (body ++ closing)).length :=
    List.length_pos_iff.mpr (List.append_ne_nil_of_left_ne_nil ho.ne_nil _)
  have hrest : piecesOf opening closing [] = [] := by
    rw [piecesOf, hempty ho]
    rfl
  have hfront : escapes [] = false := rfl
  rw [piecesOf, hopen]
  simp only [hfront, hclose, hrest, Bool.false_eq_true, if_false, dif_pos hlength]

theorem pieces_placeholder {body : String} (hclose : '\x7d' ∉ body.toList)
    (hescapes : escapes body.toList = false) :
    placeholder.pieces (Error.placeholderText body) = [.literal [], .span body.toList] := by
  obtain ⟨hopening, hclosing⟩ := isMark (.inl rfl)
  have hcut : cut placeholder.closing.toList body.toList = none := by
    rw [Text.cut_eq_none_iff]
    intro before after heq
    refine hclose ?_
    rw [heq]
    simp [placeholder]
  rw [pieces, Error.placeholderText, String.toList_append, String.toList_append,
    List.append_assoc]
  exact piecesOf_span hopening hclosing hcut hescapes

theorem pieces_placeholder_of_isName {name : String} (h : Expr.isName name = true) :
    placeholder.pieces (Error.placeholderText name) = [.literal [], .span name.toList] := by
  refine pieces_placeholder (Expr.not_mem_of_isName h (by decide)) ?_
  rw [escapes, beq_eq_false_iff_ne]
  exact fun heq => Expr.not_mem_of_isName h (by decide) (List.mem_of_getLast? heq)

theorem pieces_placeholder_of_isName_parens {name : String} (h : Expr.isName name = true) :
    placeholder.pieces (Error.placeholderText ("(" ++ name ++ ")")) =
      [.literal [], .span ("(" ++ name ++ ")").toList] := by
  have hclose : '\x7d' ∉ name.toList := Expr.not_mem_of_isName h (by decide)
  have hlast : ("(" ++ name ++ ")").toList.getLast? = some ')' := by
    rw [String.toList_append]
    exact List.getLast?_concat
  refine pieces_placeholder (by simp [hclose]) ?_
  rw [escapes, hlast]
  rfl

end Delimiters

end QueryTemplate
