import QueryTemplate.Proofs.Sql.OuterOrder
import QueryTemplate.Statement.Paging

/-!
# The part of a statement that is counted

Counting leaves the blanks at the end of a statement out, and the outer order with those in
front of it.  It takes the statement as it is when `?` or `$` stands in the outer order.

* `Statement.exists_dropped`: what is left out holds neither of these signs, and starts with a
  blank or with the letter `O`.
-/

namespace QueryTemplate.Statement

open Sql

theorem countedBody_eq (sql : String) :
    countedBody sql =
      if (splitOrderBy sql).2.any (fun c => c == '?' || c == '$') = true then sql
      else String.ofList (Text.trimEnd (splitOrderBy sql).1) :=
  rfl

theorem countedBody_of_marked {sql : String}
    (h : ¬ ∀ c ∈ (splitOrderBy sql).2, c ≠ '?' ∧ c ≠ '$') : countedBody sql = sql := by
  rw [countedBody_eq, if_pos]
  rw [List.any_eq_true]
  by_contra hnone
  refine h fun c hc => ⟨?_, ?_⟩
  · rintro rfl
    exact hnone ⟨_, hc, rfl⟩
  · rintro rfl
    exact hnone ⟨_, hc, rfl⟩

theorem countedBody_of_unmarked {sql : String}
    (h : ∀ c ∈ (splitOrderBy sql).2, c ≠ '?' ∧ c ≠ '$') :
    countedBody sql = String.ofList (Text.trimEnd (splitOrderBy sql).1) := by
  rw [countedBody_eq, if_neg]
  rw [List.any_eq_true]
  rintro ⟨c, hc, hmark⟩
  have hfree := h c hc
  simp [hfree.1, hfree.2] at hmark

/-- What counting leaves out of a statement holds neither `?` nor `$`, and starts with a blank or
with the letter `O`. -/
theorem exists_dropped (sql : String) :
    ∃ dropped, (countedBody sql).toList ++ dropped = sql.toList ∧
      (∀ x ∈ dropped, x ≠ '?' ∧ x ≠ '$') ∧
      ∀ x, dropped.head? = some x → Text.isBlank x = true ∨ x.toUpper = 'O' := by
  by_cases hfree : ∀ c ∈ (splitOrderBy sql).2, c ≠ '?' ∧ c ≠ '$'
  · have htrim := Text.dropEndWhile_append Text.isBlank (splitOrderBy sql).1
    have hblank : ∀ x ∈ ((splitOrderBy sql).1.reverse.takeWhile Text.isBlank).reverse,
        Text.isBlank x = true :=
      fun x hx => List.mem_takeWhile_imp (List.mem_reverse.mp hx)
    generalize ((splitOrderBy sql).1.reverse.takeWhile Text.isBlank).reverse = blanks at *
    refine ⟨blanks ++ (splitOrderBy sql).2, ?_, fun x hx => ?_, fun x hx => ?_⟩
    · rw [countedBody_of_unmarked hfree, String.toList_ofList, Text.trimEnd, ← List.append_assoc,
        htrim, append_splitOrderBy]
    · rcases List.mem_append.mp hx with hx | hx
      · have hxblank := hblank x hx
        constructor
        · rintro rfl
          cases hxblank
        · rintro rfl
          cases hxblank
      · exact hfree x hx
    · cases blanks with
      | nil =>
        obtain ⟨rest, hrest⟩ := List.head?_eq_some_iff.mp hx
        exact .inr (toUpper_of_splitOrderBy hrest)
      | cons y blanks =>
        obtain rfl := Option.some.inj hx
        exact .inl (hblank _ List.mem_cons_self)
  · refine ⟨[], ?_, fun x hx => absurd hx List.not_mem_nil, fun x hx => by cases hx⟩
    rw [countedBody_of_marked hfree, List.append_nil]

end QueryTemplate.Statement
