import QueryTemplate.Proofs.Text

/-!
# Texts with single spaces

`Text.collapsed` takes a text apart into words and puts one space between them.
`Text.shrunk` does the same along the text: a blank becomes a space when a character that is no
blank stands behind it, and is dropped otherwise.

* `Text.toList_collapsed`: what is left of a text differs from `Text.shrunk` in no more than a
  blank at the front.
* `Text.shrunk_append`, `Text.exists_shrunk_append_cons`: a text is shrunk part by part, if the
  parts are cut behind or in front of a character that is no blank.
* `Text.infix_of_infix_shrunk`: no two characters become neighbours.
* `Text.shrunk_eq_self_iff`: the texts that stay as they are (`Text.IsShrunk`).
-/

namespace QueryTemplate.Text

/-- The text with one space for each run of blanks, and without the blanks at its end. -/
def shrunk : List Char → List Char
  | [] => []
  | c :: rest =>
    if isBlank c then
      if (shrunk rest).head?.any (!isBlank ·) then ' ' :: shrunk rest else shrunk rest
    else c :: shrunk rest

section

variable {c d : Char} {s t rest : List Char}

/-! ### One character -/

theorem shrunk_cons (hc : isBlank c = false) (rest : List Char) :
    shrunk (c :: rest) = c :: shrunk rest := by
  rw [shrunk, hc]
  rfl

theorem shrunk_blank (hc : isBlank c = true) (rest : List Char) :
    shrunk (c :: rest) = shrunk rest ∧ (shrunk rest).head?.any (!isBlank ·) = false ∨
      shrunk (c :: rest) = ' ' :: shrunk rest ∧
        (shrunk rest).head?.any (!isBlank ·) = true := by
  rw [shrunk, if_pos hc]
  cases hhead : (shrunk rest).head?.any (!isBlank ·) with
  | false => exact .inl ⟨rfl, rfl⟩
  | true => exact .inr ⟨rfl, rfl⟩

theorem head?_shrunk_blank (hc : isBlank c = true) (hd : isBlank d = false) :
    (shrunk (c :: rest)).head? ≠ some d := by
  intro hhead
  rcases shrunk_blank hc rest with ⟨hs, hany⟩ | ⟨hs, -⟩
  · rw [hs] at hhead
    rw [hhead, Option.any_some, hd] at hany
    cases hany
  · rw [hs] at hhead
    obtain rfl := Option.some.inj hhead
    cases hd

theorem head?_of_head?_shrunk (h : (shrunk s).head? = some d) (hd : isBlank d = false) :
    s.head? = some d := by
  cases s with
  | nil => cases h
  | cons c rest =>
    by_cases hc : isBlank c = true
    · exact absurd h (head?_shrunk_blank hc hd)
    · rwa [shrunk_cons (by simpa using hc)] at h

theorem eq_space_of_mem_shrunk (h : d ∈ shrunk s) (hd : isBlank d = true) : d = ' ' := by
  induction s with
  | nil => cases h
  | cons c rest ih =>
    by_cases hc : isBlank c = true
    · rcases shrunk_blank hc rest with ⟨hs, -⟩ | ⟨hs, -⟩
      · exact ih (hs ▸ h)
      · rw [hs] at h
        exact (List.mem_cons.mp h).elim id ih
    · have hc' : isBlank c = false := by simpa using hc
      rw [shrunk_cons hc'] at h
      rcases List.mem_cons.mp h with rfl | h
      · exact absurd hd hc
      · exact ih h

/-! ### Parts -/

theorem shrunk_of_forall (hs : ∀ c ∈ s, isBlank c = false) : shrunk s = s := by
  induction s with
  | nil => rfl
  | cons c rest ih =>
    rw [shrunk_cons (hs c List.mem_cons_self), ih fun d hd => hs d (List.mem_cons_of_mem c hd)]

/-- A text is shrunk up to a character that is no blank, whatever stands behind it. -/
theorem exists_shrunk_append_cons (hc : isBlank c = false) (s : List Char) :
    ∃ gap, (gap = [] ∨ gap = [' ']) ∧
      ∀ rest, shrunk (s ++ c :: rest) = shrunk s ++ gap ++ c :: shrunk rest := by
  induction s with
  | nil => exact ⟨[], .inl rfl, fun rest => shrunk_cons hc rest⟩
  | cons d s ih =>
    obtain ⟨gap, hgap, ih⟩ := ih
    by_cases hd : isBlank d = true
    · cases hs : shrunk s with
      | nil =>
        -- nothing but blanks in front of the character: all of them make one space
        refine ⟨[' '], .inr rfl, fun rest => ?_⟩
        rw [List.cons_append, shrunk, shrunk, ih rest, hs, if_pos hd, if_pos hd]
        rcases hgap with rfl | rfl
        · simp [hc]
        · simp [show isBlank ' ' = true from rfl]
      | cons e more =>
        refine ⟨gap, hgap, fun rest => ?_⟩
        rw [List.cons_append, shrunk, shrunk, ih rest, hs, if_pos hd, if_pos hd]
        by_cases he : isBlank e = true <;> simp [he]
    · have hd' : isBlank d = false := by simpa using hd
      refine ⟨gap, hgap, fun rest => ?_⟩
      rw [List.cons_append, shrunk_cons hd', shrunk_cons hd', ih rest]
      rfl

/-- **A text is shrunk part by part**, if the first part does not end in a blank. -/
theorem shrunk_append (hs : s.getLast?.any isBlank = false) (t : List Char) :
    shrunk (s ++ t) = shrunk s ++ shrunk t := by
  rcases List.eq_nil_or_concat s with rfl | ⟨front, c, rfl⟩
  · rfl
  · have hc : isBlank c = false := by simpa using hs
    obtain ⟨gap, -, hshrunk⟩ := exists_shrunk_append_cons hc front
    rw [List.concat_eq_append, List.append_assoc, List.singleton_append, hshrunk t, hshrunk []]
    simp [shrunk]

/-- **No two characters become neighbours.** -/
theorem infix_of_infix_shrunk {a b : Char} (ha : isBlank a = false) (hb : isBlank b = false)
    (h : [a, b] <:+: shrunk s) : [a, b] <:+: s := by
  induction s with
  | nil => exact h
  | cons c rest ih =>
    by_cases hc : isBlank c = true
    · rcases shrunk_blank hc rest with ⟨hs, -⟩ | ⟨hs, -⟩
      · rw [hs] at h
        exact List.infix_cons (ih h)
      · rw [hs] at h
        rcases List.infix_cons_iff.mp h with hfront | hmore
        · obtain ⟨rfl, -⟩ := List.cons_prefix_cons.mp hfront
          cases ha
        · exact List.infix_cons (ih hmore)
    · rw [shrunk_cons (by simpa using hc)] at h
      rcases List.infix_cons_iff.mp h with hfront | hmore
      · obtain ⟨rfl, tail, htail⟩ := List.cons_prefix_cons.mp hfront
        have hhead : (shrunk rest).head? = some b := by
          rw [← htail]
          rfl
        obtain ⟨more, rfl⟩ := List.head?_eq_some_iff.mp (head?_of_head?_shrunk hhead hb)
        exact ⟨[], more, rfl⟩
      · exact List.infix_cons (ih hmore)

/-! ### Texts that stay as they are -/

def IsShrunk (s : List Char) : Prop :=
  ∀ front c rest, s = front ++ c :: rest → isBlank c = true →
    c = ' ' ∧ rest.head?.any (!isBlank ·) = true

theorem isShrunk_cons_iff :
    IsShrunk (c :: rest) ↔
      (isBlank c = true → c = ' ' ∧ rest.head?.any (!isBlank ·) = true) ∧ IsShrunk rest := by
  constructor
  · intro h
    exact ⟨h [] c rest rfl, fun front d more heq =>
      h (c :: front) d more (by rw [heq, List.cons_append])⟩
  · rintro ⟨hc, h⟩ front d more heq
    cases front with
    | nil =>
      obtain ⟨rfl, rfl⟩ := List.cons.inj heq
      exact hc
    | cons e front =>
      obtain ⟨-, hrest⟩ := List.cons.inj heq
      exact h front d more hrest

theorem length_shrunk_le (s : List Char) : (shrunk s).length ≤ s.length := by
  induction s with
  | nil => exact Nat.le_refl _
  | cons c rest ih =>
    rw [shrunk]
    split
    · split
      · exact Nat.succ_le_succ ih
      · exact Nat.le_succ_of_le ih
    · exact Nat.succ_le_succ ih

/-- **A text stays as it is exactly when its blanks are single spaces**, none of them at its
end. -/
theorem shrunk_eq_self_iff : shrunk s = s ↔ IsShrunk s := by
  induction s with
  | nil =>
    refine ⟨fun _ front c rest heq => ?_, fun _ => rfl⟩
    cases front <;> cases heq
  | cons c rest ih =>
    rw [isShrunk_cons_iff]
    by_cases hc : isBlank c = true
    · rcases shrunk_blank hc rest with ⟨hs, hhead⟩ | ⟨hs, hhead⟩
      · constructor
        · intro h
          have hle := length_shrunk_le rest
          rw [← hs, h, List.length_cons] at hle
          omega
        · rintro ⟨hkept, hrest⟩
          rw [ih.mpr hrest, (hkept hc).2] at hhead
          cases hhead
      · rw [hs, List.cons.injEq, ih]
        constructor
        · rintro ⟨hspace, hrest⟩
          rw [ih.mpr hrest] at hhead
          exact ⟨fun _ => ⟨hspace.symm, hhead⟩, hrest⟩
        · rintro ⟨hkept, hrest⟩
          exact ⟨(hkept hc).1.symm, hrest⟩
    · rw [shrunk_cons (by simpa using hc), List.cons.injEq, ih]
      exact ⟨fun h => ⟨fun hblank => absurd hblank hc, h.2⟩, fun h => ⟨rfl, h.2⟩⟩

/-! ### Words -/

/-- The pieces between blanks are what a shrunk text is made of. -/
theorem exists_cutAt_isBlank (s : List Char) :
    ∃ piece pieces, cutAt isBlank s = piece :: pieces ∧
      (∀ p ∈ piece :: pieces, ∀ c ∈ p, isBlank c = false) ∧
      shrunk s = piece ++ (pieces.filter fun p => !p.isEmpty).flatMap (' ' :: ·) := by
  induction s with
  | nil => exact ⟨[], [], rfl, by simp, rfl⟩
  | cons c rest ih =>
    obtain ⟨piece, pieces, hcut, hfree, hshrunk⟩ := ih
    by_cases hc : isBlank c = true
    · refine ⟨[], piece :: pieces, by rw [cutAt, if_pos hc, hcut], ?_, ?_⟩
      · intro p hp
        rcases List.mem_cons.mp hp with rfl | hp
        · exact List.forall_mem_nil _
        · exact hfree p hp
      · rw [shrunk, if_pos hc, hshrunk]
        cases piece with
        | nil =>
          rw [List.nil_append, List.nil_append, List.filter_cons_of_neg (by simp)]
          cases pieces.filter fun p => !p.isEmpty <;> rfl
        | cons d more =>
          have hd : isBlank d = false := hfree _ List.mem_cons_self d List.mem_cons_self
          simp [hd]
    · refine ⟨c :: piece, pieces, by rw [cutAt, if_neg hc, hcut], ?_, ?_⟩
      · intro p hp d hd
        rcases List.mem_cons.mp hp with rfl | hp
        · rcases List.mem_cons.mp hd with rfl | hd
          · simpa using hc
          · exact hfree piece List.mem_cons_self d hd
        · exact hfree p (List.mem_cons_of_mem piece hp) d hd
      · rw [shrunk_cons (by simpa using hc), hshrunk]
        rfl

theorem intercalate_cons_eq_append_flatMap (c : Char) (first : List Char)
    (more : List (List Char)) :
    [c].intercalate (first :: more) = first ++ more.flatMap (c :: ·) := by
  induction more generalizing first with
  | nil => simp
  | cons second more ih =>
    rw [List.intercalate_cons_cons, ih]
    simp

/-- **The words of a text with single spaces** are the shrunk text, without a space at its
front. -/
theorem toList_collapsed (s : String) : (collapsed s).toList = trimStart (shrunk s.toList) := by
  have hstrings : ((words s.toList).map String.ofList).map String.toList = words s.toList := by
    simp [Function.comp_def]
  obtain ⟨piece, pieces, hcut, hfree, hshrunk⟩ := exists_cutAt_isBlank s.toList
  have hpieces : words s.toList = (piece :: pieces).filter fun p => !p.isEmpty := by
    rw [words, fields, hcut]
  show (String.intercalate " " _).toList = _
  rw [String.toList_intercalate, hstrings, hpieces, hshrunk]
  cases piece with
  | cons c more =>
    have hc : isBlank c = false := hfree _ List.mem_cons_self c List.mem_cons_self
    rw [List.filter_cons_of_pos (by simp), trimStart_of_head? (by simpa using hc)]
    exact intercalate_cons_eq_append_flatMap ' ' (c :: more) _
  | nil =>
    rw [List.filter_cons_of_neg (by simp), List.nil_append]
    cases hwords : pieces.filter fun p => !p.isEmpty with
    | nil => rfl
    | cons first more =>
      have hmem : first ∈ pieces ∧ (!first.isEmpty) = true :=
        List.mem_filter.mp (hwords ▸ List.mem_cons_self)
      obtain ⟨c, tail, rfl⟩ : ∃ c tail, first = c :: tail := by
        cases first with
        | nil => cases hmem.2
        | cons c tail => exact ⟨c, tail, rfl⟩
      have hc : isBlank c = false :=
        hfree _ (List.mem_cons_of_mem [] hmem.1) c List.mem_cons_self
      rw [List.flatMap_cons, List.cons_append]
      show _ = trimStart ((c :: tail) ++ _)
      rw [trimStart_of_head? (by simpa using hc)]
      exact intercalate_cons_eq_append_flatMap ' ' (c :: tail) more

end

end QueryTemplate.Text
