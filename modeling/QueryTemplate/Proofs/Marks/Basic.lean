import QueryTemplate.Text.Blank

/-!
# Marked texts

`Marked mark k i j s` says that the text `s` consists of the marks `i + 1`, …, `j`, in
this order, with texts between them that are free of the character `k`.  The
character stands in every mark, so that no mark can hide in a free text.

* `Marked.append`, `Marked.split`: marked texts can be put together, and a marked text
  can be cut at a character that stands in no mark.
* `Marked.exists_gaps`, `Marked.of_gaps`, `Marked.count_eq`: the texts between the marks,
  and how many marks there are.
* `AllMarked.intercalate`, `Marked.cutAt`: the same for lists of texts, which share the
  marks among them in order.
-/

namespace QueryTemplate

/-- The text holds the marks from `i + 1` to `j` in order, and is free of `k` between
them. -/
inductive Marked (mark : Nat → List Char) (k : Char) : Nat → Nat → List Char → Prop
  | free {i s} (h : k ∉ s) : Marked mark k i i s
  | mark {i j t s} (h : k ∉ t) (hs : Marked mark k (i + 1) j s) :
      Marked mark k i j (t ++ mark (i + 1) ++ s)

inductive AllMarked (mark : Nat → List Char) (k : Char) : Nat → Nat → List (List Char) → Prop
  | nil {i} : AllMarked mark k i i []
  | cons {i j l s rest} (h : Marked mark k i j s) (hr : AllMarked mark k j l rest) :
      AllMarked mark k i l (s :: rest)

namespace Marked

variable {mark : Nat → List Char} {k : Char} {i j l : Nat} {s t : List Char}

theorem append (h : Marked mark k i j s) (ht : Marked mark k j l t) :
    Marked mark k i l (s ++ t) := by
  induction h with
  | @free i s h =>
    cases ht with
    | free h' => exact .free (by simp [h, h'])
    | @mark _ _ t' s' h' hs =>
      rw [← List.append_assoc, ← List.append_assoc]
      exact .mark (by simp [h, h']) hs
  | mark h hs ih =>
    rw [List.append_assoc]
    exact .mark h (ih ht)

theorem eq_of_free (hk : ∀ n, k ∈ mark n) (h : Marked mark k i j s) (hs : k ∉ s) : i = j := by
  cases h with
  | free => rfl
  | mark => exact absurd (by simp [hk]) hs

theorem count_eq (honce : ∀ n, (mark n).count k = 1) (h : Marked mark k i j s) :
    i + s.count k = j := by
  induction h with
  | free h => rw [List.count_eq_zero.mpr h, Nat.add_zero]
  | @mark i j t s h hs ih =>
    rw [List.count_append, List.count_append, List.count_eq_zero.mpr h, honce (i + 1)]
    omega

/-- **A marked text can be cut at a character that stands in no mark.** -/
theorem split (hk : ∀ n, k ∈ mark n) {b : Char} (hb : ∀ n, b ∉ mark n)
    (h : Marked mark k i l (s ++ b :: t)) :
    ∃ j, Marked mark k i j s ∧ Marked mark k j l t := by
  generalize hu : s ++ b :: t = u at h
  induction h generalizing s with
  | @free i u h =>
    subst hu
    simp only [List.mem_append, List.mem_cons, not_or] at h
    exact ⟨i, .free h.1, .free h.2.2⟩
  | @mark i l t' r h hs ih =>
    have hne : mark (i + 1) ≠ [] := List.ne_nil_of_mem (hk _)
    rw [List.append_assoc] at hu
    rcases List.append_eq_append_iff.mp hu with ⟨a, hta, hab⟩ | ⟨a, hsa, hab⟩
    · -- The character stands in the text before the mark.
      cases a with
      | nil =>
        obtain ⟨x, xs, hx⟩ := List.exists_cons_of_ne_nil hne
        rw [hx] at hab
        obtain rfl := (List.cons.inj hab).1
        exact absurd (by simp [hx]) (hb (i + 1))
      | cons x a =>
        rw [List.cons_append] at hab
        obtain ⟨rfl, hat⟩ := List.cons.inj hab
        subst hta
        simp only [List.mem_append, List.mem_cons, not_or] at h
        refine ⟨i, .free h.1, ?_⟩
        rw [hat, ← List.append_assoc]
        exact .mark h.2.2 hs
    · -- The character stands behind the start of the mark, so it stands behind the mark.
      rcases List.append_eq_append_iff.mp hab with ⟨a', ham, hr⟩ | ⟨a', ham, hr⟩
      · obtain ⟨j, hj, hjl⟩ := ih hr.symm
        refine ⟨j, ?_, hjl⟩
        rw [hsa, ham, ← List.append_assoc]
        exact .mark h hj
      · cases a' with
        | nil =>
          rw [List.append_nil] at ham
          obtain ⟨j, hj, hjl⟩ := ih (s := []) hr
          refine ⟨j, ?_, hjl⟩
          rw [hsa, ← ham, ← List.append_nil (t' ++ mark (i + 1))]
          exact .mark h hj
        | cons x a' =>
          obtain ⟨rfl, -⟩ := List.cons.inj hr
          exact absurd (by simp [ham]) (hb (i + 1))

theorem of_append_left (hk : ∀ n, k ∈ mark n) {a : List Char} (ha : ∀ x ∈ a, ∀ n, x ∉ mark n)
    (h : Marked mark k i j (a ++ s)) : Marked mark k i j s := by
  induction a with
  | nil => exact h
  | cons x a ih =>
    refine ih (fun y hy => ha y (List.mem_cons_of_mem x hy)) ?_
    obtain ⟨m, him, hmj⟩ := split (s := []) hk (ha x List.mem_cons_self) h
    obtain rfl := him.eq_of_free hk List.not_mem_nil
    exact hmj

theorem of_append_right (hk : ∀ n, k ∈ mark n) {b : List Char} (hb : ∀ x ∈ b, ∀ n, x ∉ mark n)
    (h : Marked mark k i j (s ++ b)) : Marked mark k i j s := by
  cases b with
  | nil => simpa using h
  | cons x b =>
    obtain ⟨m, him, hmj⟩ := split hk (hb x List.mem_cons_self) h
    have hfree : k ∉ b := fun hkb => hb k (List.mem_cons_of_mem x hkb) 0 (hk 0)
    obtain rfl := hmj.eq_of_free hk hfree
    exact him

/-- The texts between the marks. -/
theorem exists_gaps (h : Marked mark k i j s) :
    ∃ (n : Nat) (t : Nat → List Char), j = i + n ∧ (∀ m, k ∉ t m) ∧
      s = t 0 ++ ((List.range n).map fun m => mark (i + m + 1) ++ t (m + 1)).flatten := by
  induction h with
  | @free i s h => exact ⟨0, fun _ => s, rfl, fun _ => h, by simp⟩
  | @mark i j t s h hs ih =>
    obtain ⟨n, u, rfl, hu, rfl⟩ := ih
    refine ⟨n + 1, fun m => if m = 0 then t else u (m - 1), by omega, fun m => ?_, ?_⟩
    · cases m with
      | zero => exact h
      | succ m => exact hu m
    · have hindex : ∀ m, i + (m + 1) + 1 = i + 1 + m + 1 := by omega
      simp [List.range_succ_eq_map, Function.comp_def, hindex]

/-- A text between marks that stand in a row makes up a marked text. -/
theorem of_gaps {n : Nat} {t : Nat → List Char} (ht : ∀ m ≤ n, k ∉ t m) :
    Marked mark k i (i + n)
      (t 0 ++ ((List.range n).map fun m => mark (i + m + 1) ++ t (m + 1)).flatten) := by
  induction n generalizing i t with
  | zero => simpa using Marked.free (ht 0 (Nat.le_refl 0))
  | succ n ih =>
    have hrest := ih (i := i + 1) (t := fun m => t (m + 1)) fun m hm => ht (m + 1) (by omega)
    have hmark := Marked.mark (ht 0 (Nat.zero_le _)) hrest
    have hindex : ∀ m, i + (m + 1) + 1 = i + 1 + m + 1 := by omega
    have hend : i + (n + 1) = i + 1 + n := by omega
    rw [hend]
    simpa [List.range_succ_eq_map, Function.comp_def, hindex] using hmark

end Marked

namespace AllMarked

variable {mark : Nat → List Char} {k : Char} {i j l : Nat} {parts : List (List Char)}

theorem nonempty (hk : ∀ n, k ∈ mark n) (h : AllMarked mark k i j parts) :
    AllMarked mark k i j (parts.filter fun s => !s.isEmpty) := by
  induction h with
  | nil => exact .nil
  | @cons i j l s rest h hr ih =>
    cases s with
    | nil =>
      obtain rfl := h.eq_of_free hk List.not_mem_nil
      exact ih
    | cons x s => exact .cons h ih

theorem intercalate {sep : List Char} (hsep : k ∉ sep) (h : AllMarked mark k i j parts) :
    Marked mark k i j (sep.intercalate parts) := by
  induction h with
  | nil => exact .free List.not_mem_nil
  | @cons i j l s rest h hr ih =>
    cases rest with
    | nil =>
      cases hr
      simpa using h
    | cons s' rest =>
      rw [List.intercalate_cons_cons]
      exact (h.append (.free hsep)).append ih

end AllMarked

/-! ### Cutting at blanks -/

theorem Text.cutAt_eq (p : Char → Bool) (s : List Char) :
    Text.cutAt p s = s.takeWhile (!p ·) ::
      match s.dropWhile (!p ·) with
      | [] => []
      | _ :: rest => Text.cutAt p rest := by
  induction s with
  | nil => rfl
  | cons c s ih =>
    by_cases hc : p c = true
    · simp [Text.cutAt, hc]
    · simp only [Bool.not_eq_true] at hc
      simp only [Text.cutAt, hc, Bool.false_eq_true, if_false, List.takeWhile_cons,
        List.dropWhile_cons, Bool.not_false, if_true, ih]

/-- The pieces between characters that stand in no mark share the marks of the text. -/
theorem Marked.cutAt {mark : Nat → List Char} {k : Char} (hk : ∀ n, k ∈ mark n)
    {p : Char → Bool} (hp : ∀ x, p x = true → ∀ n, x ∉ mark n) {i l : Nat} {s : List Char}
    (h : Marked mark k i l s) : AllMarked mark k i l (Text.cutAt p s) := by
  induction hn : s.length using Nat.strongRecOn generalizing i s with
  | ind n ih =>
    rw [Text.cutAt_eq]
    have hs : s.takeWhile (!p ·) ++ s.dropWhile (!p ·) = s := List.takeWhile_append_dropWhile
    cases hd : s.dropWhile (!p ·) with
    | nil =>
      rw [hd, List.append_nil] at hs
      exact .cons (by rwa [hs]) .nil
    | cons b rest =>
      rw [hd] at hs
      have hb : p b = true := by
        have := List.head?_dropWhile_not (!p ·) s
        simpa [hd] using this
      rw [← hs] at h
      obtain ⟨j, hij, hjl⟩ := h.split hk (hp b hb)
      refine .cons hij (ih rest.length ?_ hjl rfl)
      rw [← hn, ← hs, List.length_append, List.length_cons]
      omega

end QueryTemplate
