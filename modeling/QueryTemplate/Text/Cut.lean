/-!
# Cutting a text at a token

`cut token s` splits a text at the first place where a token stands; the parts
before and after the token make up the text with the token between them
(`eq_of_cut`), and no token stands earlier (`cut_eq_none_iff` for the part that was
skipped).  `offset` counts the bytes before an end of a text.
-/

namespace QueryTemplate.Text

/-- The text before and after the first occurrence of a token. -/
def cut (token : List Char) : List Char → Option (List Char × List Char)
  | [] => if token.isEmpty then some ([], []) else none
  | c :: rest =>
    if token.isPrefixOf (c :: rest) then some ([], (c :: rest).drop token.length)
    else (cut token rest).map fun (before, after) => (c :: before, after)

/-- Cutting loses nothing but the token. -/
theorem eq_of_cut {token s before after : List Char} (h : cut token s = some (before, after)) :
    s = before ++ token ++ after := by
  induction s generalizing before with
  | nil =>
    simp only [cut] at h
    split at h
    · rename_i ht; simp_all
    · simp at h
  | cons c rest ih =>
    simp only [cut] at h
    split at h
    · rename_i ht
      obtain ⟨rfl, rfl⟩ := by simpa using h
      obtain ⟨tail, ht⟩ := List.isPrefixOf_iff_prefix.1 ht
      simp [← ht]
    · obtain ⟨⟨b, a⟩, hcut, heq⟩ := Option.map_eq_some_iff.1 h
      simp only [Prod.mk.injEq] at heq
      obtain ⟨rfl, rfl⟩ := heq
      simpa using ih hcut

/-- A text cannot be cut exactly when the token stands nowhere in it. -/
theorem cut_eq_none_iff {token s : List Char} :
    cut token s = none ↔ ∀ before after, s ≠ before ++ token ++ after := by
  constructor
  · intro h before after hs
    induction before generalizing s with
    | nil =>
      subst hs
      cases token with
      | nil => cases after <;> simp [cut] at h
      | cons t ts => simp [cut] at h
    | cons b bs ih =>
      subst hs
      simp only [List.cons_append, cut] at h
      split at h
      · simp at h
      · exact ih (by simpa using h) (by simp)
  · intro h
    cases hc : cut token s with
    | none => rfl
    | some p => exact absurd (eq_of_cut hc) (h p.1 p.2)

/-- The text after a cut is no longer than the text. -/
theorem length_of_cut {token s before after : List Char} (h : cut token s = some (before, after)) :
    s.length = before.length + token.length + after.length := by
  simp [eq_of_cut h, Nat.add_assoc]

/-! ### Places in bytes -/

def byteLength : List Char → Nat
  | [] => 0
  | c :: rest => c.utf8Size + byteLength rest

/-- The byte of a text at which its end `rest` begins. -/
def offset (s rest : List Char) : Nat :=
  byteLength s - byteLength rest

theorem byteLength_append (s t : List Char) :
    byteLength (s ++ t) = byteLength s + byteLength t := by
  induction s with
  | nil => simp [byteLength]
  | cons c rest ih => rw [List.cons_append, byteLength, byteLength, ih, Nat.add_assoc]

/-- The end of a text begins behind the bytes in front of it. -/
theorem offset_append (before rest : List Char) :
    offset (before ++ rest) rest = byteLength before := by
  simp [offset, byteLength_append]

/-! ### Taking tokens off the front -/

abbrev Shorter (bound : Nat) := { rest : List Char // rest.length < bound }

/-- Takes a nonempty token off the front of a text. -/
def strip? (token s : List Char) : Option (Shorter s.length) :=
  if h : token ≠ [] ∧ token.isPrefixOf s = true then
    some ⟨s.drop token.length, by
      have hp := (List.isPrefixOf_iff_prefix.1 h.2).length_le
      have hn := List.length_pos_iff.2 h.1
      simp only [List.length_drop]; omega⟩
  else none

/-- Stripping leaves what stands behind the token. -/
theorem eq_of_strip? {token s : List Char} {rest : Shorter s.length}
    (h : strip? token s = some rest) : s = token ++ rest.val := by
  unfold strip? at h
  split at h
  · rename_i hc
    obtain ⟨tail, ht⟩ := List.isPrefixOf_iff_prefix.1 hc.2
    obtain rfl := Option.some.inj h
    simp [← ht]
  · simp at h

/-- A nonempty token in front of a text is stripped. -/
theorem strip?_append {token rest : List Char} (h : token ≠ []) :
    (strip? token (token ++ rest)).map Subtype.val = some rest := by
  have hp : token.isPrefixOf (token ++ rest) = true := by simp
  simp [strip?, h]

end QueryTemplate.Text
