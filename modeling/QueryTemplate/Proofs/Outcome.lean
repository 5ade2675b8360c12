import QueryTemplate.Error

/-!
# Outcomes

Composing a template is a chain of steps each of which may fail.  `bind_eq_ok_iff`
takes one step off a chain that succeeds, `mapError_eq_ok_iff` looks behind the
renaming of an error, `getElem?_of_mapM_eq_ok` picks one step of many, and
`length_of_mapM_eq_ok` counts their results.
`bind_eq_error_iff`, `mapError_eq_error_iff`, `exists_of_mapM_eq_error` and
`exists_of_forM_eq_error` say where the error of a chain, a renamed error and the error of
many steps come from.
-/

namespace QueryTemplate.Outcome

variable {ε ε' α β : Type}

theorem bind_eq_ok_iff {x : Except ε α} {f : α → Except ε β} {b : β} :
    x >>= f = .ok b ↔ ∃ a, x = .ok a ∧ f a = .ok b := by
  cases x with
  | error e => simp [bind, Except.bind]
  | ok a => simp [bind, Except.bind]

@[simp] theorem mapError_eq_ok_iff {x : Except ε α} {f : ε → ε'} {a : α} :
    x.mapError f = .ok a ↔ x = .ok a := by
  cases x with
  | error e => constructor <;> intro h <;> cases h
  | ok a' =>
    constructor
    · intro h
      exact congrArg Except.ok (Except.ok.inj h)
    · intro h
      exact congrArg Except.ok (Except.ok.inj h)

theorem bind_eq_error_iff {x : Except ε α} {f : α → Except ε β} {e : ε} :
    x >>= f = .error e ↔ x = .error e ∨ ∃ a, x = .ok a ∧ f a = .error e := by
  cases x with
  | error e' => simp [bind, Except.bind]
  | ok a => simp [bind, Except.bind]

theorem mapError_eq_error_iff {x : Except ε α} {f : ε → ε'} {e : ε'} :
    x.mapError f = .error e ↔ ∃ e', x = .error e' ∧ e = f e' := by
  cases x with
  | error e' =>
    constructor
    · intro h
      exact ⟨e', rfl, (Except.error.inj h).symm⟩
    · rintro ⟨e'', h, rfl⟩
      obtain rfl := Except.error.inj h
      rfl
  | ok a =>
    constructor
    · intro h
      cases h
    · rintro ⟨e', h, -⟩
      cases h

theorem map_eq_ok_iff {x : Except ε α} {f : α → β} {b : β} :
    x.map f = .ok b ↔ ∃ a, x = .ok a ∧ f a = b := by
  cases x with
  | error e => simp [Except.map]
  | ok a => simp [Except.map]

@[simp] theorem map_eq_error_iff {x : Except ε α} {f : α → β} {e : ε} :
    x.map f = .error e ↔ x = .error e := by
  cases x with
  | error e' => simp [Except.map]
  | ok a => simp [Except.map]

@[simp] theorem pure_eq_ok_iff {a b : α} : (pure a : Except ε α) = .ok b ↔ a = b := by
  simp [pure, Except.pure]

theorem getElem?_of_mapM_eq_ok {f : α → Except ε β} {l : List α} {results : List β}
    (h : l.mapM f = .ok results) {i : Nat} {a : α} (ha : l[i]? = some a) :
    ∃ b, results[i]? = some b ∧ f a = .ok b := by
  induction l generalizing results i with
  | nil => simp at ha
  | cons first rest ih =>
    rw [List.mapM_cons] at h
    obtain ⟨b, hb, h⟩ := bind_eq_ok_iff.mp h
    obtain ⟨more, hmore, h⟩ := bind_eq_ok_iff.mp h
    obtain rfl := pure_eq_ok_iff.mp h
    cases i with
    | zero =>
      obtain rfl := Option.some.inj ha
      exact ⟨b, rfl, hb⟩
    | succ i => exact ih hmore ha

theorem length_of_mapM_eq_ok {f : α → Except ε β} {l : List α} {results : List β}
    (h : l.mapM f = .ok results) : results.length = l.length := by
  induction l generalizing results with
  | nil =>
    obtain rfl := pure_eq_ok_iff.mp h
    rfl
  | cons first rest ih =>
    rw [List.mapM_cons] at h
    obtain ⟨b, -, h⟩ := bind_eq_ok_iff.mp h
    obtain ⟨more, hmore, h⟩ := bind_eq_ok_iff.mp h
    obtain rfl := pure_eq_ok_iff.mp h
    rw [List.length_cons, ih hmore, List.length_cons]

theorem forM_eq_ok_iff {f : α → Except ε Unit} {l : List α} :
    l.forM f = .ok () ↔ ∀ a ∈ l, f a = .ok () := by
  induction l with
  | nil => simp [pure, Except.pure]
  | cons first rest ih =>
    rw [List.forall_mem_cons, ← ih]
    exact bind_eq_ok_iff.trans ⟨fun ⟨_, h, hrest⟩ => ⟨h, hrest⟩, fun ⟨h, hrest⟩ => ⟨(), h, hrest⟩⟩

/-- When a walk over a list fails, it fails at an item behind those whose steps succeed. -/
theorem exists_of_forM_eq_error {f : α → Except ε Unit} {l : List α} {e : ε}
    (h : l.forM f = .error e) :
    ∃ before a after, l = before ++ a :: after ∧ before.forM f = .ok () ∧ f a = .error e := by
  induction l with
  | nil => cases h
  | cons first rest ih =>
    rcases bind_eq_error_iff.mp h with hfirst | ⟨⟨⟩, hfirst, h⟩
    · exact ⟨[], first, rest, rfl, rfl, hfirst⟩
    · obtain ⟨before, a, after, rfl, hbefore, ha⟩ := ih h
      exact ⟨first :: before, a, after, rfl, bind_eq_ok_iff.mpr ⟨(), hfirst, hbefore⟩, ha⟩

/-- **A walk over a list fails at the first item whose step fails**, and with its error. -/
theorem forM_eq_error_iff {f : α → Except ε Unit} {l : List α} {e : ε} :
    l.forM f = .error e ↔
      ∃ before a after, l = before ++ a :: after ∧ (∀ b ∈ before, f b = .ok ()) ∧
        f a = .error e := by
  constructor
  · intro h
    obtain ⟨before, a, after, hl, hbefore, ha⟩ := exists_of_forM_eq_error h
    exact ⟨before, a, after, hl, forM_eq_ok_iff.mp hbefore, ha⟩
  · rintro ⟨before, a, after, rfl, hbefore, ha⟩
    induction before with
    | nil => exact bind_eq_error_iff.mpr (.inl ha)
    | cons first rest ih =>
      have hrest := ih fun b hb => hbefore b (List.mem_cons_of_mem _ hb)
      exact bind_eq_error_iff.mpr (.inr ⟨(), hbefore first List.mem_cons_self, hrest⟩)

theorem exists_of_mapM_eq_error {f : α → Except ε β} {l : List α} {e : ε}
    (h : l.mapM f = .error e) : ∃ a ∈ l, f a = .error e := by
  induction l with
  | nil => cases h
  | cons first rest ih =>
    rw [List.mapM_cons] at h
    rcases bind_eq_error_iff.mp h with hfirst | ⟨b, -, h⟩
    · exact ⟨first, List.mem_cons_self, hfirst⟩
    · rcases bind_eq_error_iff.mp h with hrest | ⟨more, -, h⟩
      · obtain ⟨a, ha, hfa⟩ := ih hrest
        exact ⟨a, List.mem_cons_of_mem _ ha, hfa⟩
      · cases h

end QueryTemplate.Outcome
