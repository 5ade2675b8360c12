/-!
# Sets of characters

A property of characters is stored as the code points at which membership
changes.  `CharSet.contains_iff` reads the stored form: a character belongs to
the set when an odd number of changes lie at or before it.
-/

namespace QueryTemplate

/-- A set of characters: the code points at which membership changes, in
increasing order.  The first one opens a run, the second one closes it. -/
structure CharSet where
  bounds : List Nat

namespace CharSet

/-- Whether the character lies in one of the runs. -/
def contains (s : CharSet) (c : Char) : Bool :=
  (s.bounds.takeWhile (· ≤ c.toNat)).length % 2 == 1

theorem contains_iff (s : CharSet) (c : Char) :
    s.contains c = true ↔ (s.bounds.takeWhile (· ≤ c.toNat)).length % 2 = 1 := by
  simp [contains]

/-- Nothing belongs to a set without runs. -/
@[simp] theorem contains_empty (c : Char) : (⟨[]⟩ : CharSet).contains c = false := rfl

end CharSet

end QueryTemplate
