import QueryTemplate.Decimal.Layout
import QueryTemplate.Decimal.Numeral

/-!
# Digits are read back

What is read from the decimal digits of a number is the number.

* `Decimal.isDigit_of_mem_digitsOf`, `Decimal.valueOfDigits_digitsOf`: the digits of a number.
* `Decimal.integer?_intText`: the text of a whole number, with its sign.
-/

namespace QueryTemplate.Decimal

theorem digitsOf_ne_nil {n : Nat} : digitsOf n ≠ [] :=
  Nat.toDigits_ne_nil

theorem isDigit_of_mem_digitsOf {n : Nat} {c : Char} (h : c ∈ digitsOf n) : c.isDigit = true :=
  Nat.isDigit_of_mem_toDigits (by decide) (by decide) h

theorem isDigit_of_mem_natText {n : Nat} {c : Char} (h : c ∈ (natText n).toList) :
    c.isDigit = true := by
  rw [natText, String.toList_ofList] at h
  exact isDigit_of_mem_digitsOf h

theorem valueOfDigits_digitsOf (n : Nat) : valueOfDigits (digitsOf n) = n :=
  Nat.ofDigitChars_toDigits (by decide) (by decide)

theorem natural?_eq_some {s : List Char} (hne : s ≠ []) (h : ∀ c ∈ s, c.isDigit = true) :
    natural? s = some (valueOfDigits s) := by
  rw [natural?, if_pos]
  simpa [hne] using h

theorem natural?_digitsOf (n : Nat) : natural? (digitsOf n) = some n := by
  rw [natural?_eq_some digitsOf_ne_nil fun _ => isDigit_of_mem_digitsOf, valueOfDigits_digitsOf]

/-- **The text of a whole number is read as the number.** -/
theorem integer?_intText {low high n : Int} (hlow : low ≤ n) (hhigh : n ≤ high) :
    integer? low high (intText n) = some n := by
  have hkeep : Option.filter (fun k => decide (low ≤ k ∧ k ≤ high)) (some n) = some n := by
    simp [hlow, hhigh]
  cases n with
  | negSucc n =>
    change ((natural? (digitsOf (n + 1))).map fun k => -(k : Int)).filter _ = _
    rw [natural?_digitsOf]
    exact hkeep
  | ofNat n =>
    have hsign : ∀ c rest, digitsOf n = c :: rest → c ≠ '-' ∧ c ≠ '+' := by
      intro c rest hdigits
      have hc := isDigit_of_mem_digitsOf (hdigits ▸ List.mem_cons_self)
      constructor <;> rintro rfl <;> exact absurd hc (by decide)
    have hread : integer? low high (intText (.ofNat n)) =
        ((natural? (digitsOf n)).map fun k => (k : Int)).filter
          fun k => decide (low ≤ k ∧ k ≤ high) := by
      rw [intText, integer?]
      · exact fun rest h => (hsign _ rest h).1 rfl
      · exact fun rest h => (hsign _ rest h).2 rfl
    rw [hread, natural?_digitsOf]
    exact hkeep

end QueryTemplate.Decimal
