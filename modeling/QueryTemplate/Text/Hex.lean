/-!
# Hexadecimal digits

`hexDigit` writes one digit in lower case and `hexValue?` reads one in either
case; `hexDigits` writes a whole number without leading zeros.  Reading a written
digit gives it back (`hexValue?_hexDigit`).
-/

namespace QueryTemplate.Text

/-- The last hexadecimal digit of a number, in lower case. -/
def hexDigit (n : Nat) : Char :=
  Nat.digitChar (n % 16)

/-- The hexadecimal digits of a number, in lower case. -/
def hexDigits (n : Nat) : List Char :=
  Nat.toDigits 16 n

def hexValue? (c : Char) : Option Nat :=
  if c.isDigit then some (c.toNat - '0'.toNat)
  else if 'a' ≤ c && c ≤ 'f' then some (c.toNat - 'a'.toNat + 10)
  else if 'A' ≤ c && c ≤ 'F' then some (c.toNat - 'A'.toNat + 10)
  else none

theorem hexValue?_digitChar : ∀ d : Fin 16, hexValue? (Nat.digitChar d) = some d.val := by
  decide

theorem hexValue?_hexDigit (n : Nat) : hexValue? (hexDigit n) = some (n % 16) :=
  hexValue?_digitChar ⟨n % 16, Nat.mod_lt _ (by decide)⟩

end QueryTemplate.Text
