/-!
# Floats as a mantissa and a power of two

A finite float is `± mantissa * 2 ^ exponent`.  `ofFloat` takes the magnitude of a
float apart and `toFloat` puts one together.
-/

namespace QueryTemplate.Binary

/-- The magnitude `mantissa * 2 ^ exponent`. -/
structure Parts where
  mantissa : Nat
  exponent : Int
deriving DecidableEq, Repr

/-- Whether the sign of a float is set; it can be set on zero too. -/
def isNegative (x : Float) : Bool :=
  x.toBits.toNat / Nat.pow 2 63 == 1

namespace Parts

def ofFloat (x : Float) : Parts :=
  let bits := x.toBits.toNat
  let field : Nat := bits / Nat.pow 2 52 % Nat.pow 2 11
  let fraction : Nat := bits % Nat.pow 2 52
  if field = 0 then ⟨fraction, -1074⟩ else ⟨fraction + Nat.pow 2 52, (field : Int) - 1075⟩

/-- The float of a magnitude that some float has. -/
def toFloat (p : Parts) : Float :=
  let room := min (52 - p.mantissa.log2) (p.exponent + 1074).toNat
  let mantissa := p.mantissa * Nat.pow 2 room
  let exponent := p.exponent - room
  if mantissa < Nat.pow 2 52 then Float.ofBits (UInt64.ofNat mantissa)
  else
    Float.ofBits (UInt64.ofNat
      ((exponent + 1075).toNat * Nat.pow 2 52 + (mantissa - Nat.pow 2 52)))

/-- The mantissa of the magnitude when it is written with a smaller or equal exponent. -/
def mantissaAt (p : Parts) (exponent : Int) : Nat :=
  p.mantissa * Nat.pow 2 (p.exponent - exponent).toNat

end Parts

end QueryTemplate.Binary
