import QueryTemplate.Binary.Parts

/-!
# The exact remainder of two floats

`remainder x y` is `x - n * y` with `n` the quotient cut off toward zero.  It is
computed on whole numbers at the smaller of the two exponents, so nothing is
rounded, and it takes the sign of `x`.
-/

namespace QueryTemplate.Binary

/-- The float that stands for no number. -/
def nan : Float := 0.0 / 0.0

def Parts.mod (a b : Parts) : Parts :=
  let exponent := min a.exponent b.exponent
  ⟨a.mantissaAt exponent % b.mantissaAt exponent, exponent⟩

/-- The remainder of the division of `x` by `y`, cut off toward zero. -/
def remainder (x y : Float) : Float :=
  if x.isNaN || y.isNaN || x.isInf || y == 0.0 then nan
  else if y.isInf then x
  else
    let magnitude := ((Parts.ofFloat x).mod (Parts.ofFloat y)).toFloat
    if isNegative x then -magnitude else magnitude

/-- The remainder of a magnitude is smaller than the divisor at the common exponent. -/
theorem Parts.mod_lt (a b : Parts) (h : 0 < b.mantissa) :
    (a.mod b).mantissa < b.mantissaAt (min a.exponent b.exponent) :=
  Nat.mod_lt _ (Nat.mul_pos h (Nat.two_pow_pos _))

end QueryTemplate.Binary
