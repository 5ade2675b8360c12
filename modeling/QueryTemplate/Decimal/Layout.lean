import QueryTemplate.Decimal.Shortest

/-!
# How a float is written

The shortest digits, laid out with a point when the exponent of the leading digit
is between -5 and 15 and with an exponent mark otherwise.
-/

namespace QueryTemplate.Decimal

def digitsOf (n : Nat) : List Char :=
  Nat.toDigits 10 n

def intText (n : Int) : List Char :=
  match n with
  | .ofNat n => digitsOf n
  | .negSucc n => '-' :: digitsOf (n + 1)

def natText (n : Nat) : String :=
  String.ofList (digitsOf n)

/-- Which exponents of the leading digit are written with a plain point. -/
structure Layout where
  lowest : Int
  highest : Int

/-- Numbers from `0.00001` to below `10 ^ 16` are written with a plain point. -/
def plainRange : Layout := ⟨-5, 15⟩

/-- Digits with a point after the first `whole` of them and at least one digit on each side. -/
def pointed (digits : List Char) (whole : Int) : List Char :=
  if whole ≤ 0 then
    ['0', '.'] ++ List.replicate (-whole).toNat '0' ++ digits
  else if digits.length ≤ whole.toNat then
    digits ++ List.replicate (whole.toNat - digits.length) '0' ++ ['.', '0']
  else
    digits.take whole.toNat ++ ['.'] ++ digits.drop whole.toNat

/-- Digits with a point after the first one, if others follow, and an exponent with its sign. -/
def scientific (digits : List Char) (exponent : Int) : List Char :=
  let fraction := if digits.length ≤ 1 then [] else '.' :: digits.drop 1
  let sign := if exponent < 0 then '-' else '+'
  digits.take 1 ++ fraction ++ ['e', sign] ++ digitsOf exponent.natAbs

def Layout.write (layout : Layout) (s : Scaled) : List Char :=
  let digits := digitsOf s.digits
  let exponent := digits.length + s.exponent - 1
  if layout.lowest ≤ exponent ∧ exponent ≤ layout.highest then pointed digits (exponent + 1)
  else scientific digits exponent

/-- The text of a float.  Infinities and the float that stands for no number have their
names. -/
def floatText (x : Float) : List Char :=
  if x.isNaN then ['N', 'a', 'N']
  else
    let magnitude :=
      if x.isInf then ['i', 'n', 'f']
      else if x == 0.0 then ['0', '.', '0']
      else plainRange.write (shortest (Binary.Parts.ofFloat x))
    if Binary.isNegative x then '-' :: magnitude else magnitude

end QueryTemplate.Decimal
