import QueryTemplate.Binary.Remainder

/-!
# Reading numerals

`natural?` reads digits, `integer?` a whole number with an optional sign inside a
range, `unsigned?` one without a minus, and `float?` a decimal with an optional
point and exponent or one of the names of infinity and of no number.  All of them
take the whole text or nothing.
-/

namespace QueryTemplate.Decimal

/-- The value of a text of digits, read from the left. -/
def valueOfDigits (s : List Char) : Nat :=
  s.foldl (fun n c => 10 * n + (c.toNat - '0'.toNat)) 0

/-- The number that a nonempty text of digits writes. -/
def natural? (s : List Char) : Option Nat :=
  if !s.isEmpty && s.all Char.isDigit then some (valueOfDigits s) else none

/-- A number with at most one plus in front, below `bound`. -/
def unsigned? (bound : Nat) (s : List Char) : Option Nat :=
  let digits := match s with
    | '+' :: rest => rest
    | _ => s
  (natural? digits).filter (· < bound)

/-- A whole number with at most one sign in front, between the two bounds. -/
def integer? (low high : Int) (s : List Char) : Option Int :=
  let value := match s with
    | '-' :: rest => (natural? rest).map fun n => -(n : Int)
    | '+' :: rest => (natural? rest).map fun n => (n : Int)
    | _ => (natural? s).map fun n => (n : Int)
  value.filter fun n => low ≤ n ∧ n ≤ high

/-- The float nearest to `digits * 10 ^ exponent`, of two equally near the even one. -/
def nearest (digits : Nat) (exponent : Int) : Float :=
  Float.ofScientific digits (exponent < 0) exponent.natAbs

def infinity : Float := 1.0 / 0.0

/-- An exponent mark with its exponent, or nothing at all. -/
def exponent? : List Char → Option Int
  | [] => some 0
  | c :: rest =>
    if c == 'e' || c == 'E' then
      match rest with
      | '-' :: digits => (natural? digits).map fun n => -(n : Int)
      | '+' :: digits => (natural? digits).map fun n => (n : Int)
      | digits => (natural? digits).map fun n => (n : Int)
    else none

/-- A decimal without a sign: digits, a point and digits with at least one digit on either
side, and an exponent. -/
def magnitude? (s : List Char) : Option Float :=
  let whole := s.takeWhile Char.isDigit
  let rest := s.dropWhile Char.isDigit
  let (fraction, tail) := match rest with
    | '.' :: after => (after.takeWhile Char.isDigit, after.dropWhile Char.isDigit)
    | _ => ([], rest)
  if whole.isEmpty && fraction.isEmpty then none
  else (exponent? tail).map fun e =>
    nearest (valueOfDigits (whole ++ fraction)) (e - fraction.length)

/-- A decimal or a name, without a sign and in any case. -/
def unsignedFloat? (s : List Char) : Option Float :=
  let name := String.ofList (s.map Char.toLower)
  if name == "inf" || name == "infinity" then some infinity
  else if name == "nan" then some Binary.nan
  else magnitude? s

/-- A decimal or a name with at most one sign in front. -/
def float? : List Char → Option Float
  | '-' :: rest => (unsignedFloat? rest).map (- ·)
  | '+' :: rest => unsignedFloat? rest
  | s => unsignedFloat? s

end QueryTemplate.Decimal
