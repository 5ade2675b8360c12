import QueryTemplate.Binary.Parts

/-!
# The fewest digits that read back

A decimal `digits * 10 ^ exponent` reads back as a float when it lies in the
interval of numbers that round to the float.  `shortest` tries the decimal grids
from coarse to fine and takes, on the first grid with a point inside, the one
nearest to the float.
-/

namespace QueryTemplate.Decimal

open Binary (Parts)

structure Scaled where
  digits : Nat
  exponent : Int
deriving DecidableEq, Repr

/-- The numbers that round to a float, all as multiples of one unit: the float itself,
the ends, and whether the ends belong to it. -/
structure Interval where
  low : Nat
  value : Nat
  high : Nat
  closed : Bool

/-- The interval of a float, in quarters of its last binary place.  Below a power of two
the floats lie twice as dense. -/
def Interval.ofParts (p : Parts) : Interval :=
  { low := if p.mantissa = Nat.pow 2 52 ∧ p.exponent ≠ -1074 then 4 * p.mantissa - 1
      else 4 * p.mantissa - 2
    value := 4 * p.mantissa
    high := 4 * p.mantissa + 2
    closed := p.mantissa % 2 = 0 }

/-- Whether `point`, given in the interval's unit times `scale`, lies inside. -/
def Interval.holds (i : Interval) (scale point : Nat) : Bool :=
  if i.closed then i.low * scale ≤ point && point ≤ i.high * scale
  else i.low * scale < point && point < i.high * scale

/-- The multiple of `step / scale` units that lies inside and is nearest to the value;
of two equally near the even one. -/
def Interval.nearest? (i : Interval) (scale step : Nat) : Option Nat :=
  let below := i.value * scale / step
  let above := below + 1
  let left := i.value * scale - below * step
  let right := above * step - i.value * scale
  match i.holds scale (below * step), i.holds scale (above * step) with
  | false, false => none
  | true, false => some below
  | false, true => some above
  | true, true =>
    if left < right then some below
    else if right < left then some above
    else if below % 2 = 0 then some below
    else some above

/-- The grid point of `10 ^ exponent` for the magnitude `p`. -/
def onGrid? (p : Parts) (exponent : Int) : Option Nat :=
  let unit := p.exponent - 2
  (Interval.ofParts p).nearest?
    (Nat.pow 2 unit.toNat * Nat.pow 10 (-exponent).toNat)
    (Nat.pow 2 (-unit).toNat * Nat.pow 10 exponent.toNat)

/-- The first of `count` grids with a point inside, from `10 ^ top` downward. -/
def firstGrid (p : Parts) (top : Int) : Nat → Scaled
  | 0 => ⟨0, 0⟩
  | count + 1 =>
    match onGrid? p top with
    | some digits => ⟨digits, top⟩
    | none => firstGrid p (top - 1) count

/-- The shortest decimal that reads back as the positive magnitude.  No float lies above
`10 ^ 309` or needs a grid finer than `10 ^ (-324)`. -/
def shortest (p : Parts) : Scaled :=
  firstGrid p 309 634

end QueryTemplate.Decimal
