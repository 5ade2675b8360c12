import QueryTemplate.Value.Basic
import QueryTemplate.Text.Blank
import QueryTemplate.Text.Case
import QueryTemplate.Decimal.Numeral

/-!
# Equality and order of values

Numbers compare exactly when both are signed words and as floats otherwise.  A
string is compared with a number through the number it writes (`Number.ofText?`),
and with a boolean through its name in any case.  `looseEq` is the equality of the
expression language and `order?` its order, which few pairs of kinds have.
-/

namespace QueryTemplate

namespace Number

/-- How two floats are ordered; one that stands for no number is ordered with none. -/
def floatOrder? (x y : Float) : Option Ordering :=
  if x < y then some .lt
  else if x == y then some .eq
  else if y < x then some .gt
  else none

def order? (a b : Number) : Option Ordering :=
  match a.signed?, b.signed? with
  | some m, some n => some (compare m n)
  | _, _ => floatOrder? a.toFloat b.toFloat

/-- The number that a string writes, blanks at its ends apart. -/
def ofText? (s : String) : Option Number :=
  let digits := Text.trim s.toList
  match Decimal.integer? minWhole maxSigned digits with
  | some n => some (ofInt n)
  | none => (Decimal.float? digits).map .float

/-- Whether two numbers are ordered as equals. -/
def same (a b : Number) : Bool :=
  a.order? b == some .eq

end Number

namespace Value

/-- Whether a string is the name of a boolean, in any case. -/
def namesBool (s : String) (b : Bool) : Bool :=
  Text.eqIgnoreCase s.toList (if b then ['t', 'r', 'u', 'e'] else ['f', 'a', 'l', 's', 'e'])

def writesNumber (s : String) (n : Number) : Bool :=
  match Number.ofText? s with
  | some m => m.same n
  | none => false

def looseEq : Value → Value → Bool
  | .null, .null => true
  | .null, _ => false
  | _, .null => false
  | .number a, .number b => a.same b
  | .string s, .number n => writesNumber s n
  | .number n, .string s => writesNumber s n
  | .string s, .bool b => namesBool s b
  | .bool b, .string s => namesBool s b
  | a, b => a == b

/-- The order of two values, for the pairs of kinds that have one. -/
def order? : Value → Value → Option Ordering
  | .string a, .string b => some (compare a b)
  | .bool a, .bool b => some (compare a b)
  | .string s, .number n => do (← Number.ofText? s).order? n
  | .number n, .string s => do n.order? (← Number.ofText? s)
  | .number a, .number b => a.order? b
  | _, _ => none

end Value

end QueryTemplate
