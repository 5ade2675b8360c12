import QueryTemplate.Value.Basic
import QueryTemplate.Decimal.Numeral
import QueryTemplate.Text.Blank
import QueryTemplate.Text.Hex

/-!
# Reading a value

`Value.read?` reads the text of one value, with gaps allowed between its parts,
and gives nothing for any other text.

A numeral without a point and without an exponent is a whole number where one is
in range.  Any other numeral is a float and is rounded twice: its leading digits,
as many as a whole number holds, are taken as a float, which is then multiplied
or divided by a power of ten.
-/

namespace QueryTemplate.Value

open Text (skipGaps length_skipGaps_le)

/-- Something read off the front of a text, and the rest of the text, which is shorter than
`bound`. -/
structure Read (α : Type) (bound : Nat) where
  value : α
  rest : List Char
  shorter : rest.length < bound

/-! ### Strings -/

def hexWord? (a b c d : Char) : Option Nat := do
  let a ← Text.hexValue? a
  let b ← Text.hexValue? b
  let c ← Text.hexValue? c
  let d ← Text.hexValue? d
  return ((a * 16 + b) * 16 + c) * 16 + d

def escaped? (c : Char) : Option Char :=
  if c == '"' || c == '\\' || c == '/' then some c
  else if c == 'n' then some '\n'
  else if c == 't' then some '\t'
  else if c == 'r' then some '\r'
  else if c == 'b' then some '\x08'
  else if c == 'f' then some '\x0c'
  else none

/-- Puts a character in front of what has been read. -/
def Read.push {m n : Nat} (c : Char) (h : m ≤ n) (r : Read (List Char) m) : Read (List Char) n :=
  ⟨c :: r.value, r.rest, Nat.lt_of_lt_of_le r.shorter h⟩

def readChars : (s : List Char) → Option (Read (List Char) s.length)
  | [] => none
  | '"' :: rest => some ⟨[], rest, by simp⟩
  | '\\' :: 'u' :: a :: b :: c :: d :: rest =>
    match hexWord? a b c d with
    | none => none
    | some unit =>
      if 0xD800 ≤ unit && unit < 0xDC00 then
        match rest with
        | '\\' :: 'u' :: e :: f :: g :: h :: tail =>
          match hexWord? e f g h with
          | none => none
          | some low =>
            if 0xDC00 ≤ low && low < 0xE000 then
              (readChars tail).map
                (Read.push (Char.ofNat (0x10000 + (unit - 0xD800) * 0x400 + (low - 0xDC00)))
                  (by simp only [List.length_cons]; omega))
            else none
        | _ => none
      else if 0xDC00 ≤ unit && unit < 0xE000 then none
      else (readChars rest).map (Read.push (Char.ofNat unit) (by simp only [List.length_cons]; omega))
  | '\\' :: c :: rest =>
    match escaped? c with
    | none => none
    | some e => (readChars rest).map (Read.push e (by simp only [List.length_cons]; omega))
  | c :: rest =>
    if c.toNat < 0x20 then none
    else (readChars rest).map (Read.push c (by simp))

/-! ### Numbers -/

/-- As many leading digits as fit behind `n` in a whole number: the number they make and the
digits that are left. -/
def takeFitting (n : Nat) : List Char → Nat × List Char
  | [] => (n, [])
  | c :: rest =>
    let next := 10 * n + (c.toNat - '0'.toNat)
    if (next : Int) ≤ maxWhole then takeFitting next rest else (n, c :: rest)

def powerOfTen (e : Nat) : Float :=
  Decimal.nearest 1 e

/-- Multiplies or divides by a power of ten; too large a product is no number.  Below
`10 ^ (-616)` nothing is left of a whole number. -/
def scaleByTen (x : Float) (e : Int) : Option Float :=
  if 0 ≤ e then
    if e ≤ 308 then
      let y := x * powerOfTen e.toNat
      if y.isInf then none else some y
    else if x == 0.0 then some x
    else none
  else if -308 ≤ e then some (x / powerOfTen (-e).toNat)
  else if -616 ≤ e then some (x / powerOfTen 308 / powerOfTen (-e - 308).toNat)
  else some 0.0

/-- The float of a numeral with the given digits before and after its point. -/
def floatOf? (whole fraction : List Char) (exponent : Int) : Option Float :=
  let (n, dropped) := takeFitting 0 whole
  let (m, unread) := takeFitting n fraction
  scaleByTen (Float.ofNat m) (dropped.length + exponent - (fraction.length - unread.length))

/-- The number of a numeral, given its sign and the three parts of its text. -/
def numberOf? (negative : Bool) (whole fraction : List Char) (exponent : Option Int) :
    Option Number :=
  if fraction.isEmpty && exponent.isNone then
    let n := Decimal.valueOfDigits whole
    if negative then
      if n = 0 then some (.float (-0.0))
      else if -(n : Int) < minWhole then (floatOf? whole [] 0).map fun x => .float (-x)
      else some (.ofInt (-n))
    else if maxWhole < n then (floatOf? whole [] 0).map .float
    else some (.ofInt n)
  else
    (floatOf? whole fraction (exponent.getD 0)).map fun x => .float (if negative then -x else x)

/-- Cuts the digits off the front of a text. -/
def cutDigits (s : List Char) : List Char × List Char :=
  (s.takeWhile Char.isDigit, s.dropWhile Char.isDigit)

/-- The exponent of a numeral: its sign and digits after the mark. -/
def cutExponent? (s : List Char) : Option (Int × List Char) :=
  let (negative, digits) := match s with
    | '-' :: rest => (true, rest)
    | '+' :: rest => (false, rest)
    | _ => (false, s)
  let (e, rest) := cutDigits digits
  if e.isEmpty then none
  else
    let n : Int := Decimal.valueOfDigits e
    some (if negative then -n else n, rest)

def readNumber (s : List Char) : Option (Read Number s.length) := do
  let (negative, unsigned) := match s with
    | '-' :: rest => (true, rest)
    | _ => (false, s)
  let (whole, afterWhole) := cutDigits unsigned
  if whole.isEmpty || (whole.head? == some '0' && 1 < whole.length) then none
  let (fraction, afterFraction) ← match afterWhole with
    | '.' :: rest =>
      let (fraction, after) := cutDigits rest
      if fraction.isEmpty then none else some (fraction, after)
    | rest => some ([], rest)
  let (exponent, rest) ← match afterFraction with
    | 'e' :: rest | 'E' :: rest => (cutExponent? rest).map fun (e, after) => (some e, after)
    | rest => some (none, rest)
  let number ← numberOf? negative whole fraction exponent
  if h : rest.length < s.length then some ⟨number, rest, h⟩ else none

/-! ### Values -/

mutual

def readValue (s : List Char) : Option (Read Value s.length) :=
  match s with
  | 'n' :: 'u' :: 'l' :: 'l' :: rest => some ⟨.null, rest, by simp only [List.length_cons]; omega⟩
  | 't' :: 'r' :: 'u' :: 'e' :: rest =>
    some ⟨.bool true, rest, by simp only [List.length_cons]; omega⟩
  | 'f' :: 'a' :: 'l' :: 's' :: 'e' :: rest =>
    some ⟨.bool false, rest, by simp only [List.length_cons]; omega⟩
  | '"' :: rest =>
    (readChars rest).map fun r =>
      ⟨.string (String.ofList r.value), r.rest, by
        have := r.shorter; simp only [List.length_cons]; omega⟩
  | '[' :: rest =>
    match h : skipGaps rest with
    | ']' :: after => some ⟨.array [], after, by
        have := length_skipGaps_le rest
        rw [h] at this; simp only [List.length_cons] at this ⊢; omega⟩
    | _ =>
      (readItems rest).map fun r => ⟨.array r.value, r.rest, by
        have := r.shorter; simp only [List.length_cons]; omega⟩
  | '\x7b' :: rest =>
    match h : skipGaps rest with
    | '\x7d' :: after => some ⟨.object [], after, by
        have := length_skipGaps_le rest
        rw [h] at this; simp only [List.length_cons] at this ⊢; omega⟩
    | _ =>
      (readMembers rest).map fun r => ⟨.object r.value, r.rest, by
        have := r.shorter; simp only [List.length_cons]; omega⟩
  | other => (readNumber other).map fun r => ⟨.number r.value, r.rest, r.shorter⟩
termination_by 2 * s.length

/-- The items of an array up to its closing bracket; there is at least one. -/
def readItems (s : List Char) : Option (Read (List Value) s.length) :=
  have hstart := length_skipGaps_le s
  match readValue (skipGaps s) with
  | none => none
  | some first =>
    have hfirst := first.shorter
    match h : skipGaps first.rest with
    | ']' :: after => some ⟨[first.value], after, by
        have := length_skipGaps_le first.rest
        rw [h] at this; simp only [List.length_cons] at this; omega⟩
    | ',' :: after =>
      have hafter : after.length < s.length := by
        have := length_skipGaps_le first.rest
        rw [h] at this; simp only [List.length_cons] at this; omega
      (readItems after).map fun r => ⟨first.value :: r.value, r.rest, by
        have := r.shorter; omega⟩
    | _ => none
termination_by 2 * s.length + 1

/-- The members of an object up to its closing brace; there is at least one. -/
def readMembers (s : List Char) : Option (Read Members s.length) :=
  match hs : skipGaps s with
  | '"' :: start =>
    have hstart : start.length < s.length := by
      have := length_skipGaps_le s
      rw [hs] at this; simp only [List.length_cons] at this; omega
    match readChars start with
    | none => none
    | some name =>
      have hname := name.shorter
      match hc : skipGaps name.rest with
      | ':' :: afterColon =>
        have hcolon : afterColon.length < name.rest.length := by
          have := length_skipGaps_le name.rest
          rw [hc] at this; simp only [List.length_cons] at this; omega
        have hvalue := length_skipGaps_le afterColon
        match readValue (skipGaps afterColon) with
        | none => none
        | some value =>
          have hshort := value.shorter
          match h : skipGaps value.rest with
          | '\x7d' :: after => some ⟨[(String.ofList name.value, value.value)], after, by
              have := length_skipGaps_le value.rest
              rw [h] at this; simp only [List.length_cons] at this; omega⟩
          | ',' :: after =>
            have hafter : after.length < s.length := by
              have := length_skipGaps_le value.rest
              rw [h] at this; simp only [List.length_cons] at this; omega
            (readMembers after).map fun r =>
              ⟨(String.ofList name.value, value.value) :: r.value, r.rest, by
                have := r.shorter; omega⟩
          | _ => none
      | _ => none
  | _ => none
termination_by 2 * s.length + 1

end

def read? (s : String) : Option Value := do
  let r ← readValue (skipGaps s.toList)
  if (skipGaps r.rest).isEmpty then some r.value else none

end QueryTemplate.Value
