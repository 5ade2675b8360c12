/-!
# Values

What a parameter, a variable and an argument hold: `null`, booleans, numbers,
strings, arrays, and objects whose members keep the order they were put in.

A number is a whole number in the range of the signed and unsigned 64-bit words
together, or a float; `1` and `1.0` are different values.  Putting a member under a
name that an object has already (`Members.insert`) keeps the place of that name:
`keys_insert` says which names an object has afterwards, and `get?_insert` what
they stand for.
-/

namespace QueryTemplate

def minWhole : Int := -Int.pow 2 63

def maxWhole : Int := Int.pow 2 64 - 1

def maxSigned : Int := Int.pow 2 63 - 1

/-- A whole number in range. -/
structure Whole where
  val : Int
  low : minWhole ≤ val
  high : val ≤ maxWhole
deriving DecidableEq, Repr

inductive Number
  | whole (n : Whole)
  | float (x : Float)
deriving Repr

namespace Number

/-- A whole number where one is in range, and the nearest float elsewhere. -/
def ofInt (n : Int) : Number :=
  if h : minWhole ≤ n ∧ n ≤ maxWhole then .whole ⟨n, h.1, h.2⟩ else .float (Float.ofInt n)

def signed? : Number → Option Int
  | .whole n => if n.val ≤ maxSigned then some n.val else none
  | .float _ => none

/-- The number as a whole number that is not negative. -/
def natural? : Number → Option Nat
  | .whole n => if 0 ≤ n.val then some n.val.toNat else none
  | .float _ => none

def toFloat : Number → Float
  | .whole n => Float.ofInt n.val
  | .float x => x

/-- The same number written the same way: a whole number equals no float. -/
protected def beq : Number → Number → Bool
  | .whole m, .whole n => m == n
  | .float x, .float y => x == y
  | _, _ => false

instance : BEq Number := ⟨Number.beq⟩

theorem ofInt_of_inRange {n : Int} (low : minWhole ≤ n) (high : n ≤ maxWhole) :
    ofInt n = .whole ⟨n, low, high⟩ := by
  simp [ofInt, low, high]

end Number

inductive Value
  | null
  | bool (b : Bool)
  | number (n : Number)
  | string (s : String)
  | array (items : List Value)
  | object (members : List (String × Value))
deriving Repr, Inhabited

/-- The members of an object, in the order they were put in. -/
abbrev Members := List (String × Value)

namespace Members

def get? (m : Members) (name : String) : Option Value :=
  m.lookup name

/-- Puts a member in: in the place of the one with its name, else at the end. -/
def insert (name : String) (value : Value) : Members → Members
  | [] => [(name, value)]
  | (key, old) :: rest =>
    if name == key then (key, value) :: rest else (key, old) :: insert name value rest

@[simp] theorem get?_nil (name : String) : get? [] name = none := rfl

theorem get?_insert (name key : String) (value : Value) (m : Members) :
    get? (insert name value m) key = if key = name then some value else get? m key := by
  induction m with
  | nil =>
    by_cases h : key = name
    · simp [insert, get?, h]
    · have h' : (key == name) = false := by simpa using h
      simp [insert, get?, List.lookup_cons, h, h']
  | cons entry rest ih =>
    obtain ⟨k, old⟩ := entry
    simp only [get?] at ih ⊢
    by_cases hk : name = k
    · subst hk
      by_cases h : key = name
      · simp [insert, h]
      · have h' : (key == name) = false := by simpa using h
        simp [insert, List.lookup_cons, h, h']
    · have hk' : (name == k) = false := by simpa using hk
      simp only [insert, hk', Bool.false_eq_true, if_false, List.lookup_cons]
      by_cases h : key = k
      · subst h
        simp [Ne.symm hk]
      · have h' : (key == k) = false := by simpa using h
        simp [h', ih]

/-- A new name comes last, and a known one keeps its place. -/
theorem keys_insert (name : String) (value : Value) (m : Members) :
    (insert name value m).map (·.1) =
      if name ∈ m.map (·.1) then m.map (·.1) else m.map (·.1) ++ [name] := by
  induction m with
  | nil => simp [insert]
  | cons entry rest ih =>
    obtain ⟨k, old⟩ := entry
    by_cases hk : name = k
    · subst hk; simp [insert]
    · have hk' : (name == k) = false := by simpa using hk
      simp only [insert, hk', Bool.false_eq_true, if_false, List.map_cons, ih, List.mem_cons, hk,
        false_or]
      split <;> simp

end Members

namespace Value

def ofInt (n : Int) : Value := .number (.ofInt n)

def ofNat (n : Nat) : Value := ofInt n

mutual

/-- Equality of two values; the order of an object's members does not matter. -/
protected def beq : Value → Value → Bool
  | .null, .null => true
  | .bool a, .bool b => a == b
  | .number a, .number b => a == b
  | .string a, .string b => a == b
  | .array a, .array b => beqItems a b
  | .object a, .object b => a.length == b.length && beqMembers a b
  | _, _ => false

def beqItems : List Value → List Value → Bool
  | [], [] => true
  | a :: as, b :: bs => Value.beq a b && beqItems as bs
  | _, _ => false

/-- Whether `other` holds an equal member for each of the members. -/
def beqMembers : List (String × Value) → List (String × Value) → Bool
  | [], _ => true
  | (name, a) :: rest, other =>
    (match other.lookup name with
      | some b => Value.beq a b
      | none => false) && beqMembers rest other

end

instance : BEq Value := ⟨Value.beq⟩

/-- Whether a condition with this value holds: everything does but `null`, `false` and
zero. -/
def isTruthy : Value → Bool
  | .null => false
  | .bool b => b
  | .number n => !(n.toFloat == 0.0)
  | _ => true

end Value

end QueryTemplate
