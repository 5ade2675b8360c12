import QueryTemplate.Expr.Parser
import QueryTemplate.Expr.Eval

/-!
# Evaluators

An `Evaluator` answers the expressions of a template.  `Evaluator.ofValue` builds
one from the answer to `value`: a condition holds when its value is truthy, the
entries of an array are its positions and items, and those of an object its names
and members.  `Evaluator.standard` reads the expression language, and
`Evaluator.lookup` takes the whole text of an expression as one name.
-/

namespace QueryTemplate

/-- What can go wrong with an expression. -/
inductive ExprError
  | malformed (expression : String) (position : Nat)
  | failed (expression : String) (message : String)
  | nullValue (expression : String)
  | notIterable (expression : String) (found : Value)

def ExprError.message : ExprError → String
  | .malformed expression position =>
    "malformed expression '" ++ expression ++ "' at position " ++ Decimal.natText position
  | .failed expression message =>
    "error evaluating expression '" ++ expression ++ "': " ++ message
  | .nullValue expression => "the expression '" ++ expression ++ "' evaluated to a null value"
  | .notIterable expression found =>
    "error evaluating expression '" ++ expression ++ "', return value (" ++ found.text ++
      ") was not iterable"

/-- The pairs of key and item that a loop runs over. -/
abbrev Entries := List (Value × Value)

/-- What answers the expressions of a template, given the variables in scope. -/
structure Evaluator where
  /-- The value of an expression. -/
  value : String → (String → Option Value) → Except ExprError Value
  /-- Whether a condition holds. -/
  holds : String → (String → Option Value) → Except ExprError Bool
  /-- The entries of a collection, or none for `null` where the flag admits it. -/
  entries : String → (String → Option Value) → Bool → Except ExprError (Option Entries)
  /-- Checks an expression before any variable is known. -/
  validate : String → Except ExprError Unit

namespace Evaluator

/-- The items of a list with their positions, counted from `start`. -/
def numbered (start : Nat) : List Value → Entries
  | [] => []
  | item :: rest => (Value.ofNat start, item) :: numbered (start + 1) rest

def entriesOf (expression : String) (nullable : Bool) : Value → Except ExprError (Option Entries)
  | .null => if nullable then .ok none else .error (.nullValue expression)
  | .array items => .ok (some (numbered 0 items))
  | .object members => .ok (some (members.map fun (name, item) => (.string name, item)))
  | found => .error (.notIterable expression found)

/-- The evaluator that derives conditions and collections from values. -/
def ofValue (value : String → (String → Option Value) → Except ExprError Value)
    (validate : String → Except ExprError Unit) : Evaluator where
  value := value
  holds expression scope := do return (← value expression scope).isTruthy
  entries expression scope nullable := do
    entriesOf expression nullable (← value expression scope)
  validate := validate

def parse (expression : String) : Except ExprError Expr :=
  (Expr.parse expression).mapError (.malformed expression)

def standard : Evaluator :=
  ofValue
    (fun expression scope => do
      let e ← parse expression
      (e.eval scope).mapError fun fault => .failed expression fault.message)
    (fun expression => do
      let _ ← parse expression
      return ())

/-- The evaluator whose expressions are names. -/
def lookup : Evaluator :=
  ofValue
    (fun expression scope =>
      match scope expression with
      | some v => .ok v
      | none => .error (.failed expression "unknown name"))
    (fun _ => .ok ())

/-- The value of a text is the one of the expression that is read from it. -/
theorem standard_value_of_parse {text : String} {e : Expr} (h : Expr.parse text = .ok e)
    (scope : String → Option Value) : standard.value text scope =
      (e.eval scope).mapError fun fault => .failed text fault.message := by
  have hparse : parse text = .ok e := by
    rw [parse, h]
    rfl
  change (parse text >>= fun e => (e.eval scope).mapError _) = _
  rw [hparse]
  rfl

@[simp] theorem length_numbered (start : Nat) (items : List Value) :
    (numbered start items).length = items.length := by
  induction items generalizing start with
  | nil => rfl
  | cons item rest ih => simp [numbered, ih]

end Evaluator

end QueryTemplate
