import QueryTemplate.Mapping.Placeholder
import QueryTemplate.Node.Basic

/-!
# Checking a node

`Node.validate` checks every expression and every placeholder of a tree before any
parameter is known.  A placeholder that a value is written into is complete only
later and is left out.
-/

namespace QueryTemplate.Node

/-- Checks the body of a placeholder. -/
def validateBody (body : String) : Except Error Unit :=
  if (Text.cut Delimiters.interpolation.opening.toList body.toList).isSome then .ok ()
  else do
    let _ ← Mapping.parse body
    return ()

/-- Checks the placeholders of a text. -/
def validatePlaceholders (text : String) : Except Error Unit :=
  Delimiters.placeholder.visit validateBody text

def validateExpression (e : Evaluator) (expression : String) : Except Error Unit :=
  (e.validate expression).mapError .expression

mutual

/-- Checks every expression and placeholder of a tree. -/
def validate (e : Evaluator) : Node → Except Error Unit
  | .static text => validatePlaceholders text
  | .interpolated text => do
    Delimiters.interpolation.visit (validateExpression e) text
    validatePlaceholders text
  | .condition test child => do
    validateExpression e test
    validate e child
  | .choice branches fallback => do
    validateBranches e branches
    validateFallback e fallback
  | .otherwise child => validate e child
  | .item _ child => validate e child
  | .group _ children => validateAll e children
  | .trim _ child => validate e child
  | .forEach loop child => do
    validateExpression e loop.collection
    validate e child
  | .membership m => do
    match m.test with
    | some test => validateExpression e test
    | none => pure ()
    validateExpression e m.collection
    validatePlaceholders m.placeholder
  | .bind _ value => validateExpression e value
  | .sequence children => validateAll e children
  | .empty => .ok ()

def validateAll (e : Evaluator) : List Node → Except Error Unit
  | [] => .ok ()
  | child :: rest => do
    validate e child
    validateAll e rest

def validateBranches (e : Evaluator) : List (String × Node) → Except Error Unit
  | [] => .ok ()
  | (test, child) :: rest => do
    validateExpression e test
    validate e child
    validateBranches e rest

def validateFallback (e : Evaluator) : Option Node → Except Error Unit
  | none => .ok ()
  | some child => validate e child

end

end QueryTemplate.Node
