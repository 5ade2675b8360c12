import QueryTemplate.Argument
import QueryTemplate.Mapping.Basic
import QueryTemplate.Error
import QueryTemplate.Path
import QueryTemplate.Scope

/-!
# Statements

A composed statement: its text with a mark for each parameter, one mapping for each
mark, and the names that were bound at the root of the template.

`Statement.values` resolves the mappings against a parameter, in order of
preference: the value that was fixed, the expression, a bound name, the parameter
itself when it has no parts, and the property path.
-/

namespace QueryTemplate

structure Statement where
  sql : String
  mappings : List Mapping
  bindings : Members
  /-- The name of the database, or `null`. -/
  databaseId : Value := .null

namespace Statement

/-- What a path names in the bindings. -/
def binding? (s : Statement) (path : String) : Option Value :=
  let (root, rest) := Path.splitRoot path
  (Members.get? s.bindings root).bind (Path.get? · rest)

/-- Whether the first name of a path is bound. -/
def isBound (s : Statement) (path : String) : Bool :=
  (Members.get? s.bindings (Path.splitRoot path).1).isSome

/-- The root scope of the statement over a parameter. -/
def scope (s : Statement) (parameter : Value) : Scope :=
  { parameter, databaseId := s.databaseId, bindings := s.bindings }

/-- What a path names in a scope; something that is missing is `null`. -/
def resolve (scope : Scope) (path : String) : Value :=
  let (root, rest) := Path.splitRoot path
  ((scope.lookup root).bind (Path.get? · rest)).getD .null

/-- The value of a mapping. -/
def valueOf (s : Statement) (e : Evaluator) (parameter : Value) (m : Mapping) :
    Except Error Value :=
  match m.value, m.expression with
  | some value, _ => .ok value
  | none, some expression =>
    (e.value expression (s.scope parameter).lookup).mapError .expression
  | none, none =>
    if s.isBound m.property then .ok ((s.binding? m.property).getD .null)
    else match parameter with
      | .object _ => .ok (resolve (s.scope parameter) m.property)
      | .array _ => .ok (resolve (s.scope parameter) m.property)
      | scalar => .ok scalar

def values (s : Statement) (e : Evaluator) (parameter : Value) : Except Error (List Value) :=
  s.mappings.mapM (s.valueOf e parameter)

/-- The arguments for the values of the mappings, in order. -/
def arguments (s : Statement) (e : Evaluator) (parameter : Value) :
    Except Error (List Argument) := do
  let values ← s.values e parameter
  return s.mappings.zipWith (fun m v => .ofValue v m.jdbcType) values

end Statement

end QueryTemplate
