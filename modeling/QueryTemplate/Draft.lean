import QueryTemplate.Configuration
import QueryTemplate.Mapping.Placeholder
import QueryTemplate.Path
import QueryTemplate.Scope
import QueryTemplate.Span

/-!
# Drafts

A draft is a statement while it is put together: a scope, the text so far, and the
mappings of all placeholders met so far.  Text is only ever added at the end.

A placeholder met in a nested scope is given its value at once when it depends on
that scope (`capture`), because the scope will be gone when the statement runs.
-/

namespace QueryTemplate

/-- A statement while it is put together. -/
structure Draft where
  scope : Scope
  sql : String := ""
  mappings : List Mapping := []

namespace Draft

def append (d : Draft) (text : String) : Draft :=
  { d with sql := d.sql ++ text }

/-- The space that sets a clause off from a text that does not end in a blank. -/
def gap (sql : String) : String :=
  match sql.toList.getLast? with
  | some c => if Text.isBlank c then "" else " "
  | none => ""

def appendClause (d : Draft) (clause : String) : Draft :=
  { d with sql := d.sql ++ gap d.sql ++ clause }

/-- The draft with a name bound in its scope. -/
def bind (d : Draft) (name : String) (value : Value) : Draft :=
  { d with scope := d.scope.bind name value }

/-- An empty draft in a nested scope, which goes on with the mappings. -/
def nested (d : Draft) : Draft :=
  { scope := d.scope.nested, mappings := d.mappings }

/-- The draft with the mappings of a nested one. -/
def resume (d inner : Draft) : Draft :=
  { d with mappings := inner.mappings }

/-! ### Placeholders -/

/-- The value of a property path under a binding of its first name. -/
def propertyOf (bound : Value) (rest : String) : Value :=
  (Path.get? bound rest).getD .null

/-- A mapping with the value that it must have fixed in the scope. -/
def capture (c : Configuration) (scope : Scope) (m : Mapping) : Except Error Mapping :=
  if scope.isRoot then .ok m
  else match m.expression with
    | some expression => do
      let value ← (c.evaluator.value expression scope.lookup).mapError .expression
      return { m with value := some value }
    | none =>
      let (root, rest) := Path.splitRoot m.property
      match scope.scoped? root with
      | some bound => .ok { m with value := some (propertyOf bound rest) }
      | none => .ok m

/-- Reads the pieces of a text from left to right: the mappings afterwards, and the text
with a mark in place of each placeholder. -/
def collect (c : Configuration) (scope : Scope) :
    List Mapping → List Piece → Except Error (List Mapping × String)
  | mappings, [] => .ok (mappings, "")
  | mappings, .literal text :: rest => do
    let (after, tail) ← collect c scope mappings rest
    return (after, String.ofList text ++ tail)
  | mappings, .span body :: rest => do
    let parsed ← Mapping.parse (String.ofList body)
    let mapping ← capture c scope parsed
    let (after, tail) ← collect c scope (mappings ++ [mapping]) rest
    return (after, c.marker (mappings.length + 1) ++ tail)

def addStatic (c : Configuration) (text : String) (d : Draft) : Except Error Draft := do
  let (mappings, sql) ← collect c d.scope d.mappings (Delimiters.placeholder.pieces text)
  return { d with sql := d.sql ++ sql, mappings }

/-- The text of the value of an expression, if the filter lets it through. -/
def inlined (c : Configuration) (scope : Scope) (expression : String) : Except Error String := do
  let value ← (c.evaluator.value expression scope.lookup).mapError .expression
  c.check value.toText
  return value.toText

/-- Adds a text into which values are written before its placeholders are read. -/
def addInterpolated (c : Configuration) (text : String) (d : Draft) : Except Error Draft := do
  let written ← Delimiters.interpolation.replace (inlined c d.scope) text
  addStatic c written d

@[simp] theorem isRoot_nested (d : Draft) : d.nested.scope.isRoot = false := rfl

end Draft

end QueryTemplate
