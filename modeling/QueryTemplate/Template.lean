import QueryTemplate.Node.Compose
import QueryTemplate.Node.Validate
import QueryTemplate.Statement.Basic

/-!
# Templates

A template is a checked tree with its settings.  A tree that does not depend on the
parameter is composed once, when the template is built.
-/

namespace QueryTemplate

/-- What composing a tree gives. -/
structure Composed where
  sql : String
  mappings : List Mapping
  bindings : Members

namespace Node

def start (c : Configuration) (parameter : Value) : Draft :=
  { scope := { parameter, databaseId := c.databaseValue } }

def render (c : Configuration) (root : Node) (parameter : Value) : Except Error Composed := do
  let d ← root.compose c (start c parameter)
  return {
    sql := if c.shrinks then Text.collapsed d.sql else d.sql
    mappings := d.mappings
    bindings := d.scope.bindings }

end Node

/-- A checked tree with its settings. -/
structure Template where
  root : Node
  configuration : Configuration
  /-- What a tree that does not depend on the parameter gives. -/
  fixed : Option Composed

namespace Template

/-- Checks a tree and composes it at once if it does not depend on the parameter. -/
def build (root : Node) (c : Configuration) : Except Error Template := do
  root.validate c.evaluator
  if root.isDynamic then return { root, configuration := c, fixed := none }
  else return { root, configuration := c, fixed := some (← root.render c .null) }

/-- Whether the statement may depend on the parameter. -/
def isDynamic (t : Template) : Bool :=
  t.fixed.isNone

def statement (t : Template) (parameter : Value) : Except Error Statement := do
  let composed ← match t.fixed with
    | some composed => .ok { composed with bindings := [] }
    | none => t.root.render t.configuration parameter
  return {
    sql := composed.sql
    mappings := composed.mappings
    bindings := composed.bindings
    databaseId := t.configuration.databaseValue }

/-- The statement for a parameter that may have failed to be written as a value. -/
def statementFor (t : Template) (parameter : Except String Value) : Except Error Statement := do
  t.statement (← parameter.mapError .serialization)

end Template

end QueryTemplate
