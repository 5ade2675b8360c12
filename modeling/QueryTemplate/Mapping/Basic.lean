import QueryTemplate.JdbcType
import QueryTemplate.Value.Basic

/-!
# Parameter mappings

A mapping says where the value of one parameter of a statement comes from: a
property path, an expression, or a value that was fixed when the statement was put
together.
-/

namespace QueryTemplate

inductive ParameterMode
  | input
  | output
  | inputOutput
deriving DecidableEq, Repr

namespace ParameterMode

def name : ParameterMode → String
  | .input => "IN"
  | .output => "OUT"
  | .inputOutput => "INOUT"

/-- The mode with a name, in any case and with blanks around it. -/
def ofName? (text : String) : Option ParameterMode :=
  [input, output, inputOutput].find? fun m =>
    Text.eqIgnoreCase m.name.toList (Text.trim text.toList)

end ParameterMode

/-- One parameter of a statement. -/
structure Mapping where
  property : String
  valueType : Option String := none
  jdbcType : Option JdbcType := none
  jdbcTypeName : Option String := none
  mode : ParameterMode := .input
  numericScale : Option Nat := none
  resultMap : Option String := none
  expression : Option String := none
  /-- The value that was fixed with the mapping. -/
  value : Option Value := none

namespace Mapping

/-- A mapping that carries its value. -/
def fixed (property : String) (value : Value) : Mapping :=
  { property, value := some value }

/-- The type family of a mapping; one without a tag belongs to none of the named ones. -/
def family (m : Mapping) : TypeFamily :=
  match m.jdbcType with
  | some t => t.family
  | none => .other

end Mapping

end QueryTemplate
