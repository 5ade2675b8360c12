import QueryTemplate.JdbcType
import QueryTemplate.Value.Render

/-!
# Arguments

What is sent to a database for the values of a statement.  `Argument.encode` decides
it from a value and the family of its type tag: `null` is sent with the type of the
family, numbers keep their kind unless the family asks for text or floats, and
values with parts are sent as their text.
-/

namespace QueryTemplate

inductive NullType
  | bigint
  | double
  | boolean
  | text
deriving DecidableEq, Repr

def NullType.name : NullType → String
  | .bigint => "BIGINT"
  | .double => "DOUBLE"
  | .boolean => "BOOLEAN"
  | .text => "TEXT"

/-- The type of a missing value for a family of tags. -/
def NullType.ofFamily : TypeFamily → NullType
  | .integer => .bigint
  | .float => .double
  | .boolean => .boolean
  | .character => .text
  | .other => .text

inductive Argument
  | null (type : NullType)
  | bool (b : Bool)
  | bigint (n : Int)
  | double (x : Float)
  | text (s : String)

namespace Argument

/-- A number without a family of its own: a signed word where it is one, the text of a
larger whole number, and a float otherwise. -/
def ofNumber : Number → Argument
  | .whole n =>
    if n.val ≤ maxSigned then .bigint n.val else .text (Value.number (.whole n)).text
  | .float x => .double x

/-- The argument for a value with a tag of the family. -/
def encode (family : TypeFamily) (v : Value) : Argument :=
  match v, family with
  | .null, _ => .null (.ofFamily family)
  | .string s, _ => .text s
  | .bool _, .character => .text v.text
  | .number _, .character => .text v.text
  | .bool b, _ => .bool b
  | .number n, .float => .double n.toFloat
  | .number n, _ => .ofNumber n
  | _, _ => .text v.text

/-- The argument for a value with an optional tag. -/
def ofValue (v : Value) (tag : Option JdbcType) : Argument :=
  encode (match tag with
    | some t => t.family
    | none => .other) v

end Argument

end QueryTemplate
