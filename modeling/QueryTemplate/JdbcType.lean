import QueryTemplate.Text.Blank
import QueryTemplate.Text.Case

/-!
# Type tags

A placeholder may carry the tag of the column type that its value is meant for.
Tags are found by name in any case (`JdbcType.ofName?`), and their `family` decides
how a value is encoded.
-/

namespace QueryTemplate

inductive JdbcType
  | array
  | bit
  | tinyInt
  | smallInt
  | integer
  | bigInt
  | float
  | real
  | double
  | numeric
  | decimal
  | char
  | varChar
  | longVarChar
  | nChar
  | nVarChar
  | longNVarChar
  | clob
  | nClob
  | date
  | time
  | timestamp
  | timeWithTimezone
  | timestampWithTimezone
  | binary
  | varBinary
  | longVarBinary
  | blob
  | boolean
  | null
  | other
  | cursor
  | struct
  | sqlXml
  | undefined
deriving DecidableEq, Repr

/-- The tags by how their values are encoded. -/
inductive TypeFamily
  | integer
  | float
  | boolean
  | character
  | other
deriving DecidableEq, Repr

namespace JdbcType

def all : List JdbcType :=
  [.array, .bit, .tinyInt, .smallInt, .integer, .bigInt, .float, .real, .double, .numeric,
    .decimal, .char, .varChar, .longVarChar, .nChar, .nVarChar, .longNVarChar, .clob, .nClob,
    .date, .time, .timestamp, .timeWithTimezone, .timestampWithTimezone, .binary, .varBinary,
    .longVarBinary, .blob, .boolean, .null, .other, .cursor, .struct, .sqlXml, .undefined]

def name : JdbcType → String
  | .array => "ARRAY"
  | .bit => "BIT"
  | .tinyInt => "TINYINT"
  | .smallInt => "SMALLINT"
  | .integer => "INTEGER"
  | .bigInt => "BIGINT"
  | .float => "FLOAT"
  | .real => "REAL"
  | .double => "DOUBLE"
  | .numeric => "NUMERIC"
  | .decimal => "DECIMAL"
  | .char => "CHAR"
  | .varChar => "VARCHAR"
  | .longVarChar => "LONGVARCHAR"
  | .nChar => "NCHAR"
  | .nVarChar => "NVARCHAR"
  | .longNVarChar => "LONGNVARCHAR"
  | .clob => "CLOB"
  | .nClob => "NCLOB"
  | .date => "DATE"
  | .time => "TIME"
  | .timestamp => "TIMESTAMP"
  | .timeWithTimezone => "TIME_WITH_TIMEZONE"
  | .timestampWithTimezone => "TIMESTAMP_WITH_TIMEZONE"
  | .binary => "BINARY"
  | .varBinary => "VARBINARY"
  | .longVarBinary => "LONGVARBINARY"
  | .blob => "BLOB"
  | .boolean => "BOOLEAN"
  | .null => "NULL"
  | .other => "OTHER"
  | .cursor => "CURSOR"
  | .struct => "STRUCT"
  | .sqlXml => "SQLXML"
  | .undefined => "UNDEFINED"

/-- How values with a tag are encoded. -/
def family : JdbcType → TypeFamily
  | .tinyInt | .smallInt | .integer | .bigInt => .integer
  | .float | .real | .double | .numeric | .decimal => .float
  | .bit | .boolean => .boolean
  | .char | .varChar | .longVarChar | .nChar | .nVarChar | .longNVarChar | .clob | .nClob =>
    .character
  | _ => .other

/-- The tag with a name, in any case and with blanks around it. -/
def ofName? (text : String) : Option JdbcType :=
  all.find? fun t => Text.eqIgnoreCase t.name.toList (Text.trim text.toList)

/-- Every tag is listed. -/
theorem mem_all (t : JdbcType) : t ∈ all := by
  cases t <;> decide

end JdbcType

end QueryTemplate
