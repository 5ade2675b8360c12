import QueryTemplate.Error
import QueryTemplate.Decimal.Layout

/-!
# Database dialects

The databases that statements are written for, by name, and how each of them marks
the place of a parameter.
-/

namespace QueryTemplate

inductive Dialect
  | postgreSQL
  | mySQL
  | sqlite
deriving DecidableEq, Repr

namespace Dialect

def name : Dialect → String
  | .postgreSQL => "PostgreSQL"
  | .mySQL => "MySQL"
  | .sqlite => "SQLite"

/-- The dialect of a database by its exact name. -/
def ofName (text : String) : Except Error Dialect :=
  match [postgreSQL, mySQL, sqlite].find? (·.name == text) with
  | some d => .ok d
  | none => .error (.message ("unsupported db `" ++ text ++ "`"))

/-- The mark of the parameter with the given number, counted from one. -/
def marker : Dialect → Nat → String
  | .postgreSQL, i => "$" ++ Decimal.natText i
  | .mySQL, _ => "?"
  | .sqlite, _ => "?"

end Dialect

end QueryTemplate
