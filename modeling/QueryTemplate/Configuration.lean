import QueryTemplate.Dialect

/-!
# Configuration

The settings that a template is composed under.
-/

namespace QueryTemplate

/-- A condition on texts that are written into a statement, and the pattern that it was
made from. -/
structure Filter where
  pattern : String
  accepts : String → Bool

/-- The settings of a template. -/
structure Configuration where
  evaluator : Evaluator := .standard
  /-- How the parameter with a number, counted from one, is marked. -/
  marker? : Option (Nat → String) := none
  /-- Whether each run of blanks in a statement becomes one space. -/
  shrinks : Bool := false
  /-- Whether a loop may run over `null` when it does not say so itself. -/
  nullable : Bool := false
  databaseId : Option String := none
  filter : Option Filter := none

namespace Configuration

def ofDialect (d : Dialect) : Configuration :=
  { marker? := some d.marker, databaseId := some d.name }

/-- The mark of the parameter with a number, counted from one. -/
def marker (c : Configuration) (i : Nat) : String :=
  match c.marker? with
  | some f => f i
  | none => "?"

def databaseValue (c : Configuration) : Value :=
  match c.databaseId with
  | some name => .string name
  | none => .null

def check (c : Configuration) (text : String) : Except Error Unit :=
  match c.filter with
  | some f => if f.accepts text then .ok () else .error (.rejected text f.pattern)
  | none => .ok ()

def flagText (b : Bool) : String :=
  if b then "true" else "false"

/-- The text of an optional string in a summary. -/
def optionText : Option String → String
  | some s => "Some(" ++ Text.quoted s ++ ")"
  | none => "None"

def summary (c : Configuration) : String :=
  "Configuration \x7b encode_placeholder_fn: " ++ flagText c.marker?.isSome ++
    ", shrink_whitespaces_in_sql: " ++ flagText c.shrinks ++
    ", nullable_on_for_each: " ++ flagText c.nullable ++
    ", database_id: " ++ optionText c.databaseId ++
    ", injection_filter: " ++ optionText (c.filter.map (·.pattern)) ++ ", .. \x7d"

end Configuration

end QueryTemplate
