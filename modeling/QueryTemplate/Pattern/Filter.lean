import QueryTemplate.Configuration
import QueryTemplate.Pattern.Parser
import QueryTemplate.Pattern.Search

/-!
# Filters from patterns

A filter accepts the texts that its pattern matches from end to end.  The pattern is
put between the anchors as text, so one that closes a parenthesis of its own escapes
them.
-/

namespace QueryTemplate

/-- The text of a pattern between the anchors of both ends. -/
def Filter.anchored (pattern : String) : String :=
  "^(?:" ++ pattern ++ ")$"

def Filter.ofPattern (pattern : String) : Except Error Filter :=
  match Pattern.parse? (anchored pattern).toList with
  | some p => .ok { pattern, accepts := fun text => p.found text.toList }
  | none => .error (.badFilter pattern)

end QueryTemplate
