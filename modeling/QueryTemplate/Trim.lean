import QueryTemplate.Error
import QueryTemplate.Text.Case
import QueryTemplate.Text.Letter

/-!
# Trimmed clauses

A clause is made from a body by taking away at most one of some texts from its
start and at most one from its end, and putting a word before and a word after
what is left.  `Clause.wrap?` does this; a body with nothing left makes no clause.

The texts to take away are kept in upper case and in order of falling length, and
the first that fits is taken.
-/

namespace QueryTemplate

/-- What is put around a body and what is taken off its ends. -/
structure Clause where
  lead : Option String := none
  trail : Option String := none
  leadOverrides : List String := []
  trailOverrides : List String := []
deriving DecidableEq, Repr

namespace Clause

/-- The texts between bars; empty ones do not count. -/
def parseOverrides (text : String) : List String :=
  (Text.fields (· == '|') text.toList).map String.ofList

/-- Sorted by falling size in bytes; texts of one size keep their order. -/
def longestFirst (overrides : List String) : List String :=
  overrides.mergeSort fun a b => b.utf8ByteSize ≤ a.utf8ByteSize

/-- Overrides in the form that a clause keeps them in; one made of blanks is refused. -/
def normalize (overrides : List String) : Except Error (List String) :=
  match overrides.find? Text.isAllBlank with
  | some blank => .error (.blankOverride blank)
  | none =>
    .ok (longestFirst (overrides.map fun o => String.ofList (Text.asciiUppercase o.toList)))

/-- A clause with the given words and overrides; an empty word counts as none. -/
def make (lead trail : Option String) (leadOverrides trailOverrides : List String) :
    Except Error Clause := do
  let leadOverrides ← normalize leadOverrides
  let trailOverrides ← normalize trailOverrides
  return {
    lead := lead.filter (!·.isEmpty), trail := trail.filter (!·.isEmpty),
    leadOverrides, trailOverrides }

/-- The clause that starts with `WHERE` and takes away a connector at the start. -/
def whereClause : Clause where
  lead := some "WHERE"
  leadOverrides :=
    longestFirst ["AND ", "OR ", "AND\n", "OR\n", "AND\r", "OR\r", "AND\t", "OR\t"]

/-- The clause that starts with `SET` and takes away a comma at either end. -/
def setClause : Clause where
  lead := some "SET"
  leadOverrides := [","]
  trailOverrides := [","]

/-- The letters, numbers and the underscore make up words. -/
def isWordChar (c : Char) : Bool :=
  Text.isAlphanumeric c || c == '_'

/-- Whether an override behind `before` does not cut a word in two. -/
def startsWord (before override : List Char) : Bool :=
  !override.head?.any isWordChar || !before.getLast?.any isWordChar

/-- A body without the first override that stands at its start. -/
def stripLead (overrides : List String) (body : List Char) : List Char :=
  match overrides.find? fun o => o.toList.isPrefixOf (Text.asciiUppercase body) with
  | some o => Text.trimStart (body.drop o.toList.length)
  | none => body

/-- Whether an override stands at the end of a body and does not cut a word there. -/
def endsIn (upper override : List Char) : Bool :=
  override.isSuffixOf upper &&
    startsWord (upper.take (upper.length - override.length)) override

/-- A body without the first override that stands at its end.  Blanks at the end of an
override do not count. -/
def stripTrail (overrides : List String) (body : List Char) : List Char :=
  match (overrides.map fun o => Text.trimEnd o.toList).find?
      (endsIn (Text.asciiUppercase body)) with
  | some o => Text.trimEnd (body.take (body.length - o.length))
  | none => body

/-- What is left of a body. -/
def core (c : Clause) (body : List Char) : List Char :=
  stripTrail c.trailOverrides (stripLead c.leadOverrides (Text.trim body))

/-- A word before a text, with a space behind it. -/
def leadText : Option String → String
  | some word => word ++ " "
  | none => ""

/-- A word after a text, with a space before it. -/
def trailText : Option String → String
  | some word => " " ++ word
  | none => ""

/-- The clause around what is left of a body, if anything is. -/
def wrap? (c : Clause) (body : String) : Option String :=
  if Text.isAllBlank body then none
  else
    let core := c.core body.toList
    if core.isEmpty then none
    else some (leadText c.lead ++ String.ofList core ++ trailText c.trail)

end Clause

end QueryTemplate
