import QueryTemplate.Draft
import QueryTemplate.Node.Basic

/-!
# Composing a node

`Node.compose` adds what a node writes to a draft.  Loops, clauses and connected
parts compose their children in a nested scope with a text of its own, and then add
that text as a whole; a text of blanks alone is left out, but the mappings of its
placeholders stay.
-/

namespace QueryTemplate

namespace Connector

/-- A text without the connector at its front, if blanks follow the connector. -/
def stripOne? (word : Connector) (body : List Char) : Option (List Char) :=
  let token := word.word.toList
  let rest := body.drop token.length
  if Text.eqIgnoreCase (body.take token.length) token && rest.head?.any Text.isBlank then
    some (Text.trimStart rest)
  else none

def strip (body : List Char) : List Char :=
  match stripOne? .and body with
  | some rest => rest
  | none => (stripOne? .or body).getD body

def itemText (word : Connector) (body : String) : String :=
  if Text.isAllBlank body then "" else " " ++ word.word ++ " " ++ Text.trimmed body

/-- What a group of connected parts adds to a statement. -/
def groupText (word : Connector) (body : String) : String :=
  let inner := strip (Text.trim body.toList)
  if inner.isEmpty then "" else " " ++ word.word ++ " (" ++ String.ofList inner ++ ")"

end Connector

namespace Loop

def enter (loop : Loop) (d : Draft) (entry : Value × Value) : Draft :=
  let indexed := match loop.index with
    | some name => d.nested.bind name entry.1
    | none => d.nested
  match loop.item with
  | some name => indexed.bind name entry.2
  | none => indexed

/-- The rounds of a loop: the draft with their mappings, and the texts of those rounds that
wrote something. -/
def rounds (loop : Loop) (child : Draft → Except Error Draft) :
    Draft → Entries → Except Error (Draft × List String)
  | d, [] => .ok (d, [])
  | d, entry :: rest => do
    let inner ← child (loop.enter d entry)
    let (after, parts) ← rounds loop child (d.resume inner) rest
    return (after, if Text.isAllBlank inner.sql then parts else inner.sql :: parts)

/-- What a loop writes, or nothing when there are no entries. -/
def render (loop : Loop) (c : Configuration) (child : Draft → Except Error Draft) (d : Draft) :
    Except Error (Draft × Option String) := do
  let nullable := loop.nullable.getD c.nullable
  let entries ←
    (c.evaluator.entries loop.collection d.scope.lookup nullable).mapError .ofCollection
  match entries with
  | none => return (d, none)
  | some [] => return (d, none)
  | some entries =>
    let (after, parts) ← loop.rounds child d entries
    return (after, some (loop.opening ++ String.intercalate loop.separator parts ++ loop.closing))

end Loop

/-- Adds the list of a membership, if its test holds and the collection has entries. -/
def Membership.compose (m : Membership) (c : Configuration) (d : Draft) : Except Error Draft := do
  let applies ← match m.test with
    | some test => (c.evaluator.holds test d.scope.lookup).mapError Error.expression
    | none => .ok true
  if applies then
    match ← m.loop.render c (Draft.addStatic c m.placeholder) d with
    | (after, some list) => return after.append (" in " ++ list)
    | (after, none) => return after
  else return d

namespace Node

mutual

/-- Adds what a node writes to a draft. -/
def compose (c : Configuration) : Node → Draft → Except Error Draft
  | .static text, d => d.addStatic c text
  | .interpolated text, d => d.addInterpolated c text
  | .condition test child, d => do
    if ← (c.evaluator.holds test d.scope.lookup).mapError .expression then compose c child d
    else return d
  | .choice branches fallback, d => do
    match ← composeFirst c branches d with
    | some after => return after
    | none => composeFallback c fallback d
  | .otherwise child, d => compose c child d
  | .item connector child, d => do
    let inner ← compose c child d.nested
    return (d.resume inner).append (connector.itemText inner.sql)
  | .group connector children, d => do
    let inner ← composeAll c children d.nested
    return (d.resume inner).append (connector.groupText inner.sql)
  | .trim clause child, d => do
    let inner ← compose c child d.nested
    match clause.wrap? inner.sql with
    | some text => return (d.resume inner).appendClause text
    | none => return d.resume inner
  | .forEach loop child, d => do
    match ← loop.render c (fun inner => compose c child inner) d with
    | (after, some text) => return after.append text
    | (after, none) => return after
  | .membership m, d => m.compose c d
  | .bind name expression, d => do
    let value ← (c.evaluator.value expression d.scope.lookup).mapError .expression
    return d.bind name value
  | .sequence children, d => composeAll c children d
  | .empty, d => .ok d

def composeAll (c : Configuration) : List Node → Draft → Except Error Draft
  | [], d => .ok d
  | child :: rest, d => do
    let after ← compose c child d
    composeAll c rest after

/-- Adds the first branch whose test holds, if there is one. -/
def composeFirst (c : Configuration) :
    List (String × Node) → Draft → Except Error (Option Draft)
  | [], _ => .ok none
  | (test, child) :: rest, d => do
    if ← (c.evaluator.holds test d.scope.lookup).mapError .expression then
      return some (← compose c child d)
    else composeFirst c rest d

/-- Adds the fallback of a choice, if there is one. -/
def composeFallback (c : Configuration) : Option Node → Draft → Except Error Draft
  | none, d => .ok d
  | some child, d => compose c child d

end

end Node

end QueryTemplate
