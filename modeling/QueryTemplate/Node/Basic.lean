import QueryTemplate.Span
import QueryTemplate.Trim

/-!
# Nodes of a template

A template is a tree of texts, conditions, choices, connected parts, clauses, loops
and bindings.  `Node.text` and `Node.choose` build the nodes that depend on what
they are given.
-/

namespace QueryTemplate

inductive Connector
  | and
  | or
deriving DecidableEq, Repr

def Connector.word : Connector → String
  | .and => "AND"
  | .or => "OR"

/-- A loop over a collection: the names of the entries' parts and the texts around and
between the rounds. -/
structure Loop where
  collection : String
  item : Option String := none
  index : Option String := none
  opening : String := ""
  closing : String := ""
  separator : String := ""
  /-- Whether the collection may be `null`; the configuration decides when it is not said. -/
  nullable : Option Bool := none
deriving DecidableEq, Repr

/-- A list of marks, one for each item of a collection. -/
structure Membership where
  collection : String
  item : String
  test : Option String := none
  nullable : Option Bool := none
deriving DecidableEq, Repr

/-- The loop that writes the list of a membership. -/
def Membership.loop (m : Membership) : Loop where
  collection := m.collection
  item := some m.item
  index := some "index"
  opening := "("
  closing := ")"
  separator := ","
  nullable := m.nullable

/-- The placeholder that each round of a membership writes. -/
def Membership.placeholder (m : Membership) : String :=
  Error.placeholderText m.item

inductive Node
  /-- A text without values written into it. -/
  | static (text : String)
  /-- A text with values written into it. -/
  | interpolated (text : String)
  /-- A part that is there only when a test holds. -/
  | condition (test : String) (child : Node)
  /-- The first part whose test holds, or the fallback. -/
  | choice (branches : List (String × Node)) (fallback : Option Node)
  /-- The fallback of a choice, before it is part of one. -/
  | otherwise (child : Node)
  /-- A part behind a connector. -/
  | item (connector : Connector) (child : Node)
  /-- Parts in parentheses behind a connector. -/
  | group (connector : Connector) (children : List Node)
  | trim (clause : Clause) (child : Node)
  | forEach (loop : Loop) (child : Node)
  | membership (m : Membership)
  | bind (name : String) (value : String)
  | sequence (children : List Node)
  | empty

instance : Inhabited Node := ⟨.empty⟩

namespace Node

/-- A text, read as one with values written into it exactly when it holds a span for one. -/
def text (text : String) : Node :=
  if Delimiters.interpolation.holdsSpan text then .interpolated text else .static text

/-- What a node is called. -/
def kind : Node → String
  | .static _ => "static text"
  | .interpolated _ => "interpolated text"
  | .condition _ _ => "condition"
  | .choice _ _ => "choose"
  | .otherwise _ => "default"
  | .group _ _ => "connector group"
  | .item _ _ => "connector item"
  | .trim _ _ => "trim"
  | .forEach _ _ => "foreach"
  | .membership _ => "in clause"
  | .bind _ _ => "bind"
  | .sequence _ => "sequence"
  | .empty => "empty"

/-- Sorts the children of a choice into branches and the fallback, which are kept as found
so far. -/
def branchesOf (branches : List (String × Node)) (fallback : Option Node) :
    List Node → Except Error Node
  | [] => .ok (.choice branches fallback)
  | .condition test child :: rest => branchesOf (branches ++ [(test, child)]) fallback rest
  | .otherwise child :: rest =>
    if fallback.isSome then .error .multipleDefaults
    else branchesOf branches (some child) rest
  | other :: _ => .error (.badChoice other.kind)

/-- A choice between conditions with at most one fallback. -/
def choose (children : List Node) : Except Error Node :=
  branchesOf [] none children

def whereClause (child : Node) : Node :=
  .trim .whereClause child

def setClause (child : Node) : Node :=
  .trim .setClause child

mutual

/-- Whether what the node writes may depend on the parameter; texts without values written
into them, and sequences of such texts, do not. -/
def isDynamic : Node → Bool
  | .static _ => false
  | .empty => false
  | .sequence children => anyDynamic children
  | _ => true

def anyDynamic : List Node → Bool
  | [] => false
  | child :: rest => child.isDynamic || anyDynamic rest

end

end Node

end QueryTemplate
