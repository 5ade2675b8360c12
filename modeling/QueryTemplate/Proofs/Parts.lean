import QueryTemplate.Node.Basic

/-!
# The parts of a template

`Node.parts` lists a node and everything below it, so that a condition on a whole
template is a condition on each of its parts.  A membership has the text of its
placeholder below it.
-/

namespace QueryTemplate.Node

mutual

/-- A node and all nodes below it. -/
def parts : Node → List Node
  | .static text => [.static text]
  | .interpolated text => [.interpolated text]
  | .condition test child => .condition test child :: parts child
  | .choice branches fallback =>
    .choice branches fallback :: (partsBranches branches ++ partsFallback fallback)
  | .otherwise child => .otherwise child :: parts child
  | .item connector child => .item connector child :: parts child
  | .group connector children => .group connector children :: partsAll children
  | .trim clause child => .trim clause child :: parts child
  | .forEach loop child => .forEach loop child :: parts child
  | .membership m => [.membership m, .static m.placeholder]
  | .bind name value => [.bind name value]
  | .sequence children => .sequence children :: partsAll children
  | .empty => [.empty]

def partsAll : List Node → List Node
  | [] => []
  | child :: rest => parts child ++ partsAll rest

def partsBranches : List (String × Node) → List Node
  | [] => []
  | (_, child) :: rest => parts child ++ partsBranches rest

def partsFallback : Option Node → List Node
  | none => []
  | some child => parts child

end

end QueryTemplate.Node
