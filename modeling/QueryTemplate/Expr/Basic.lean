import QueryTemplate.Value.Basic
import QueryTemplate.Text.Letter

/-!
# Expressions

The tree of an expression: literals, variables, members, indexes, calls of the
built-in methods, and operators.  `Level` orders the binary operators by how
tightly they bind, and `Level.spellings` lists how each of them may be written.
-/

namespace QueryTemplate

inductive Method
  | size
  | isEmpty
  | trim
  | toUpperCase
  | toLowerCase
deriving DecidableEq, Repr

def Method.ofName? (name : String) : Option Method :=
  if name == "size" || name == "length" then some .size
  else if name == "isEmpty" then some .isEmpty
  else if name == "trim" then some .trim
  else if name == "toUpperCase" then some .toUpperCase
  else if name == "toLowerCase" then some .toLowerCase
  else none

def Method.title : Method → String
  | .size => "Size"
  | .isEmpty => "IsEmpty"
  | .trim => "Trim"
  | .toUpperCase => "ToUpperCase"
  | .toLowerCase => "ToLowerCase"

inductive BinaryOp
  | or
  | and
  | eq
  | ne
  | lt
  | le
  | gt
  | ge
  | add
  | sub
  | mul
  | div
  | rem
deriving DecidableEq, Repr

def BinaryOp.title : BinaryOp → String
  | .or => "Or"
  | .and => "And"
  | .eq => "Eq"
  | .ne => "Ne"
  | .lt => "Lt"
  | .le => "Le"
  | .gt => "Gt"
  | .ge => "Ge"
  | .add => "Add"
  | .sub => "Sub"
  | .mul => "Mul"
  | .div => "Div"
  | .rem => "Rem"

inductive Expr
  | literal (value : Value)
  | variable (name : String)
  | member (base : Expr) (name : String)
  | index (base : Expr) (key : Expr)
  | call (base : Expr) (method : Method)
  | not (operand : Expr)
  | negate (operand : Expr)
  | binary (op : BinaryOp) (left : Expr) (right : Expr)
deriving Repr

namespace Expr

/-! ### Names -/

def isNameStart (c : Char) : Bool :=
  Text.isLetter c || c == '_' || c == '$'

/-- Whether a name may go on with the character. -/
def isNameChar (c : Char) : Bool :=
  Text.isAlphanumeric c || c == '_' || c == '$'

def reserved : List String :=
  ["and", "or", "not", "eq", "neq", "lt", "lte", "gt", "gte", "null", "true", "false"]

/-! ### Operators -/

/-- The binary operators by how tightly they bind, the loosest first. -/
inductive Level
  | disjunction
  | conjunction
  | equality
  | relational
  | additive
  | multiplicative
deriving DecidableEq, Repr

/-- One way to write an operator.  A word must not go on as a longer name. -/
inductive Spelling
  | sign (text : String)
  | word (text : String)
deriving DecidableEq, Repr

/-- How the operators of a level are written; where two spellings fit, the first one is
meant. -/
def Level.spellings : Level → List (Spelling × BinaryOp)
  | .disjunction => [(.sign "||", .or), (.word "or", .or)]
  | .conjunction => [(.sign "&&", .and), (.word "and", .and)]
  | .equality => [(.sign "==", .eq), (.sign "!=", .ne), (.word "eq", .eq), (.word "neq", .ne)]
  | .relational =>
    [(.sign "<=", .le), (.sign ">=", .ge), (.sign "<", .lt), (.sign ">", .gt),
      (.word "lte", .le), (.word "gte", .ge), (.word "lt", .lt), (.word "gt", .gt)]
  | .additive => [(.sign "+", .add), (.sign "-", .sub)]
  | .multiplicative => [(.sign "*", .mul), (.sign "/", .div), (.sign "%", .rem)]

def negations : List Spelling :=
  [.sign "!", .word "not"]

end Expr

end QueryTemplate
