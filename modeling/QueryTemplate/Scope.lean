import QueryTemplate.Value.Basic

/-!
# Scopes

The names that an expression may use.  A scope is a chain of bindings, the current
ones first and the root's last, over the parameter of the statement.  A name is
looked up in the bindings from the inside out and then in the parameter: the two
reserved names stand for the whole parameter and for the name of the database, an
object gives its members, a list answers to three names for lists, and a value
without parts answers to every name.

`lookup_eq` splits a lookup into the bindings that only nested scopes hold and the
root's own answer.
-/

namespace QueryTemplate

def parameterName : String := "_parameter"

def databaseName : String := "_databaseId"

/-- The names that a parameter answers to when it is a list. -/
def listNames : List String := ["list", "collection", "array"]

/-- A chain of bindings over a parameter. -/
structure Scope where
  parameter : Value
  /-- The name of the database, or `null`. -/
  databaseId : Value := .null
  bindings : Members := []
  /-- The bindings of the scopes around this one, the nearest first. -/
  enclosing : List Members := []

namespace Scope

def isRoot (s : Scope) : Bool :=
  s.enclosing.isEmpty

def nested (s : Scope) : Scope :=
  { s with bindings := [], enclosing := s.bindings :: s.enclosing }

/-- The scope with a name bound to a value. -/
def bind (s : Scope) (name : String) (value : Value) : Scope :=
  { s with bindings := s.bindings.insert name value }

/-- All bindings of the chain, the root's last. -/
def frames (s : Scope) : List Members :=
  s.bindings :: s.enclosing

/-- The binding of a name in the nearest of some scopes that has one. -/
def findIn? (frames : List Members) (name : String) : Option Value :=
  frames.findSome? fun m => Members.get? m name

/-- The binding of a name in the nearest scope that has one, the root left out. -/
def scoped? (s : Scope) (name : String) : Option Value :=
  findIn? s.frames.dropLast name

/-- What a name stands for in the parameter. -/
def inParameter? (s : Scope) (name : String) : Option Value :=
  if name == parameterName then some s.parameter
  else if name == databaseName then some s.databaseId
  else match s.parameter with
    | .object members => Members.get? members name
    | .array _ => if listNames.contains name then some s.parameter else none
    | .null => none
    | scalar => some scalar

/-- What a name stands for. -/
def lookup (s : Scope) (name : String) : Option Value :=
  (findIn? s.frames name).or (s.inParameter? name)

/-- The scope at the end of the chain. -/
def root (s : Scope) : Scope :=
  { s with bindings := s.frames.getLast (by simp [frames]), enclosing := [] }

@[simp] theorem isRoot_nested (s : Scope) : s.nested.isRoot = false := rfl

@[simp] theorem frames_nested (s : Scope) : s.nested.frames = [] :: s.frames := rfl

/-- A lookup is answered by the nested scopes if they know the name, and by the root
otherwise. -/
theorem lookup_eq (s : Scope) (name : String) :
    s.lookup name = (s.scoped? name).or (s.root.lookup name) := by
  have h : s.frames.dropLast ++ [s.frames.getLast (by simp [frames])] = s.frames :=
    List.dropLast_concat_getLast _
  have hsplit : findIn? s.frames name =
      (findIn? s.frames.dropLast name).or (findIn? s.root.frames name) := by
    conv => lhs; rw [← h]
    simp [findIn?, root, frames, List.findSome?_append]
  have hparam : s.root.inParameter? name = s.inParameter? name := rfl
  simp only [lookup, scoped?, hsplit, hparam, Option.or_assoc]

end Scope

end QueryTemplate
