import QueryTemplate.Text.Blank
import QueryTemplate.Decimal.Numeral
import QueryTemplate.Value.Basic

/-!
# Paths into a value

A path such as `user.tags[0]` names a value inside a value.  `segments` cuts a path
into fields and bracketed indexes; a bracket that is never closed ends the path.
`get?` follows the segments, and `splitRoot` takes the first name off a path.
-/

namespace QueryTemplate

/-- One step into a value. -/
inductive Segment
  | field (name : String)
  | index (key : String)
deriving DecidableEq, Repr

namespace Segment

/-- The member of an object, or the item of an array at a bracketed position. -/
def step? : Segment → Value → Option Value
  | .field name, .object members => Members.get? members name
  | .index key, .object members => Members.get? members key
  | .index key, .array items => do
    let i ← Decimal.unsigned? (Nat.pow 2 64) key.toList
    items[i]?
  | _, _ => none

end Segment

namespace Path

/-- The marks that end a name. -/
def isStop (c : Char) : Bool :=
  c == '.' || c == '['

/-- The text between two of the given quotes, when they are at its ends. -/
def between? (quote : Char) : List Char → Option (List Char)
  | c :: rest => if c == quote && rest.getLast? == some quote then some rest.dropLast else none
  | [] => none

def unquote (key : List Char) : List Char :=
  match between? '\'' key with
  | some inner => inner
  | none => (between? '"' key).getD key

/-- A name as a field; an empty one is no step. -/
def fieldOf (name : List Char) : List Segment :=
  if name.isEmpty then [] else [.field (String.ofList name)]

/-- The segments of a path without blanks at its ends. -/
def segmentsOf : List Char → List Segment
  | [] => []
  | c :: rest =>
    if c == '[' then
      let key := rest.takeWhile (· != ']')
      if key.length < rest.length then
        .index (String.ofList (unquote (Text.trim key))) ::
          segmentsOf (rest.drop (key.length + 1))
      else []
    else if c == '.' then
      fieldOf (Text.trim (rest.takeWhile (!isStop ·))) ++ segmentsOf (rest.dropWhile (!isStop ·))
    else
      fieldOf (Text.trim (c :: rest.takeWhile (!isStop ·))) ++
        segmentsOf (rest.dropWhile (!isStop ·))
termination_by s => s.length
decreasing_by
  all_goals simp only [List.length_cons, List.length_drop]
  · omega
  · exact Nat.lt_succ_of_le (Text.length_dropWhile_le _ _)
  · exact Nat.lt_succ_of_le (Text.length_dropWhile_le _ _)

def segments (path : String) : List Segment :=
  segmentsOf (Text.trim path.toList)

/-- The first name of a path and what follows it. -/
def splitRoot (path : String) : String × String :=
  let p := Text.trim path.toList
  (String.ofList (p.takeWhile (!isStop ·)), String.ofList (p.dropWhile (!isStop ·)))

def follow? (v : Value) (steps : List Segment) : Option Value :=
  steps.foldlM (fun v s => s.step? v) v

/-- The value that a path names inside a value. -/
def get? (v : Value) (path : String) : Option Value :=
  follow? v (segments path)

@[simp] theorem follow?_nil (v : Value) : follow? v [] = some v := rfl

theorem follow?_cons (v : Value) (s : Segment) (steps : List Segment) :
    follow? v (s :: steps) = (s.step? v).bind (follow? · steps) := by
  simp [follow?, List.foldlM_cons]

theorem follow?_append (v : Value) (a b : List Segment) :
    follow? v (a ++ b) = (follow? v a).bind (follow? · b) := by
  simp [follow?, List.foldlM_append]

/-- The empty path names the value itself. -/
@[simp] theorem get?_empty (v : Value) : get? v "" = some v := by
  rw [get?, segments, segmentsOf.eq_def]
  rfl

end Path

end QueryTemplate
