import QueryTemplate.Sql.Token
import QueryTemplate.Text.Case

/-!
# The outer order of a statement

`cutOrderBy` takes the part of a statement away that starts with an `order by` of
its own level, if no other clause follows there.  What stands in parentheses, quotes
or comments does not count.
-/

namespace QueryTemplate.Sql

/-- The words that start or continue a clause; the first one starts an order. -/
def clauseWords : List String :=
  ["ORDER", "HAVING", "GROUP", "AND", "OR", "WHERE", "FROM"]

/-- Whether a word is the given one, in any case. -/
def isWord (text : List Char) (word : String) : Bool :=
  Text.eqIgnoreCase text word.toList

/-- How a token changes the number of open parentheses. -/
def Token.depthChange : Token → Int
  | .opening => 1
  | .closing => -1
  | _ => 0

/-- The word of a clause that a token is. -/
def Token.clauseWord? : Token → Option (List Char)
  | .word text => if clauseWords.any (isWord text) then some text else none
  | _ => none

/-- The number of tokens before the last word of a clause outside all parentheses, and that
word. -/
def lastClauseWord? (depth : Int) : List Token → Option (Nat × List Char)
  | [] => none
  | t :: rest =>
    match lastClauseWord? (depth + t.depthChange) rest with
    | some (n, word) => some (n + 1, word)
    | none => if depth = 0 then t.clauseWord?.map fun word => (0, word) else none

/-- Whether a text starts with blanks and the word `by`. -/
def startsWithBy (s : List Char) : Bool :=
  let body := Text.trimStart s
  isWord (body.take 2) "BY" && !(body.drop 2).head?.any isWordChar

/-- The number of tokens before the outer order. -/
def orderStart? (ts : List Token) : Option Nat :=
  match lastClauseWord? 0 ts with
  | some (n, word) =>
    if isWord word "ORDER" && startsWithBy (flatten (ts.drop (n + 1))) then some n else none
  | none => none

/-- A statement cut before its outer order: what stays and what goes. -/
def splitOrderBy (sql : String) : List Char × List Char :=
  let ts := tokens sql.toList
  match orderStart? ts with
  | some n => (flatten (ts.take n), flatten (ts.drop n))
  | none => (sql.toList, [])

def cutOrderBy (sql : String) : String :=
  String.ofList (splitOrderBy sql).1

/-- Cutting loses nothing. -/
theorem append_splitOrderBy (sql : String) :
    (splitOrderBy sql).1 ++ (splitOrderBy sql).2 = sql.toList := by
  simp only [splitOrderBy]
  split
  · simp only [flatten, ← List.flatMap_append, List.take_append_drop]
    exact flatten_tokens sql.toList
  · simp

end QueryTemplate.Sql
