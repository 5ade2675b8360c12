import QueryTemplate.Dialect
import QueryTemplate.Sql.OrderBy
import QueryTemplate.Statement.Basic

/-!
# Counting and paging

`Statement.count` turns a statement into one that counts its rows; an outer order is
dropped unless parameters are marked in it.  `Statement.page` restricts a statement to
one page of rows through two more parameters.
-/

namespace QueryTemplate

/-- The number of rows of a page, at least one. -/
def pageLimit (size : Int) : Int :=
  max size 1

/-- The number of rows before a page; pages count from one, and the number stops at the
largest signed word. -/
def pageOffset (size number : Int) : Int :=
  min ((max number 1 - 1) * pageLimit size) maxSigned

namespace Statement

/-- The part of a statement whose rows are counted. -/
def countedBody (sql : String) : String :=
  let (kept, cut) := Sql.splitOrderBy sql
  if cut.any fun c => c == '?' || c == '$' then sql
  else String.ofList (Text.trimEnd kept)

def count (s : Statement) : Statement :=
  { s with sql := "select count(1) from (" ++ countedBody s.sql ++ ") t" }

/-- The statement with one more parameter behind a keyword. -/
def addWindow (s : Statement) (d : Dialect) (keyword : String) (value : Int) : Statement :=
  { s with
    sql := s.sql ++ " " ++ keyword ++ " " ++ d.marker (s.mappings.length + 1)
    mappings := s.mappings ++ [Mapping.fixed keyword (Value.ofInt value)] }

def page (s : Statement) (d : Dialect) (size number : Int) : Statement :=
  (s.addWindow d "limit" (pageLimit size)).addWindow d "offset" (pageOffset size number)

end Statement

end QueryTemplate
