import SqlToolkit.Criteria
import SqlToolkit.Join
import SqlToolkit.SelectList
import SqlToolkit.Statement

/-!
# Queries

A query selects items, or one aggregate of a column, from a table and its joins, under criteria.  Of two mistakes
the one in the joins is reported before the one in the criteria.
-/
namespace SqlToolkit

/-- A function over all rows of a group. -/
inductive Aggregate where
  | count
  | sum
  | avg
  | min
  | max
deriving DecidableEq, Repr, Inhabited

namespace Aggregate

def keyword : Aggregate → String
  | count => "COUNT"
  | sum => "SUM"
  | avg => "AVG"
  | min => "MIN"
  | max => "MAX"

/-- The alias of an aggregate in its query. -/
def asName : String := "aggregate"

end Aggregate

namespace Statement

/-- The tables of a query. -/
def fromClause (t : Target) (table : String) (joins : List Join) : Except CompileError String := do
  let main := t.parseTable table
  let rendered ← joins.mapM fun j => j.render main t
  return " FROM " ++ main.render ++ String.join rendered

/-- The query that begins with a select clause. -/
def query (t : Target) (select table : String) (joins : List Join) (criteria : Criteria) :
    Except CompileError Statement := do
  let tables ← fromClause t table joins
  let clauses ← criteria.clauses t
  return ofFragment (Fragment.raw (select ++ tables) ++ clauses)

/-- The rows of a table and its joins. -/
def select (t : Target) (table : String) (joins : List Join) (items : SelectList) (criteria : Criteria) :
    Except CompileError Statement :=
  query t ("SELECT " ++ items.render t) table joins criteria

/-- The column of an aggregate: everything, or a plain column, blanks around it ignored. -/
def aggregateColumn (column : String) : Except CompileError String :=
  let name := Text.trim column
  if name = "*" then .ok "*" else validateColumn name

/-- One aggregate over the rows of a table and its joins. -/
def aggregate (t : Target) (function : Aggregate) (table : String) (joins : List Join) (column : String)
    (criteria : Criteria) : Except CompileError Statement := do
  let column ← aggregateColumn column
  query t ("SELECT " ++ function.keyword ++ "(" ++ column ++ ") AS " ++ Aggregate.asName) table joins criteria

end Statement
end SqlToolkit
