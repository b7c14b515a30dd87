import SqlToolkit.Document
import SqlToolkit.Target

/-!
# Joins

A join adds a table to a query under a constraint: shared columns, pairs of columns, or raw SQL.  It can be given as
a key, where a tag in brackets tells the kind of join and an alias may follow the table in parentheses.  In a pair
the right column belongs to the joined table; the left one belongs to the main table unless it names its own.
-/
namespace SqlToolkit
open Text

/-- Which rows without a partner a join keeps. -/
inductive JoinKind where
  | inner
  | left
  | right
  | full
deriving DecidableEq, Repr, Inhabited

namespace JoinKind

def keyword : JoinKind → String
  | inner => "INNER JOIN"
  | left => "LEFT JOIN"
  | right => "RIGHT JOIN"
  | full => "FULL JOIN"

end JoinKind

/-- Which rows a join brings together. -/
inductive JoinConstraint where
  /-- Rows that agree on columns of one name. -/
  | shared (columns : List String)
  /-- Rows that agree on pairs of columns. -/
  | pairs (columns : List (String × String))
  | raw (sql : RawSql)
deriving DecidableEq, Repr, Inhabited

/-- A further table of a query. -/
structure Join where
  kind : JoinKind := .inner
  table : String
  asName : Option String := none
  constraint : Option JoinConstraint := none
deriving DecidableEq, Repr, Inhabited

namespace Join

/-! ### Keys -/

/-- The tag of a join kind at the front of a key, in brackets, and what follows it; no tag means an inner join. -/
def readKind : List Char → JoinKind × List Char
  | '[' :: '>' :: ']' :: rest => (.left, rest)
  | '[' :: '<' :: ']' :: rest => (.right, rest)
  | '[' :: '<' :: '>' :: ']' :: rest => (.full, rest)
  | '[' :: '>' :: '<' :: ']' :: rest => (.inner, rest)
  | rest => (.inner, rest)

/-- The kind, table and alias of a join key, blanks allowed between all parts. -/
def readKey (cs : List Char) : Option (JoinKind × List Char × Option (List Char)) :=
  let (kind, rest) := readKind (skipBlanks cs)
  match readName isColumnChar (skipBlanks rest) with
  | some (table, after) => (readAliasEnd after).map fun asName => (kind, table, asName)
  | none => none

/-- The join of a key under a constraint. -/
def parse (key : String) (constraint : JoinConstraint) : Except CompileError Join :=
  match readKey key.toList with
  | some (kind, table, asName) =>
    .ok ⟨kind, String.ofList table, asName.map String.ofList, some constraint⟩
  | none => .error (.invalidJoin key)

/-! ### Building -/

/-- The join under an alias. -/
def withAlias (j : Join) (asName : String) : Join := { j with asName := some asName }

/-- Adds a pair of columns; a constraint of another kind is replaced. -/
def on (j : Join) (left right : String) : Join :=
  match j.constraint with
  | some (.pairs columns) => { j with constraint := some (.pairs (columns ++ [(left, right)])) }
  | _ => { j with constraint := some (.pairs [(left, right)]) }

/-- Joins on shared columns. -/
def onShared (j : Join) (columns : List String) : Join := { j with constraint := some (.shared columns) }

/-- Joins on raw SQL. -/
def onRaw (j : Join) (sql : RawSql) : Join := { j with constraint := some (.raw sql) }

/-- The constraint of a join key's document. -/
def constraintOf (key : String) : Document → Except CompileError JoinConstraint
  | .text column => .ok (.shared [column])
  | .list items => do
    let columns ← items.mapM fun item =>
      match item.asText with
      | some column => Except.ok column
      | none => .error (.invalidJoin key)
    return .shared columns
  | .record entries => do
    let columns ← entries.mapM fun entry =>
      match entry.2.asText with
      | some right => Except.ok (entry.1, right)
      | none => .error (.invalidJoin key)
    return .pairs columns
  | _ => .error (.joinWithoutConstraint key)

/-- The joins of a record of keys and constraints, in order. -/
def ofDocument (d : Document) : Except CompileError (List Join) :=
  match d.asRecord with
  | some entries =>
    entries.mapM fun entry => do
      let constraint ← constraintOf entry.1 entry.2
      parse entry.1 constraint
  | none => .error (.invalidInput "join spec must be an object")

/-! ### Compilation -/

/-- The joined table. -/
def tableRef (j : Join) (t : Target) : TableRef := t.tableRef j.table j.asName

/-- The left column of a pair. -/
def leftColumn (main : TableRef) (t : Target) (column : String) : String :=
  if column.toList.contains '.' then t.qualifiedColumn column else main.reference ++ "." ++ column

/-- The condition of a pair of columns. -/
def pairText (j : Join) (main : TableRef) (t : Target) (left right : String) : Except CompileError String := do
  let left ← validateColumn left
  let right ← validateColumn right
  return leftColumn main t left ++ " = " ++ (j.tableRef t).reference ++ "." ++ right

/-- The text of a constraint; an empty one counts as missing. -/
def constraintText (j : Join) (main : TableRef) (t : Target) : Except CompileError String :=
  match j.constraint with
  | none | some (.shared []) | some (.pairs []) => .error (.joinWithoutConstraint j.table)
  | some (.shared columns) => do
    let columns ← columns.mapM validateColumn
    return "USING (" ++ ", ".intercalate columns ++ ")"
  | some (.pairs columns) => do
    let parts ← columns.mapM fun pair => j.pairText main t pair.1 pair.2
    return "ON " ++ " AND ".intercalate parts
  | some (.raw sql) => .ok ("ON " ++ t.renderRaw sql)

/-- The join as a clause, with a space in front. -/
def render (j : Join) (main : TableRef) (t : Target) : Except CompileError String := do
  let constraint ← j.constraintText main t
  return " " ++ j.kind.keyword ++ " " ++ (j.tableRef t).render ++ " " ++ constraint

end Join
end SqlToolkit
