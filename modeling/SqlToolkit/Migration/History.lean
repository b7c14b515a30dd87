import SqlToolkit.Calendar
import SqlToolkit.Migration
import SqlToolkit.Session.Read
import SqlToolkit.Session.Schema

/-!
# The history of migrations

A table of the database remembers which migrations were applied, in which batch and when.  Its rows are read in the
order of application, which is by batch and then by id.  A row that lacks a column, or holds something unfit in it,
reads as if the column were zero, empty or unknown.  Batches are counted in 64 bits, as the table keeps them.
-/
namespace SqlToolkit

/-- A row of the history. -/
structure AppliedMigration where
  id : Int
  name : String
  batch : Int64
  executedAt : Option Moment := none
deriving DecidableEq, Repr, Inhabited

/-- The history that a table keeps; the table's name has no prefix. -/
structure History where
  table : String := "migrations"
deriving DecidableEq, Repr, Inhabited

namespace AppliedMigration

/-- The integer in a column, or zero. -/
def intColumn (row : Row) (column : String) : Int64 := ((row.get? column).bind Value.asInt?).getD 0

/-- The text in a column. -/
def textColumn? (row : Row) (column : String) : Option String := (row.get? column).bind Value.asText

/-- What a row of the table tells. -/
def ofRow (row : Row) : AppliedMigration :=
  { id := (intColumn row "id").toInt
    name := (textColumn? row "migration").getD ""
    batch := intColumn row "batch"
    executedAt := (textColumn? row "executed_at").bind Moment.read? }

/-- The greatest batch, or zero if there is none. -/
def lastBatch (applied : List AppliedMigration) : Int64 := ((applied.map batch).max?).getD 0

end AppliedMigration

namespace History
open Migration Schema
variable {σ : Type}

/-- The columns of the table. -/
def declare (b : Blueprint) : Blueprint :=
  { b with
    columns :=
      [{ name := "id", type := .increments },
        { name := "migration", type := .string, args := { length := some 255 } },
        { name := "batch", type := .integer },
        { name := "executed_at", type := .timestamp, default := some .currentTimestamp }] }

/-- Creates the table if there is none. -/
def ensureTable (h : History) : Program σ Unit := do
  let present ← lift (Session.hasTable h.table)
  if !present then
    lift (Session.createTable h.table declare)

/-- Remembers that a migration was applied in a batch. -/
def recordApplied (h : History) (name : String) (batch : Int64) : Program σ Unit := do
  let row := (({} : RowData).set "migration" (.value (.text name))).set "batch" (.value (.int batch))
  let _ ← lift (Session.insert h.table [row])

/-- Forgets a migration. -/
def recordReverted (h : History) (name : String) : Program σ Unit := do
  let _ ← lift (Session.delete h.table (({} : Criteria).field "migration" (.value (.text name))))

/-- The columns that are read. -/
def columns : SelectList := .references ["id", "migration", "batch", "executed_at"]

/-- The order of application. -/
def applicationOrder : Criteria :=
  (({} : Criteria).orderByColumn "batch" (some .ascending)).orderByColumn "id" (some .ascending)

/-- The applied migrations in the order of application. -/
def applied (h : History) : Program σ (List AppliedMigration) := do
  let rows ← lift (Session.trySelect h.table [] columns applicationOrder)
  return rows.map AppliedMigration.ofRow

/-- The newest batch, or zero when nothing is applied. -/
def lastBatch (h : History) : Program σ Int64 := do
  let applied ← h.applied
  return AppliedMigration.lastBatch applied

end History
end SqlToolkit
