import SqlToolkit.Proofs.Outcome
import SqlToolkit.Statement.Query
import SqlToolkit.Statement.Write

/-!
# Requests

A request names a statement to be written, with everything that it is written from.  Compiling it calls the builder
of that statement, so what holds of every request holds of all six.
-/
namespace SqlToolkit

/-- A call of one of the six statement builders. -/
inductive Request where
  | select (table : String) (joins : List Join) (items : SelectList) (criteria : Criteria)
  | aggregate (function : Aggregate) (table : String) (joins : List Join) (column : String) (criteria : Criteria)
  | insert (table : String) (rows : List RowData)
  | update (table : String) (data : RowData) (criteria : Criteria)
  | delete (table : String) (criteria : Criteria)
  | replace (table : String) (replacements : Replacements) (criteria : Criteria)

namespace Request

/-- The statement of a request for a target. -/
def compile (t : Target) : Request → Outcome Statement
  | select table joins items criteria => Statement.select t table joins items criteria
  | aggregate function table joins column criteria => Statement.aggregate t function table joins column criteria
  | insert table rows => Statement.insert t table rows
  | update table data criteria => Statement.update t table data criteria
  | delete table criteria => Statement.delete t table criteria
  | replace table replacements criteria => Statement.replace t table replacements criteria

end Request
end SqlToolkit
